import Proximity.Carts.Distinct
import Proximity.Orders.EffectivePolicy

/-!
# The pre-order of a cart

`getPreOrderItems` checks the asked items against the cart, names the store of the first one,
and answers each of them by itself.
-/

namespace Proximity.Orders

open Proximity.Systems Proximity.Models Proximity.Carts

/-- An item of the request's text; its quantity is `none` when `parseInt` makes no number of
it. -/
abbrev RequestedItem := PreOrderElementOf (Option Int)

/-- `items` are those that the text of the body holds. -/
structure PreOrderBody where
  cartId : ObjectId
  clientId : ObjectId
  items : List RequestedItem
  deriving DecidableEq, Repr

structure PreOrder where
  storeId : ObjectId
  cartId : ObjectId
  storeName : String
  maxDeliveryFixe : ℚ
  maxDeliveryKm : ℚ
  items : List (Except String (PreOrderItemOf (Option Int)))

/-- The carts are found by their users, and by ids of their own. -/
structure Desk extends Conditions where
  carts : Collection Cart
  cartOwner : ObjectId → Option ObjectId

/-- The cart of the id, or else the cart of the client. -/
def Desk.cart? (desk : Desk) (body : PreOrderBody) : Option Cart :=
  (desk.cartOwner body.cartId).bind desk.carts.findById? <|> desk.carts.findById? body.clientId

/-- As many items of the cart are asked for as items are asked for. -/
def SameItems (cart : Cart) (items : List RequestedItem) : Prop :=
  (cart.items.filter fun el =>
    decide (el.variantId ∈ items.map PreOrderElementOf.variantId)).length = items.length

instance (cart : Cart) (items : List RequestedItem) : Decidable (SameItems cart items) :=
  inferInstanceAs (Decidable (_ = _))

/-- The greatest number among the entries without an error, or `0`. -/
def greatest (number : PreOrderItemOf (Option Int) → ℚ)
    (entries : List (Except String (PreOrderItemOf (Option Int)))) : ℚ :=
  entries.foldl (fun max entry =>
    match entry with
    | .ok item => if max < number item then number item else max
    | .error _ => max) 0

def Offering.firstProduct? (offering : Offering) (variantId : String) : Option Product :=
  offering.products.findOne? fun product =>
    product.variants.any fun variant => decide (variant.id = variantId)

def getPreOrderItems (desk : Desk) (body : PreOrderBody) : Except String PreOrder := do
  let cart ← found "cart not found" (desk.cart? body)
  -- `user._doc` is logged before the user is checked.
  let _ ← found "Cannot read properties of null (reading '_doc')"
    (desk.users.findById? body.clientId)
  match body.items with
  | [] => .error "items not found"
  | first :: rest => do
      require "Order without same items of the cart" (SameItems cart (first :: rest))
      let firstProduct ← found "Store not found" (desk.firstProduct? first.variantId)
      let store ← found "Store not found" (desk.stores.findById? firstProduct.storeId)
      let items := asyncMapPreOrderItems desk.toOffering (first :: rest)
      return {
        storeId := store.id
        cartId := body.cartId
        storeName := store.name
        maxDeliveryFixe := greatest PreOrderItemOf.deliveryFixe items
        maxDeliveryKm := greatest PreOrderItemOf.deliveryP items
        items := items }

/-! ## The check of the items -/

/-- After any run of the cart service the check passes for the items of different variants that
are all in the cart, and for no others. -/
theorem sameItems_iff (catalogue : Proximity.Catalogue.Database) (events : List CartEvent)
    {shop : Shop} (reached : run? cartEvent? ⟨catalogue, Collection.empty⟩ events = some shop)
    {user : ObjectId} {cart : Cart} (stored : shop.cart? user = some cart)
    (items : List RequestedItem) :
    SameItems cart items ↔
      (items.map PreOrderElementOf.variantId).Nodup ∧
        ∀ item ∈ items, ∃ inCart ∈ cart.items, inCart.variantId = item.variantId := by
  have distinct : cart.variantIds.Nodup := (allDistinct_of_run catalogue events).target reached
    cart (Collection.findById?_eq_some_iff.mp stored).1
  have counted : _ ↔ (items.map PreOrderElementOf.variantId).Nodup ∧ _ :=
    length_asked_iff distinct
  simpa [SameItems, Cart.variantIds, List.filter_map, Function.comp_def] using counted

/-- The product of the corner shop in two variants. -/
def variantShop : Shop where
  catalogue :=
    { (corner none).catalogue with
      products := ⟨[{ soldProduct none with
        variants := [soldVariant, { soldVariant with id := "b", quantity := 2 }] }], by simp⟩ }
  carts := Collection.empty

theorem oneUnit_atLeastOne : ∀ number : ℚ, some 1 = some number → 1 ≤ number := by
  rintro number ⟨⟩
  exact le_rfl

def oneUnit : ItemBody := ⟨20, "b", some 1, oneUnit_atLeastOne⟩

/-- Two units of the one variant and one of the other. -/
def variantCart : Cart :=
  ⟨7, [⟨20, "a", 0, 2, 0, 200⟩, ⟨20, "b", 0, 1, 0, 100⟩], 0, 0⟩

/-- Two additions fill the cart.  Its variants are asked for, one of them twice, and one that is
not in it. -/
theorem cornerCart_sameItems_iff :
    run? cartEvent? ⟨variantShop.catalogue, Collection.empty⟩
        [.addToCart ⟨0, 7, twoUnits⟩, .addToCart ⟨0, 7, oneUnit⟩] =
      some ((variantShop.save (cornerCart 0 0 200)).save variantCart) ∧
    ∀ items ∈ [[⟨"b", some 1⟩, ⟨"a", some 2⟩], [⟨"a", some 2⟩, ⟨"b", some 1⟩, ⟨"a", some 1⟩],
        [⟨"a", some 2⟩, (⟨"c", some 1⟩ : RequestedItem)]],
      SameItems variantCart items ↔
        (items.map PreOrderElementOf.variantId).Nodup ∧
          ∀ item ∈ items, ∃ inCart ∈ variantCart.items, inCart.variantId = item.variantId := by
  have first : addToCart variantShop 0 7 twoUnits = .ok (cornerCart 0 0 200) := by decide +kernel
  have second : addToCart (variantShop.save (cornerCart 0 0 200)) 0 7 oneUnit =
      .ok variantCart := by decide +kernel
  have reached : run? cartEvent? ⟨variantShop.catalogue, Collection.empty⟩
      [.addToCart ⟨0, 7, twoUnits⟩, .addToCart ⟨0, 7, oneUnit⟩] =
        some ((variantShop.save (cornerCart 0 0 200)).save variantCart) := by
    change run? cartEvent? variantShop _ = _
    simp only [run?, cartEvent?, Carts.step?, first, Option.bind_some, second]
  refine ⟨reached, fun items _ => ?_⟩
  exact sameItems_iff variantShop.catalogue _ reached
    ((variantShop.save (cornerCart 0 0 200)).save_cart? variantCart) items

/-! ## The entries -/

/-- An entry without an error is for at least one unit and at most the variant's stock, of a
product of the store; more than the stock is answered with an error. -/
structure Orderable (desk : Desk) (storeId : ObjectId) (asked : RequestedItem)
    (entry : Except String (PreOrderItemOf (Option Int))) : Prop where
  fits : ∀ item, entry = .ok item →
    ∃ product variant quantity,
      desk.sold? asked.variantId = some (product, variant) ∧ item.variantId = variant.id ∧
      item.productId = product.id ∧ item.quantity = some quantity ∧
      asked.orderQuantity = some quantity ∧
      1 ≤ quantity ∧ (quantity : ℚ) ≤ variant.quantity ∧ product.storeId = storeId
  exceeds : ∀ product variant quantity, desk.sold? asked.variantId = some (product, variant) →
    asked.orderQuantity = some quantity → variant.quantity < quantity →
    ∃ message, entry = .error message

/-- The store of the first product that has the first asked variant. -/
def Offering.firstStoreId? (offering : Offering) (items : List RequestedItem) :
    Option ObjectId :=
  items.head?.bind fun first => (offering.firstProduct? first.variantId).map Product.storeId

/-- What is asked for of a variant that is for sale is in stock, in the store of the first. -/
def InStock (desk : Desk) (items : List RequestedItem) : Prop :=
  ∀ asked ∈ items, ∀ product variant, desk.sold? asked.variantId = some (product, variant) →
    ∃ quantity, asked.orderQuantity = some quantity ∧ 1 ≤ quantity ∧
      (quantity : ℚ) ≤ variant.quantity ∧
      desk.firstStoreId? items = some product.storeId

/-- What an accepted request has found. -/
theorem getPreOrderItems_spec {desk : Desk} {body : PreOrderBody} {preOrder : PreOrder}
    (accepted : getPreOrderItems desk body = .ok preOrder) :
    desk.firstStoreId? body.items = some preOrder.storeId ∧
      preOrder.items = asyncMapPreOrderItems desk.toOffering body.items := by
  unfold getPreOrderItems at accepted
  obtain ⟨cart, -, accepted⟩ := bind_eq_ok_iff.mp accepted
  obtain ⟨user, -, accepted⟩ := bind_eq_ok_iff.mp accepted
  cases items : body.items with
  | nil =>
      rw [items] at accepted
      cases accepted
  | cons first rest =>
      rw [items] at accepted
      obtain ⟨_, -, accepted⟩ := bind_eq_ok_iff.mp accepted
      obtain ⟨firstProduct, product_found, accepted⟩ := bind_eq_ok_iff.mp accepted
      obtain ⟨store, store_found, accepted⟩ := bind_eq_ok_iff.mp accepted
      cases accepted
      have same : store.id = firstProduct.storeId :=
        (Collection.findById?_eq_some_iff.mp (found_eq_ok_iff.mp store_found)).2
      refine ⟨?_, rfl⟩
      simp [Offering.firstStoreId?, found_eq_ok_iff.mp product_found, same]

/-- The quantity is never compared in the end: an entry has an error only without a variant. -/
theorem myAsyncFuncPreOrderItems_of_sold {Quantity : Type} {offering : Offering}
    {asked : PreOrderElementOf Quantity} {product : Product} {variant : Variant}
    (sold : offering.sold? asked.variantId = some (product, variant)) :
    ∃ item, myAsyncFuncPreOrderItems offering asked = .ok item ∧ item.variantId = variant.id ∧
      item.productId = product.id ∧ item.quantity = asked.orderQuantity := by
  unfold myAsyncFuncPreOrderItems
  rw [sold]
  exact ⟨_, rfl, rfl, rfl, rfl⟩

theorem myAsyncFuncPreOrderItems_of_unsold {Quantity : Type} {offering : Offering}
    {asked : PreOrderElementOf Quantity} (unsold : offering.sold? asked.variantId = none) :
    myAsyncFuncPreOrderItems offering asked = .error "Product not found" := by
  unfold myAsyncFuncPreOrderItems
  rw [unsold]

/-- One entry is orderable exactly when what is asked for is in stock, in the store. -/
theorem orderable_iff {desk : Desk} {storeId : ObjectId} {asked : RequestedItem} :
    Orderable desk storeId asked (myAsyncFuncPreOrderItems desk.toOffering asked) ↔
      ∀ product variant, desk.sold? asked.variantId = some (product, variant) →
        ∃ quantity, asked.orderQuantity = some quantity ∧ 1 ≤ quantity ∧
          (quantity : ℚ) ≤ variant.quantity ∧ product.storeId = storeId := by
  cases sold : desk.sold? asked.variantId with
  | none =>
      rw [myAsyncFuncPreOrderItems_of_unsold sold]
      refine iff_of_true ⟨fun item answered => ?_, fun _ _ _ _ _ _ => ⟨_, rfl⟩⟩ ?_
      · cases answered
      · rintro product variant ⟨⟩
  | some pair =>
      obtain ⟨product, variant⟩ := pair
      obtain ⟨item, answered, of_variant, of_product, quantity_eq⟩ :=
        myAsyncFuncPreOrderItems_of_sold sold
      rw [answered]
      constructor
      · rintro ⟨fits, -⟩ product' variant' same
        cases same
        obtain ⟨_, _, quantity, found, -, -, -, given, positive, stocked, store⟩ :=
          fits item rfl
        cases sold.symm.trans found
        exact ⟨quantity, given, positive, stocked, store⟩
      · intro enough
        obtain ⟨quantity, given, positive, stocked, store⟩ := enough product variant rfl
        refine ⟨?_, ?_⟩
        · intro other same
          cases same
          exact ⟨product, variant, quantity, sold, of_variant, of_product,
            quantity_eq.trans given, given, positive, stocked, store⟩
        · intro product' variant' quantity' found asked_for more
          cases sold.symm.trans found
          cases given.symm.trans asked_for
          exact absurd stocked (not_le_of_gt more)

/-- The entries of an accepted request are orderable exactly when what is asked for is in stock,
in the store of the first. -/
theorem getPreOrderItems_orderable_iff {desk : Desk} {body : PreOrderBody} {preOrder : PreOrder}
    (accepted : getPreOrderItems desk body = .ok preOrder) :
    List.Forall₂ (Orderable desk preOrder.storeId) body.items preOrder.items ↔
      InStock desk body.items := by
  obtain ⟨store, entries⟩ := getPreOrderItems_spec accepted
  rw [entries, asyncMapPreOrderItems, List.forall₂_map_right_iff, List.forall₂_same]
  simp only [orderable_iff, InStock, store, Option.some.injEq, eq_comm]

/-- The shop of one product, its seller and its store, and a client with two units in the cart. -/
def cornerDesk : Desk where
  products := (corner none).catalogue.products
  ofProduct := fun _ => none
  ofUser := fun _ => none
  stores := ⟨[⟨10, 2, "corner", "", "", true⟩], by simp⟩
  users := ⟨[⟨7, none, none, none, "", .user, true, true, none⟩], by simp⟩
  ofStore := fun _ => none
  usersOnly := fun _ _ => rfl
  carts := ⟨[cornerCart 0 0 200], by simp⟩
  cartOwner := fun _ => some 7

/-- The client asks for some units of the product. -/
def asksFor (quantity : Int) : PreOrderBody := ⟨40, 7, [⟨"a", some quantity⟩]⟩

theorem asksFor_accepted (quantity : Int) :
    ∃ preOrder, getPreOrderItems cornerDesk (asksFor quantity) = .ok preOrder := by
  have cart : cornerDesk.cart? (asksFor quantity) = some (cornerCart 0 0 200) := rfl
  have user : cornerDesk.users.findById? (asksFor quantity).clientId =
      some ⟨7, none, none, none, "", .user, true, true, none⟩ := rfl
  have same : SameItems (cornerCart 0 0 200) [⟨"a", some quantity⟩] := by
    simp [SameItems, cornerCart]
  have product : cornerDesk.firstProduct? "a" = some (soldProduct none) := by
    simp [Offering.firstProduct?, cornerDesk, corner, Collection.findOne?, soldProduct,
      soldVariant]
  have store : cornerDesk.stores.findById? (soldProduct none).storeId =
      some ⟨10, 2, "corner", "", "", true⟩ := rfl
  simp only [asksFor] at cart user
  simp [getPreOrderItems, cart, user, asksFor, same, product, store]

theorem corner_sold : cornerDesk.sold? "a" = some (soldProduct none, soldVariant) := by
  simp [Offering.sold?, cornerDesk, corner, Collection.findOne?, soldProduct, soldVariant]

/-- Nine units of a variant that has five. -/
theorem nine_not_orderable :
    ∃ preOrder, getPreOrderItems cornerDesk (asksFor 9) = .ok preOrder ∧
      ¬ List.Forall₂ (Orderable cornerDesk preOrder.storeId) (asksFor 9).items
        preOrder.items := by
  obtain ⟨preOrder, accepted⟩ := asksFor_accepted 9
  obtain ⟨-, entries⟩ := getPreOrderItems_spec accepted
  refine ⟨preOrder, accepted, fun all => ?_⟩
  rw [entries] at all
  cases all with
  | cons first rest =>
      obtain ⟨quantity, given, -, stocked, -⟩ :=
        orderable_iff.mp first (soldProduct none) soldVariant corner_sold
      cases given
      revert stocked
      decide

/-- The shop of the two variants, both of them in the cart. -/
def variantDesk : Desk :=
  { cornerDesk with
    products := variantShop.catalogue.products
    carts := ⟨[variantCart], by simp⟩ }

/-- Both variants, with some units of the second. -/
def asksForBoth (quantity : Int) : PreOrderBody := ⟨40, 7, [⟨"a", some 2⟩, ⟨"b", some quantity⟩]⟩

/-- What is left of the second variant, and more. -/
theorem twoUnits_orderable : ∃ left more,
    getPreOrderItems variantDesk (asksForBoth 2) = .ok left ∧
      getPreOrderItems variantDesk (asksForBoth 3) = .ok more ∧
      (List.Forall₂ (Orderable variantDesk left.storeId) (asksForBoth 2).items left.items ↔
        InStock variantDesk (asksForBoth 2).items) ∧
      (List.Forall₂ (Orderable variantDesk more.storeId) (asksForBoth 3).items more.items ↔
        InStock variantDesk (asksForBoth 3).items) :=
  ⟨_, _, rfl, rfl, getPreOrderItems_orderable_iff rfl, getPreOrderItems_orderable_iff rfl⟩

end Proximity.Orders
