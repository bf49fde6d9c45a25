import Mathlib.Algebra.Order.Ring.Rat
import Mathlib.Tactic.NormNum
import Proximity.Carts.Service
import Proximity.Systems.Run

/-!
# What `addToCart` stores

An accepted request puts one item into the user's cart, priced with the offer that
is live at the time.
-/

namespace Proximity.Carts

open Proximity.Systems Proximity.Models Proximity.Catalogue

/-! ## Quantities -/

theorem orderedQuantity_eq_iff {variant : Variant} {requested : ℚ} :
    orderedQuantity variant requested = requested ↔ requested ≤ variant.quantity := by
  unfold orderedQuantity
  split
  case isTrue short =>
      exact ⟨fun same => same.ge, fun enough => le_antisymm short enough⟩
  case isFalse long => exact ⟨fun _ => (not_le.mp long).le, fun _ => rfl⟩

theorem orderedQuantity_le (variant : Variant) (requested : ℚ) :
    orderedQuantity variant requested ≤ requested := by
  unfold orderedQuantity
  split
  case isTrue short => exact short
  case isFalse => exact le_rfl

theorem orderedQuantity_ne_zero {variant : Variant} {requested : ℚ}
    (stocked : variant.quantity ≠ 0) (atLeastOne : 1 ≤ requested) :
    orderedQuantity variant requested ≠ 0 := by
  unfold orderedQuantity
  split
  case isTrue => exact stocked
  case isFalse => exact (zero_lt_one.trans_le atLeastOne).ne'

/-! ## Live offers -/

theorem liveOffer?_eq_some_iff {offers : Collection Offer} {now : Time} {product : Product}
    {offer : Offer} :
    liveOffer? offers now product = some offer ↔
      ∃ id, product.offer = some id ∧ offers.findById? id = some offer ∧
        now < offer.offerExpiration ∧ offer.offerStock ≠ 0 ∧ offer.offerDeleted = false := by
  unfold liveOffer?
  cases product.offer with
  | none => simp
  | some id => simp [Option.filter_eq_some_iff, Offer.active, and_assoc]

theorem discountedQuantity_eq_zero_iff {offers : Collection Offer} {now : Time}
    {product : Product} {quantity : ℚ} (ordered : quantity ≠ 0) :
    discountedQuantity (liveOffer? offers now product) quantity = 0 ↔
      liveOffer? offers now product = none := by
  cases live : liveOffer? offers now product with
  | none => simp [discountedQuantity]
  | some offer =>
      obtain ⟨id, -, -, -, stocked, -⟩ := liveOffer?_eq_some_iff.mp live
      simp only [discountedQuantity, reduceCtorEq, iff_false]
      split
      case isTrue => exact stocked
      case isFalse => exact ordered

/-! ## The item -/

/-- The item of the body's variant stands where the first one stood, or last. -/
theorem putItem_split (body : ItemBody) (variant : Variant) (offer? : Option Offer)
    (quantity : ℚ) (items : List CartItem) :
    ∃ before productId after,
      putItem body variant offer? quantity items =
        before ++ pricedItem productId body.variantId variant offer? quantity :: after ∧
      (∀ item ∈ before, item.variantId ≠ body.variantId) ∧
      ∀ item ∈ before ++ after, item ∈ items := by
  induction items with
  | nil => exact ⟨[], body.productId, [], rfl, by simp, by simp⟩
  | cons item rest ih =>
      by_cases same : item.variantId = body.variantId
      · refine ⟨[], item.productId, rest, ?_, by simp, fun _ => List.mem_cons_of_mem item⟩
        rw [putItem, if_pos same, same]
        rfl
      · obtain ⟨before, productId, after, put, others, kept⟩ := ih
        refine ⟨item :: before, productId, after, ?_, List.forall_mem_cons.mpr ⟨same, others⟩, ?_⟩
        · rw [putItem, if_neg same, put]
          rfl
        · rw [List.cons_append, List.forall_mem_cons]
          exact ⟨List.mem_cons_self, fun other member =>
            List.mem_cons_of_mem item (kept other member)⟩

theorem find?_item {before after : List CartItem} {item : CartItem}
    (others : ∀ other ∈ before, other.variantId ≠ item.variantId) :
    (before ++ item :: after).find? (fun other => decide (other.variantId = item.variantId)) =
      some item := by
  have passed : before.find? (fun other => decide (other.variantId = item.variantId)) = none := by
    simpa using others
  simp [List.find?_append, passed]

theorem Shop.cartOrNew_userId (shop : Shop) (user : ObjectId) :
    (shop.cartOrNew user).userId = user := by
  unfold cartOrNew
  cases stored : shop.cart? user with
  | none => rfl
  | some cart => exact (Collection.findById?_eq_some_iff.mp stored).2

theorem addToCart_eq_ok_iff {shop : Shop} {now : Time} {user : ObjectId} {body : ItemBody}
    {cart : Cart} :
    addToCart shop now user body = .ok cart ↔
      ∃ product, shop.catalogue.products.findById? body.productId = some product ∧
        product.deleted = false ∧
        ∃ variant, variant? product body.variantId = some variant ∧
          (variant.available = true ∧ variant.quantity ≠ 0) ∧
          ∃ requested, body.quantity = some requested ∧
            { shop.cartOrNew user with
              items := putItem body variant (liveOffer? shop.catalogue.offers now product)
                (orderedQuantity variant requested) (shop.cartOrNew user).items } = cart := by
  simp [addToCart]

/-- What an accepted request has found, and where its item stands in the cart. -/
structure Accepted (shop : Shop) (now : Time) (user : ObjectId) (body : ItemBody) (cart : Cart)
    (product : Product) (variant : Variant) (requested : ℚ) (productId : ObjectId)
    (before after : List CartItem) : Prop where
  product_found : shop.catalogue.products.findById? body.productId = some product
  variant_found : variant? product body.variantId = some variant
  stocked : variant.quantity ≠ 0
  given : body.quantity = some requested
  userId : cart.userId = user
  put : cart.items = putItem body variant (liveOffer? shop.catalogue.offers now product)
    (orderedQuantity variant requested) (shop.cartOrNew user).items
  items : cart.items = before ++ pricedItem productId body.variantId variant
    (liveOffer? shop.catalogue.offers now product) (orderedQuantity variant requested) :: after
  others : ∀ item ∈ before, item.variantId ≠ body.variantId
  kept : ∀ item ∈ before ++ after, item ∈ (shop.cartOrNew user).items

theorem addToCart_accepted {shop : Shop} {now : Time} {user : ObjectId} {body : ItemBody}
    {cart : Cart} (answered : addToCart shop now user body = .ok cart) :
    ∃ product variant requested productId before after,
      Accepted shop now user body cart product variant requested productId before after := by
  obtain ⟨product, product_found, -, variant, variant_found, ⟨-, stocked⟩, requested, given,
    rfl⟩ := addToCart_eq_ok_iff.mp answered
  obtain ⟨before, productId, after, put, others, kept⟩ := putItem_split body variant
    (liveOffer? shop.catalogue.offers now product) (orderedQuantity variant requested)
    (shop.cartOrNew user).items
  exact ⟨product, variant, requested, productId, before, after, product_found, variant_found,
    stocked, given, shop.cartOrNew_userId user, rfl, put, others, kept⟩

/-- The saved cart answers with the item of the request. -/
theorem Accepted.item? {shop : Shop} {now : Time} {user : ObjectId} {body : ItemBody}
    {cart : Cart} {product : Product} {variant : Variant} {requested : ℚ} {productId : ObjectId}
    {before after : List CartItem}
    (accepted : Accepted shop now user body cart product variant requested productId before after) :
    (shop.save cart).item? user body.variantId =
      some (pricedItem productId body.variantId variant
        (liveOffer? shop.catalogue.offers now product) (orderedQuantity variant requested)) := by
  have others : ∀ other ∈ before, other.variantId ≠ (pricedItem productId body.variantId variant
      (liveOffer? shop.catalogue.offers now product)
      (orderedQuantity variant requested)).variantId := accepted.others
  rw [← accepted.userId, Shop.item?, Shop.save_cart?, Option.bind_some, accepted.items]
  exact find?_item others

/-- The items of other variants stay. -/
theorem find?_putItem_of_ne {body : ItemBody} {variantId : String} (variant : Variant)
    (offer? : Option Offer) (quantity : ℚ) (items : List CartItem)
    (other : body.variantId ≠ variantId) :
    (putItem body variant offer? quantity items).find?
        (fun item => decide (item.variantId = variantId)) =
      items.find? fun item => decide (item.variantId = variantId) := by
  induction items with
  | nil => exact List.find?_cons_of_neg fun same => other (of_decide_eq_true same)
  | cons item rest ih =>
      rw [putItem]
      split
      case isTrue same =>
          have elsewhere : item.variantId ≠ variantId := same ▸ other
          have skips : ∀ one : CartItem, one.variantId ≠ variantId →
              (one :: rest).find? (fun item => decide (item.variantId = variantId)) =
                rest.find? fun item => decide (item.variantId = variantId) :=
            fun one apart => List.find?_cons_of_neg fun found => apart (of_decide_eq_true found)
          exact Eq.trans (skips _ elsewhere) (skips _ elsewhere).symm
      case isFalse => rw [List.find?_cons, List.find?_cons, ih]

theorem Accepted.item?_of_ne {shop : Shop} {now : Time} {user : ObjectId} {body : ItemBody}
    {cart : Cart} {product : Product} {variant : Variant} {requested : ℚ} {productId : ObjectId}
    {before after : List CartItem} {variantId : String}
    (accepted : Accepted shop now user body cart product variant requested productId before after)
    (other : body.variantId ≠ variantId) :
    (shop.save cart).item? user variantId = shop.item? user variantId := by
  have stored : (shop.save cart).item? user variantId =
      (shop.cartOrNew user).items.find? fun item => decide (item.variantId = variantId) := by
    rw [← accepted.userId, Shop.item?, Shop.save_cart?, Option.bind_some, accepted.put,
      find?_putItem_of_ne _ _ _ _ other, accepted.userId]
  rw [stored, Shop.item?, Shop.cartOrNew]
  cases shop.cart? user with
  | none => rfl
  | some cart => rfl

/-- The item is what `addToCart`, asked at `time` for the product's variant, has stored. -/
def Stored (catalogue : Database) (time : Time) (product : Product) (variant : Variant)
    (item : CartItem) : Prop :=
  ∃ shop user body cart, shop.catalogue = catalogue ∧
    catalogue.products.findById? body.productId = some product ∧
    variant? product body.variantId = some variant ∧
    addToCart shop time user body = .ok cart ∧
    (shop.save cart).item? user body.variantId = some item

theorem Stored.product_found {catalogue : Database} {time : Time} {product : Product}
    {variant : Variant} {item : CartItem} (stored : Stored catalogue time product variant item) :
    catalogue.products.findById? product.id = some product := by
  obtain ⟨_, _, _, _, -, product_found, -⟩ := stored
  have same : product.id = _ := (Collection.findById?_eq_some_iff.mp product_found).2
  rwa [same]

/-- A stored item is priced with the offer that was live. -/
theorem Stored.item_eq {catalogue : Database} {time : Time} {product : Product}
    {variant : Variant} {item : CartItem} (stored : Stored catalogue time product variant item) :
    item = pricedItem item.productId item.variantId variant
      (liveOffer? catalogue.offers time product) item.quantity := by
  obtain ⟨shop, user, body, cart, rfl, product_found, variant_found, answered, kept⟩ := stored
  obtain ⟨_, _, _, _, _, _, accepted⟩ := addToCart_accepted answered
  cases product_found.symm.trans accepted.product_found
  cases variant_found.symm.trans accepted.variant_found
  cases kept.symm.trans accepted.item?
  rfl

/-! ## Runs of requests -/

structure Request where
  time : Time
  user : ObjectId
  body : ItemBody

/-- A refused request changes nothing. -/
def step? (shop : Shop) (request : Request) : Option Shop :=
  match addToCart shop request.time request.user request.body with
  | .ok cart => some (shop.save cart)
  | .error _ => some shop

/-- Every item of every cart is what some request has stored. -/
def AllStored (shop : Shop) : Prop :=
  ∀ cart ∈ shop.carts.docs, ∀ item ∈ cart.items,
    ∃ time product variant, Stored shop.catalogue time product variant item

theorem mem_save {shop : Shop} {cart other : Cart}
    (member : other ∈ (shop.save cart).carts.docs) : other ∈ shop.carts.docs ∨ other = cart := by
  cases stored : shop.cart? cart.userId with
  | none =>
      simp only [Shop.save, stored] at member
      exact (Collection.mem_insert.mp member).imp_right And.right
  | some before =>
      simp only [Shop.save, stored] at member
      rcases Collection.mem_update.mp member with ⟨old, -⟩ | ⟨same, found, rfl⟩
      · exact Or.inl old
      · have userId : same.userId = cart.userId := (Collection.findById?_eq_some_iff.mp found).2
        refine Or.inr ?_
        change ({ cart with userId := same.userId } : Cart) = cart
        rw [userId]

/-- What was in the user's cart before was stored by some request. -/
theorem stored_of_cartOrNew {shop : Shop} (all : AllStored shop) (user : ObjectId)
    {item : CartItem} (member : item ∈ (shop.cartOrNew user).items) :
    ∃ time product variant, Stored shop.catalogue time product variant item := by
  unfold Shop.cartOrNew at member
  cases stored : shop.cart? user with
  | none => simp [stored] at member
  | some cart =>
      rw [stored] at member
      exact all cart (Collection.findById?_eq_some_iff.mp stored).1 item member

theorem step_allStored {shop target : Shop} {request : Request} (all : AllStored shop)
    (stepped : step? shop request = some target) : AllStored target := by
  unfold step? at stepped
  split at stepped
  case h_2 =>
      cases stepped
      exact all
  case h_1 cart answered =>
      cases stepped
      intro other member item contained
      rcases mem_save member with old | rfl
      · exact all other old item contained
      · obtain ⟨product, variant, requested, productId, before, after, accepted⟩ :=
          addToCart_accepted answered
        rw [accepted.items, List.mem_append, List.mem_cons] at contained
        rcases contained with left | rfl | right
        · exact stored_of_cartOrNew all request.user
            (accepted.kept item (List.mem_append_left after left))
        · exact ⟨request.time, product, variant, shop, request.user, request.body, other, rfl,
            accepted.product_found, accepted.variant_found, answered, accepted.item?⟩
        · exact stored_of_cartOrNew all request.user
            (accepted.kept item (List.mem_append_right before right))

/-- From carts whose items were stored by requests, so are the items of every later cart. -/
theorem allStored_of_run {shop : Shop} (all : AllStored shop) (requests : List Request) :
    Always step? AllStored shop requests :=
  always_of_preserved (fun _ _ _ holds stepped => step_allStored holds stepped) all requests

/-! ## A shop with one product -/

def soldVariant : Variant := ⟨"a", [], 100, 5, none, true⟩

def soldProduct (offer : Option ObjectId) : Product where
  id := 20
  name := "product"
  description := ""
  price := 100
  storeCategoryId := 50
  categoryId := 51
  subCategoryId := 52
  rayonId := 53
  images := []
  tags := []
  variants := [soldVariant]
  sellerId := 2
  storeId := 10
  deleted := false
  discount := 0
  discountType := none
  discountExpiration := 86400000
  offer := offer
  policy := none
  counters := ⟨0, 0, 0⟩

/-- A fifth off one unit, for a day. -/
def promotion : Offer where
  id := 30
  sellerId := 2
  storeId := 10
  productId := 20
  offerDiscount := 20
  offerStock := 1
  offerExpiration := 86400000
  offerStatus := .active
  offerDeleted := false
  offerName := none
  offerImage := none
  offerDescription := none
  discountType := .percentage

def corner (offer : Option ObjectId) : Shop where
  catalogue := ⟨⟨[soldProduct offer], by simp⟩, Collection.empty, ⟨[promotion], by simp⟩, []⟩
  carts := Collection.empty

theorem twoUnits_atLeastOne : ∀ number : ℚ, some 2 = some number → 1 ≤ number := by
  rintro number ⟨⟩
  norm_num

def twoUnits : ItemBody := ⟨20, "a", some 2, twoUnits_atLeastOne⟩

/-- The cart of user 7 once two units of the product are in it. -/
def cornerCart (discount discountQuantity totalPrice : ℚ) : Cart :=
  ⟨7, [⟨20, "a", discount, 2, discountQuantity, totalPrice⟩], 0, 0⟩

theorem corner_full : addToCart (corner none) 0 7 twoUnits =
    .ok (cornerCart 0 0 200) := by
  decide +kernel

theorem corner_discounted : addToCart (corner (some 30)) 0 7 twoUnits =
    .ok (cornerCart 20 1 180) := by
  decide +kernel

end Proximity.Carts
