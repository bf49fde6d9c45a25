import Mathlib.Algebra.BigOperators.Group.List.Basic
import Proximity.Orders.PreOrder
import Proximity.Systems.Run

/-!
# The client's app: the screen that validates an order

Each product of the order is reserved, picked up or delivered.  The switches of the screen
move it from one way to another, as far as its policy lets them.
-/

namespace Proximity.Apps.Client

open Proximity.Systems Proximity.Models Proximity.Orders

structure ProductCart where
  id : Option String
  productId : Option String
  variantId : Option String
  price : Option ℚ
  quantity : Int
  discount : ℚ
  reservation : Bool
  reservationP : ℚ
  delivery : Bool
  deliveryP : ℚ
  pickup : Bool
  reservationPolicy : Bool
  deliveryPolicy : Bool
  pickupPolicy : Bool
  deriving DecidableEq, Repr

/-! ## The products of the screen -/

/-- The product of an answered item whose pickup policy is a number. -/
def ProductCart.ofItem (prod : PreOrderItem) (pickupPolicy : ℚ) : ProductCart where
  id := some prod.id
  productId := some (toString prod.productId)
  variantId := some prod.variantId
  price := some prod.price
  quantity := prod.quantity
  discount := prod.discount
  reservation := prod.reservation
  reservationP := prod.reservationP
  delivery := prod.delivery
  deliveryP := prod.deliveryP
  pickup := prod.pickup
  reservationPolicy := prod.reservation && prod.reservationPolicy.isSome
  deliveryPolicy := true
  pickupPolicy := decide (0 < pickupPolicy)

/-- `CartService.order`.  Items that are answered with an error are left out; a pickup
policy that is `null` cannot be compared, and no screen is opened. -/
def order : List (Except String PreOrderItem) → Option (List ProductCart)
  | [] => some []
  | .error _ :: rest => order rest
  | .ok prod :: rest =>
      match prod.pickupPolicy with
      | none => none
      | some pickupPolicy =>
          (order rest).map fun products => .ofItem prod pickupPolicy :: products

/-- The products are those of the answered items. -/
theorem order_mem_iff {entries : List (Except String PreOrderItem)} {products : List ProductCart}
    (built : order entries = some products) {item : ProductCart} :
    item ∈ products ↔ ∃ prod limit, .ok prod ∈ entries ∧ prod.pickupPolicy = some limit ∧
      item = .ofItem prod limit := by
  induction entries generalizing products with
  | nil =>
      cases built
      simp
  | cons entry rest ih =>
      cases entry with
      | error message =>
          rw [ih built]
          simp
      | ok prod =>
          rw [order] at built
          cases limited : prod.pickupPolicy with
          | none =>
              rw [limited] at built
              cases built
          | some limit =>
              rw [limited] at built
              obtain ⟨later, ordered, rfl⟩ := Option.map_eq_some_iff.mp built
              rw [List.mem_cons, ih ordered]
              constructor
              · rintro (rfl | ⟨other, otherLimit, member, found, rfl⟩)
                · exact ⟨prod, limit, List.mem_cons_self, limited, rfl⟩
                · exact ⟨other, otherLimit, List.mem_cons_of_mem _ member, found, rfl⟩
              · rintro ⟨other, otherLimit, member, found, rfl⟩
                rcases List.mem_cons.mp member with same | later
                · cases same
                  cases limited.symm.trans found
                  exact Or.inl rfl
                · exact Or.inr ⟨other, otherLimit, later, found, rfl⟩

/-! ## The switches -/

/-- The first product of the id is changed. -/
def changeFirst (id : Option String) (change : ProductCart → ProductCart)
    (products : List ProductCart) : List ProductCart :=
  products.modify (products.findIdx fun item => decide (item.id = id)) change

/-- A switch of the first product of the id; to anything but a Boolean it throws. -/
def switchFirst (value : Option Bool) (id : Option String)
    (change : Bool → ProductCart → ProductCart) (products : List ProductCart) :
    List ProductCart :=
  match value with
  | none => products
  | some value => changeFirst id (change value) products

/-- Without a pickup policy `pickup` is left as it is. -/
def ProductCart.setReservation (value : Bool) (item : ProductCart) : ProductCart :=
  if value = true then
    if item.pickupPolicy = true then
      { item with reservation := true, delivery := false, pickup := true }
    else { item with reservation := true, delivery := true }
  else { item with reservation := false }

def ProductCart.setPickup (value : Bool) (item : ProductCart) : ProductCart :=
  if item.deliveryPolicy = true then
    if value = true then { item with pickup := true, delivery := false }
    else if item.delivery = false then { item with pickup := true }
    else { item with pickup := false }
  else item

def ProductCart.setDelivery (value : Bool) (item : ProductCart) : ProductCart :=
  if item.pickupPolicy = true then
    if value = true then { item with delivery := true, pickup := false }
    else if item.pickup = false then { item with delivery := true }
    else { item with delivery := false }
  else item

def toggleReservation (value : Option Bool) (id : Option String) :
    List ProductCart → List ProductCart :=
  switchFirst value id ProductCart.setReservation

def togglePickup (value : Option Bool) (id : Option String) :
    List ProductCart → List ProductCart :=
  switchFirst value id ProductCart.setPickup

def toggleDelivery (value : Option Bool) (id : Option String) :
    List ProductCart → List ProductCart :=
  switchFirst value id ProductCart.setDelivery

def changeQuantity (value : Int) (id : Option String) : List ProductCart → List ProductCart :=
  changeFirst id fun item => { item with quantity := value }

def deleteProduct (id : Option String) (products : List ProductCart) : List ProductCart :=
  products.filter fun item => !decide (item.id = id)

/-- A call of one of the screen's methods. -/
inductive ScreenCall where
  | toggleReservation (value : Option Bool) (id : Option String)
  | togglePickup (value : Option Bool) (id : Option String)
  | toggleDelivery (value : Option Bool) (id : Option String)
  | changeQuantity (value : Int) (id : Option String)
  | deleteProduct (id : Option String)

def screen? (products : List ProductCart) : ScreenCall → Option (List ProductCart)
  | .toggleReservation value id => some (toggleReservation value id products)
  | .togglePickup value id => some (togglePickup value id products)
  | .toggleDelivery value id => some (toggleDelivery value id products)
  | .changeQuantity value id => some (changeQuantity value id products)
  | .deleteProduct id => some (deleteProduct id products)

def getReservationItems (products : List ProductCart) : List ProductCart :=
  products.filter fun item => item.reservation

def getDeliveryItems (products : List ProductCart) : List ProductCart :=
  products.filter fun item => !(item.reservation || !item.delivery)

def getPickupItems (products : List ProductCart) : List ProductCart :=
  products.filter fun item => !(item.reservation || !item.pickup)

/-! ## The orders that are posted -/

structure PaymentInfos where
  deliveryAmount : Option ℚ
  reservationAmount : ℚ
  totalAmount : ℚ
  deriving DecidableEq, Repr

/-- Only an item of a reservation has a `reservation`. -/
structure ItemForm where
  productId : String
  variantId : String
  price : Option ℚ
  discount : ℚ
  quantity : Int
  reservation : Option ℚ
  deriving DecidableEq, Repr

structure OrderForm where
  clientId : ObjectId
  storeId : Option ObjectId
  paymentInfos : PaymentInfos
  items : List ItemForm
  reservation : Bool
  pickUp : Bool
  delivery : Bool
  deriving DecidableEq, Repr

/-- The part of `OrderSliderValidation` that the posted orders are made of. -/
structure OrderSlider where
  products : List ProductCart
  totalDelivery : Option ℚ
  storeId : Option ObjectId
  orderId : Option ObjectId

/-- A sum over the products of a list; a price that is `null` throws. -/
def itemsTotal (start : ℚ) (amount : ProductCart → ℚ → ℚ) (items : List ProductCart) : Option ℚ :=
  items.foldlM (fun total item => item.price.map fun price => total + amount item price) start

theorem itemsTotal_eq_some {amount : ProductCart → ℚ → ℚ} {items : List ProductCart}
    (priced : ∀ item ∈ items, item.price.isSome = true) (start : ℚ) :
    itemsTotal start amount items =
      some (start + (items.map fun item => amount item (item.price.getD 0)).sum) := by
  induction items generalizing start with
  | nil => simp [itemsTotal]
  | cons item rest ih =>
      rw [List.forall_mem_cons] at priced
      obtain ⟨price, given⟩ := Option.isSome_iff_exists.mp priced.1
      rw [itemsTotal, List.foldlM_cons, given, Option.map_some, Option.bind_eq_bind,
        Option.bind_some, ← itemsTotal, ih priced.2, List.map_cons, List.sum_cons, given,
        Option.getD_some, add_assoc]

/-- There is a total exactly when every product of the list has a price. -/
theorem itemsTotal_isSome_iff {amount : ProductCart → ℚ → ℚ} {items : List ProductCart}
    {start : ℚ} : (itemsTotal start amount items).isSome = true ↔
      ∀ item ∈ items, item.price.isSome = true := by
  constructor
  · intro summed
    induction items generalizing start with
    | nil => simp
    | cons item rest ih =>
        rw [itemsTotal, List.foldlM_cons] at summed
        cases given : item.price with
        | none =>
            rw [given] at summed
            cases summed
        | some price =>
            rw [given, Option.map_some, Option.bind_eq_bind, Option.bind_some, ← itemsTotal]
              at summed
            exact List.forall_mem_cons.mpr ⟨by rw [given, Option.isSome_some], ih summed⟩
  · intro priced
    rw [itemsTotal_eq_some priced, Option.isSome_some]

def getReservationItemsTotal (slider : OrderSlider) : Option ℚ :=
  itemsTotal 0 (fun item price => price * item.quantity * item.reservationP * (1 - item.discount))
    (getReservationItems slider.products)

def getDeliveryItemsTotal (slider : OrderSlider) : Option ℚ :=
  itemsTotal (slider.totalDelivery.getD 0)
    (fun item price => price * item.quantity * (1 - item.discount))
    (getDeliveryItems slider.products)

def getPickupItemsTotal (slider : OrderSlider) : Option ℚ :=
  itemsTotal 0 (fun item price => price * item.quantity * (1 - item.discount))
    (getPickupItems slider.products)

def ProductCart.form (item : ProductCart) (reservation : Option ℚ) : ItemForm where
  productId := item.productId.getD ""
  variantId := item.variantId.getD ""
  price := item.price
  discount := item.discount
  quantity := item.quantity
  reservation := reservation

/-- A list that is not empty is posted as an order. -/
def posted? (items : List ProductCart) (total : Option ℚ) (form : ℚ → OrderForm) :
    Option (List OrderForm) :=
  if items = [] then some [] else total.map fun total => [form total]

/-- `id` is that of the stored credentials. -/
def toFormDataCard (slider : OrderSlider) (id : ObjectId) : Option (List OrderForm) := do
  let currentPickupItems := getPickupItems slider.products
  let currentDeliveryItems := getDeliveryItems slider.products
  let currentReservationItems := getReservationItems slider.products
  let pickupOrders ← posted? currentPickupItems (getPickupItemsTotal slider) fun total =>
    { clientId := id
      storeId := slider.storeId
      paymentInfos := ⟨some 0, 0, total⟩
      items := currentPickupItems.map fun item => item.form none
      reservation := false
      pickUp := true
      delivery := false }
  let deliveryOrders ← posted? currentDeliveryItems (getDeliveryItemsTotal slider) fun total =>
    { clientId := id
      storeId := slider.storeId
      paymentInfos := ⟨slider.totalDelivery, 0, total⟩
      items := currentDeliveryItems.map fun item => item.form none
      reservation := false
      pickUp := false
      delivery := true }
  let reservationOrders ←
    posted? currentReservationItems (getReservationItemsTotal slider) fun total =>
      { clientId := id
        storeId := slider.storeId
        paymentInfos := ⟨some 0, total, total⟩
        items := currentReservationItems.map fun item => item.form (some item.reservationP)
        reservation := true
        pickUp := false
        delivery := false }
  return pickupOrders ++ deliveryOrders ++ reservationOrders

end Proximity.Apps.Client
