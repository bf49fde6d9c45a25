import Proximity.Apps.Checkout

/-!
# The client's app: the two encoders of an order

A screen is posted in one of two ways: with a contact chosen among the stored ones, or with
the card that was typed in.  Each encoder splits the products by the way they are had.
-/

namespace Proximity.Apps.Client

open Proximity.Systems Proximity.Models

/-- A product with what only the encoders read; `policy` is what its policy is encoded to. -/
structure OrderedProduct extends ProductCart where
  name : Option String
  image : Option String
  policy : Option String
  deriving DecidableEq, Repr

/-- The `infos` of a contact, key by key. -/
structure ContactInfos where
  name : Option String
  phone : Option String
  city : Option String
  street : Option String
  street2 : Option String
  postalCode : Option String
  deriving DecidableEq, Repr

structure InfosContact where
  infos : ContactInfos
  selected : Bool
  deriving DecidableEq, Repr

structure PickupPerson where
  name : String
  selected : Bool
  deriving DecidableEq, Repr

structure Address where
  lat : Option ℚ
  lng : Option ℚ
  city : Option String
  streetName : Option String
  postalCode : Option String
  fullAddress : Option String
  region : Option String
  countryName : Option String
  deriving DecidableEq, Repr

structure OrderSliderValidation where
  products : List OrderedProduct
  cartId : Option String
  storeId : Option ObjectId
  orderId : Option ObjectId
  cardNumber : Option String
  expdate : Option String
  cvc : Option String
  name : Option String
  phone : Option String
  city : Option String
  street : Option String
  street2 : Option String
  postalCode : Option String
  pickupName : Option String
  pickupNif : Option String
  deliveryAdresse : Option Address
  distance : Option ℚ
  totalDelivery : Option ℚ
  pickupPersons : Option (List PickupPerson)
  infosContact : Option (List InfosContact)

/-! ## What is posted -/

structure Card where
  cardNumber : Option String
  ccv : Option String
  expdate : Option String
  name : String
  phone : String
  address_city : String
  address_line1 : String
  address_line2 : String
  postalCode : String
  deriving DecidableEq, Repr

/-- An amount that is missing reads as `null`. -/
structure PostedPayment where
  deliveryAmount : Option ℚ
  reservationAmount : Option ℚ
  totalAmount : ℚ
  paymentMethodeId : Nat
  card : Card
  deriving DecidableEq, Repr

structure PostedPerson where
  name : String
  nif : Option String
  deriving DecidableEq, Repr

structure ShippingAddress where
  city : String
  streetName : String
  postalCode : String
  fullAdress : String
  region : String
  country : String
  countryCode : String
  deriving DecidableEq, Repr

structure PostedItem where
  productId : String
  variantId : String
  name : String
  image : String
  price : Option ℚ
  discount : ℚ
  quantity : Int
  reservation : Option ℚ
  policy : Option String
  deriving DecidableEq, Repr

/-- `reservation` is `none` where the key is missing; `timeLimit` is `null` in every order. -/
structure PostedOrder where
  clientId : ObjectId
  storeId : Option ObjectId
  cartId : Option String
  pickupPerson : Option PostedPerson
  deliveryAddresse : Option ShippingAddress
  deliveryLocation : Option (ℚ × ℚ)
  distance : Option ℚ
  paymentInfos : PostedPayment
  items : List PostedItem
  reservation : Option Bool
  pickUp : Bool
  delivery : Bool
  deriving DecidableEq, Repr

structure FormData where
  orders : List PostedOrder
  orderId : Option ObjectId
  persons : List String
  cards : List Card
  deriving DecidableEq, Repr

/-! ## The groups -/

/-- The three ways in which a product can be had. -/
inductive Mode where
  | pickup
  | delivery
  | reservation
  deriving DecidableEq, Repr

/-- A reserved product is in no other group. -/
def Mode.takes : Mode → ProductCart → Bool
  | .pickup, item => !(item.reservation || !item.pickup)
  | .delivery, item => !(item.reservation || !item.delivery)
  | .reservation, item => item.reservation

/-- What the screen of `Checkout` keeps of this one. -/
def OrderSliderValidation.plain (slider : OrderSliderValidation) : OrderSlider where
  products := slider.products.map OrderedProduct.toProductCart
  totalDelivery := slider.totalDelivery
  storeId := slider.storeId
  orderId := slider.orderId

def OrderSliderValidation.items (slider : OrderSliderValidation) (mode : Mode) :
    List OrderedProduct :=
  slider.products.filter fun item => mode.takes item.toProductCart

def OrderSliderValidation.total (slider : OrderSliderValidation) : Mode → Option ℚ
  | .pickup => getPickupItemsTotal slider.plain
  | .delivery => getDeliveryItemsTotal slider.plain
  | .reservation => getReservationItemsTotal slider.plain

/-! ## The encoders -/

def ContactInfos.card (infos : ContactInfos) : Card where
  cardNumber := none
  ccv := none
  expdate := none
  name := infos.name.getD ""
  phone := infos.phone.getD ""
  address_city := infos.city.getD ""
  address_line1 := infos.street.getD ""
  address_line2 := infos.street2.getD ""
  postalCode := infos.postalCode.getD ""

/-- The card that was typed in. -/
def OrderSliderValidation.typedCard (slider : OrderSliderValidation) : Card where
  cardNumber := some (slider.cardNumber.getD "")
  ccv := some (slider.cvc.getD "")
  expdate := some (slider.expdate.getD "")
  name := slider.name.getD ""
  phone := slider.phone.getD ""
  address_city := slider.city.getD ""
  address_line1 := slider.street.getD ""
  address_line2 := slider.street2.getD ""
  postalCode := slider.postalCode.getD ""

def OrderSliderValidation.shippingAddress (slider : OrderSliderValidation) : ShippingAddress where
  city := (slider.deliveryAdresse.bind Address.city).getD ""
  streetName := (slider.deliveryAdresse.bind Address.streetName).getD ""
  postalCode := (slider.deliveryAdresse.bind Address.postalCode).getD ""
  fullAdress := (slider.deliveryAdresse.bind Address.fullAddress).getD ""
  region := (slider.deliveryAdresse.bind Address.region).getD ""
  country := (slider.deliveryAdresse.bind Address.countryName).getD ""
  countryCode := "FR"

def OrderSliderValidation.shippingLocation (slider : OrderSliderValidation) : ℚ × ℚ :=
  ((slider.deliveryAdresse.bind Address.lat).getD 0,
    (slider.deliveryAdresse.bind Address.lng).getD 0)

def OrderedProduct.posted (item : OrderedProduct) (reservation : Option ℚ)
    (policy : Option String) : PostedItem where
  productId := item.productId.getD ""
  variantId := item.variantId.getD ""
  name := item.name.getD ""
  image := item.image.getD ""
  price := item.price
  discount := item.discount
  quantity := item.quantity
  reservation := reservation
  policy := policy

/-- `element.policy!.toJson()` throws without a policy. -/
def OrderedProduct.postedWithPolicy (item : OrderedProduct) : Option PostedItem :=
  item.policy.map fun policy => item.posted none (some policy)

/-- An order of a group; the person, the payment and the flag are those of the encoder. -/
def OrderSliderValidation.order (slider : OrderSliderValidation) (id : ObjectId) (mode : Mode)
    (reservation : Option Bool) (pickupPerson : Option PostedPerson)
    (paymentInfos : PostedPayment) (items : List PostedItem) : PostedOrder where
  clientId := id
  storeId := slider.storeId
  cartId := slider.cartId
  pickupPerson := pickupPerson
  deliveryAddresse := if mode = .delivery then some slider.shippingAddress else none
  deliveryLocation := if mode = .delivery then some slider.shippingLocation else none
  distance := if mode = .pickup then none else slider.distance
  paymentInfos := paymentInfos
  items := items
  reservation := reservation
  pickUp := decide (mode = .pickup)
  delivery := decide (mode = .delivery)

/-- A group that is not empty is posted as an order. -/
def OrderSliderValidation.group? (slider : OrderSliderValidation) (mode : Mode)
    (order : List OrderedProduct → ℚ → Option PostedOrder) : Option (List PostedOrder) :=
  if slider.items mode = [] then some []
  else do
    let total ← slider.total mode
    let order ← order (slider.items mode) total
    return [order]

/-- There is no order for the reserved products. -/
def OrderSliderValidation.toFormData (slider : OrderSliderValidation) (id : ObjectId) :
    Option FormData := do
  let infosContact ← slider.infosContact
  let selectedCard ← infosContact.find? InfosContact.selected
  let card := selectedCard.infos.card
  let pickupOrders ← slider.group? .pickup fun items total => do
    let pickupPersons ← slider.pickupPersons
    let person ← pickupPersons.find? PickupPerson.selected
    let items ← items.mapM OrderedProduct.postedWithPolicy
    return slider.order id .pickup none (some ⟨person.name, none⟩) ⟨none, none, total, 1, card⟩
      items
  let deliveryOrders ← slider.group? .delivery fun items total => do
    let items ← items.mapM OrderedProduct.postedWithPolicy
    return slider.order id .delivery none none ⟨none, none, total, 1, card⟩ items
  let pickupPersons ← slider.pickupPersons
  return {
    orders := pickupOrders ++ deliveryOrders
    orderId := slider.orderId
    persons := pickupPersons.map PickupPerson.name
    cards := infosContact.map fun element => element.infos.card }

def OrderSliderValidation.toFormDataCard (slider : OrderSliderValidation) (id : ObjectId) :
    Option FormData := do
  let card := slider.typedCard
  let pickupOrders ← slider.group? .pickup fun items total =>
    some (slider.order id .pickup (some false)
      (some ⟨slider.pickupName.getD "", some (slider.pickupNif.getD "")⟩)
      ⟨some 0, some 0, total, 1, card⟩ (items.map fun element => element.posted none none))
  let deliveryOrders ← slider.group? .delivery fun items total =>
    some (slider.order id .delivery (some false) none
      ⟨slider.totalDelivery, some 0, total, 1, card⟩
      (items.map fun element => element.posted none none))
  let reservationOrders ← slider.group? .reservation fun items total =>
    some (slider.order id .reservation (some true) none
      ⟨some 0, some total, total, 1, card⟩
      (items.map fun element => element.posted (some element.reservationP) none))
  return {
    orders := pickupOrders ++ deliveryOrders ++ reservationOrders
    orderId := slider.orderId
    persons := []
    cards := [] }

/-! ## The card's orders and those of `Checkout` -/

section Forms

theorem items_toProductCart (slider : OrderSliderValidation) (mode : Mode) :
    (slider.items mode).map OrderedProduct.toProductCart =
      slider.plain.products.filter mode.takes := by
  rw [OrderSliderValidation.plain, List.filter_map]
  rfl

def PostedItem.form (item : PostedItem) : ItemForm where
  productId := item.productId
  variantId := item.variantId
  price := item.price
  discount := item.discount
  quantity := item.quantity
  reservation := item.reservation

def PostedOrder.form (order : PostedOrder) : OrderForm where
  clientId := order.clientId
  storeId := order.storeId
  paymentInfos := ⟨order.paymentInfos.deliveryAmount,
    order.paymentInfos.reservationAmount.getD 0, order.paymentInfos.totalAmount⟩
  items := order.items.map PostedItem.form
  reservation := order.reservation.getD false
  pickUp := order.pickUp
  delivery := order.delivery

theorem group?_form (slider : OrderSliderValidation) (mode : Mode)
    {order : List OrderedProduct → ℚ → PostedOrder} {form : ℚ → OrderForm}
    (same : ∀ total, (order (slider.items mode) total).form = form total) :
    posted? (slider.plain.products.filter mode.takes) (slider.total mode) form =
      (slider.group? mode fun items total => some (order items total)).map
        (List.map PostedOrder.form) := by
  unfold posted? OrderSliderValidation.group?
  rw [← items_toProductCart]
  split
  case isTrue empty => rw [if_pos (List.map_eq_nil_iff.mp empty), Option.map_some, List.map_nil]
  case isFalse there =>
    rw [if_neg fun empty => there (List.map_eq_nil_iff.mpr empty)]
    cases slider.total mode with
    | none => rfl
    | some total =>
        rw [Option.map_some, ← same]
        rfl

theorem items_form (slider : OrderSliderValidation) (mode : Mode)
    (reservation : ProductCart → Option ℚ) :
    ((slider.items mode).map fun item => item.posted (reservation item.toProductCart) none).map
        PostedItem.form =
      (slider.plain.products.filter mode.takes).map fun item => item.form (reservation item) := by
  rw [← items_toProductCart, List.map_map, List.map_map]
  exact List.map_congr_left fun item _ => rfl

theorem bind_map_form (pickups deliveries reservations : Option (List PostedOrder))
    (orderId : Option ObjectId) :
    ((do
      let pickupOrders ← pickups
      let deliveryOrders ← deliveries
      let reservationOrders ← reservations
      return (⟨pickupOrders ++ deliveryOrders ++ reservationOrders, orderId, [], []⟩ : FormData)) :
        Option FormData).map (fun form => form.orders.map PostedOrder.form) =
      (do
        let pickupOrders ← pickups.map (List.map PostedOrder.form)
        let deliveryOrders ← deliveries.map (List.map PostedOrder.form)
        let reservationOrders ← reservations.map (List.map PostedOrder.form)
        return pickupOrders ++ deliveryOrders ++ reservationOrders) := by
  cases pickups with
  | none => rfl
  | some pickups =>
      cases deliveries with
      | none => rfl
      | some deliveries =>
          cases reservations with
          | none => rfl
          | some reservations => simp

/-- `Checkout` keeps of the card's orders what the server reads. -/
theorem toFormDataCard_form (slider : OrderSliderValidation) (id : ObjectId) :
    toFormDataCard slider.plain id =
      (slider.toFormDataCard id).map fun form => form.orders.map PostedOrder.form := by
  unfold toFormDataCard OrderSliderValidation.toFormDataCard
  rw [bind_map_form]
  refine congrArg₂ bind (group?_form slider .pickup fun total => ?_) (funext fun pickups => ?_)
  · simp only [PostedOrder.form, OrderSliderValidation.order]
    rw [items_form slider .pickup fun _ => none]
    rfl
  refine congrArg₂ bind (group?_form slider .delivery fun total => ?_)
    (funext fun deliveries => ?_)
  · simp only [PostedOrder.form, OrderSliderValidation.order]
    rw [items_form slider .delivery fun _ => none]
    rfl
  refine congrArg₂ bind (group?_form slider .reservation fun total => ?_) rfl
  simp only [PostedOrder.form, OrderSliderValidation.order]
  rw [items_form slider .reservation fun item => some item.reservationP]
  rfl

end Forms

end Proximity.Apps.Client
