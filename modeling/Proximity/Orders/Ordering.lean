import Proximity.Orders.EffectivePolicy

/-!
# The checked placing of an order

`createOrder` checks every item against its product, its variant and its policy, and the sums
against the payment, before it stores the order.  All that it throws it catches itself.
-/

namespace Proximity.Orders

open Proximity.Systems Proximity.Models

/-- The parameter is `policy.order.validation.auto`, for which the schema has no path. -/
structure Market extends Conditions where
  validation : Policy → Option Bool

structure OrderLine extends OrderedItem where
  price : ℚ
  quantity : ℚ
  deriving DecidableEq, Repr

structure DeliveryRequest where
  nbrKm : ℚ
  shippingAmount : ℚ
  deriving DecidableEq, Repr

/-- The body of the request; `deliveryByCoursier` holds the city of the queue. -/
structure OrderRequest where
  clientId : ObjectId
  storeId : ObjectId
  items : List OrderLine
  paymentAmount : ℚ
  totalAmount : ℚ
  reservation : Bool
  pickup : Bool
  delivery : Option DeliveryRequest
  deliveryByCoursier : Option String
  deriving DecidableEq, Repr

/-- What the request says to the part that looks up the policies. -/
def OrderRequest.placed (request : OrderRequest) : PlacedBody :=
  ⟨request.storeId, request.items.map OrderLine.toOrderedItem⟩

/-- The document that is saved, with the fields that the schema requires of it. -/
structure OrderDocument where
  clientId : ObjectId
  storeId : ObjectId
  items : List OrderLine
  totalAmount : ℚ
  pickUp : Option Bool
  city : Option String
  deriving DecidableEq, Repr

/-! ## The amount of an item -/

/-- `policy.reservation.total`, which the schema keeps under `payment`. -/
def reservationTotal? (_ : ReservationPolicy) : Option Bool := none

/-- `policy.reservation.partial`, which the schema keeps under `payment`. -/
def reservationPartial? (_ : ReservationPolicy) : Option PartialPayment := none

def reservationAmount (policy : ReservationPolicy) (price quantity : ℚ) : Except String ℚ :=
  if reservationTotal? policy = some true then .ok (price * quantity)
  else do
    let given ← found "Cannot read properties of undefined (reading 'fixe')"
      (reservationPartial? policy)
    match nonzero given.fixe with
    | some fixe => return fixe * quantity
    | none =>
        match nonzero given.percentage with
        | some percentage => return (price * percentage) * quantity
        | none => return 0

def deliveryAmount (policy : DeliveryPolicy) (nbrKm : ℚ) : Except String ℚ := do
  let pricing ← found "Cannot read properties of undefined (reading 'fixe')" policy.pricing
  match nonzero pricing.fixe with
  | some fixe => return fixe
  | none =>
      match nonzero pricing.km with
      | some km => return km * nbrKm
      | none => return 0

/-- Each mode that is asked for must be allowed, and the last one sets the amount. -/
def modesAmount (request : OrderRequest) (name : String) (policy : Policy)
    (price quantity : ℚ) : Except String ℚ := do
  let reserved ←
    if request.reservation then do
      let reservation ← found ("[" ++ name ++ " ] : Reservation is not allowed")
        policy.reservation
      reservationAmount reservation price quantity
    else .ok 0
  let pickedUp ←
    if request.pickup then do
      let _ ← found ("[" ++ name ++ " ] : Pickup is not allowed") policy.pickup
      .ok (price * quantity)
    else .ok reserved
  match request.delivery with
  | none => return pickedUp
  | some delivery => do
      let policy ← found ("[" ++ name ++ " ] : Delivery is not allowed") policy.delivery
      let fee ← deliveryAmount policy delivery.nbrKm
      return price * quantity + fee

/-! ## The order -/

/-- The amount and the total of an item. -/
structure PricedLine where
  amount : ℚ
  total : ℚ
  deriving DecidableEq, Repr

def pricedLine (market : Market) (storePolicy sellerPolicy : Option Policy)
    (products : List ItemProduct) (request : OrderRequest) (item : OrderLine) :
    Except String PricedLine := do
  let product ← found "Product not found"
    (products.find? fun product => decide (product.id = item.productId))
  let variants ← found "Cannot read properties of undefined (reading 'filter')" product.variants
  let variant ← found ("[" ++ product.name ++ " ] : variant not found")
    (variants.find? fun variant => decide (variant.id = item.variantId))
  let policy ← found ("[" ++ product.name ++ " ] : Policy not found")
    (product.policy <|> storePolicy <|> sellerPolicy)
  let auto ← found "Cannot read properties of undefined (reading 'auto')"
    (market.validation policy)
  require "Price Variant Error" (auto = true → variant.price = item.price)
  require ("[" ++ product.name ++ " ] : insufficient stock")
    (auto = true → item.quantity ≤ variant.quantity)
  let amount ← modesAmount request product.name policy variant.price item.quantity
  return ⟨amount, variant.price * item.quantity⟩

/-- `pickUp` and the address are not filled in, so the schema refuses the document. -/
def OrderRequest.document (request : OrderRequest) : OrderDocument where
  clientId := request.clientId
  storeId := request.storeId
  items := request.items
  totalAmount := request.totalAmount
  pickUp := none
  city := none

def OrderDocument.save (document : OrderDocument) : Except String OrderDocument := do
  require "Order validation failed"
    (document.pickUp.isSome = true ∧ document.city.isSome = true)
  return document

def OrderRequest.shipping (request : OrderRequest) : ℚ :=
  match request.delivery with
  | none => 0
  | some delivery => delivery.shippingAmount

/-- The `try` block of `createOrder`.  The products are looked up among the stores; of the
totals only the first is compared. -/
def tryCreateOrder (market : Market) (request : OrderRequest) : Except String OrderDocument := do
  let store ← found "Store not found" (market.stores.findById? request.storeId)
  let seller ← found "Seller not found" (market.users.findById? store.sellerId)
  let products := market.stores.docs.filter fun document =>
    decide (document.id ∈ request.items.map fun item => item.productId)
  require "Products not found" (products ≠ [])
  let lines ← request.items.mapM (pricedLine market (market.ofStore store.id)
    (market.ofUser seller.id) (products.map market.doc) request)
  require "Payment Amount Error"
    (lines.foldl (fun total line => total + line.amount) 0 =
      request.paymentAmount + request.shipping)
  let first ← found "Cannot read properties of undefined (reading 'total')" lines.head?
  require "Total amount Error" (first.total = request.totalAmount)
  request.document.save

/-- What became of a request: the orders stored, the city that the order is queued in, and the
error that the caller observes. -/
structure Placement where
  stored : List OrderDocument
  queued : Option String
  error : Option String
  deriving DecidableEq, Repr

/-- The `catch` block is empty. -/
def createOrder (market : Market) (request : OrderRequest) : Placement :=
  match tryCreateOrder market request with
  | .ok document => ⟨[document], request.deliveryByCoursier, none⟩
  | .error _ => ⟨[], none, none⟩

/-! ## The orders that should be placed -/

/-- What the payment of a reservation asks of an item at once. -/
def reservedAmount (policy : ReservationPolicy) (price quantity : ℚ) : ℚ :=
  match policy.payment with
  | none => 0
  | some payment =>
      if payment.total = some true then price * quantity
      else match payment.partialPayment with
        | none => 0
        | some given =>
            match nonzero given.fixe with
            | some fixe => fixe * quantity
            | none => price * (nonzero given.percentage).getD 0 * quantity

/-- What a delivery adds to the amount. -/
def deliveryFee (policy : DeliveryPolicy) (nbrKm : ℚ) : ℚ :=
  match policy.pricing with
  | none => 0
  | some pricing =>
      match nonzero pricing.fixe with
      | some fixe => fixe
      | none => (nonzero pricing.km).getD 0 * nbrKm

/-- The amount of an item under a policy, by the mode of the order. -/
def dueAmount (request : OrderRequest) (policy : Policy) (price quantity : ℚ) : ℚ :=
  match request.delivery, policy.delivery with
  | some delivery, some allowed => price * quantity + deliveryFee allowed delivery.nbrKm
  | _, _ =>
      if request.pickup then price * quantity
      else if request.reservation then
        (policy.reservation.map fun allowed => reservedAmount allowed price quantity).getD 0
      else 0

/-- The item is one of the catalogue, and its effective policy lets it be ordered so. -/
structure AcceptableLine (market : Market) (request : OrderRequest) (item : OrderLine)
    (line : PricedLine) : Prop where
  holds : ∃ product variant policy,
    market.products.findById? item.productId = some product ∧
    variant ∈ product.variants ∧ variant.id = item.variantId ∧
    market.effective product = some policy ∧
    (market.validation policy = some true →
      variant.price = item.price ∧ item.quantity ≤ variant.quantity) ∧
    (request.reservation = true → policy.reservation.isSome = true) ∧
    (request.pickup = true → policy.pickup.isSome = true) ∧
    (request.delivery.isSome = true → policy.delivery.isSome = true) ∧
    line = ⟨dueAmount request policy variant.price item.quantity, variant.price * item.quantity⟩

structure Acceptable (market : Market) (request : OrderRequest) : Prop where
  store : ∃ store, market.stores.findById? request.storeId = some store ∧
    (market.users.findById? store.sellerId).isSome = true
  lines : ∃ lines, List.Forall₂ (AcceptableLine market request) request.items lines ∧
    lines.foldl (fun total line => total + line.amount) 0 =
      request.paymentAmount + request.shipping ∧
    lines.foldl (fun total line => total + line.total) 0 = request.totalAmount

/-- An order is stored exactly for an acceptable request; any other is answered with an error. -/
structure PlacesExactly (market : Market) (request : OrderRequest) : Prop where
  stores : (∃ document, (createOrder market request).stored = [document]) ↔
    Acceptable market request
  refuses : ¬ Acceptable market request →
    (createOrder market request).stored = [] ∧ (createOrder market request).error.isSome = true

/-! ## No order is ever placed -/

/-- An item that is priced has been given a policy. -/
theorem itemPolicy_of_pricedLine {market : Market} {storePolicy sellerPolicy : Option Policy}
    {products : List ItemProduct} {request : OrderRequest} {item : OrderLine} {line : PricedLine}
    (priced : pricedLine market storePolicy sellerPolicy products request item = .ok line) :
    ∃ policy, itemPolicy storePolicy sellerPolicy products item.toOrderedItem = .ok policy := by
  unfold pricedLine at priced
  obtain ⟨product, product_found, priced⟩ := bind_eq_ok_iff.mp priced
  obtain ⟨variants, shown, priced⟩ := bind_eq_ok_iff.mp priced
  obtain ⟨variant, variant_found, priced⟩ := bind_eq_ok_iff.mp priced
  obtain ⟨policy, given, -⟩ := bind_eq_ok_iff.mp priced
  have listed := found_eq_ok_iff.mp variant_found
  have same : variant.id = item.variantId := by simpa using List.find?_some listed
  have there : ∃ variant ∈ variants, variant.id = item.variantId :=
    ⟨variant, List.mem_of_find?_eq_some listed, same⟩
  have chosen : (product.policy <|> storePolicy <|> sellerPolicy) = some policy :=
    found_eq_ok_iff.mp given
  refine ⟨some policy, ?_⟩
  simp only [itemPolicy, bind_eq_ok_iff, require_eq_ok_iff, pure_eq_ok_iff]
  exact ⟨product, product_found, variants, shown, PUnit.unit, there, PUnit.unit,
    by rw [chosen]; rfl, chosen⟩

/-- What passes every check of `createOrder` passes those that look up the policies. -/
theorem policies_of_tryCreateOrder {market : Market} {request : OrderRequest}
    {document : OrderDocument} (placed : tryCreateOrder market request = .ok document) :
    ∃ policies, market.toConditions.createOrder request.placed = .ok policies := by
  unfold tryCreateOrder at placed
  obtain ⟨store, store_found, placed⟩ := bind_eq_ok_iff.mp placed
  obtain ⟨seller, seller_found, placed⟩ := bind_eq_ok_iff.mp placed
  obtain ⟨_, some_found, placed⟩ := bind_eq_ok_iff.mp placed
  obtain ⟨lines, priced, -⟩ := bind_eq_ok_iff.mp placed
  obtain ⟨policies, given⟩ := exists_mapM_of_mapM
    (fun _ _ => itemPolicy_of_pricedLine) priced
  refine ⟨policies, ?_⟩
  have ids : request.placed.items.map OrderedItem.productId =
      request.items.map fun item => item.productId := by
    simp [OrderRequest.placed, Function.comp_def]
  simp only [Conditions.createOrder, ids, bind_eq_ok_iff]
  exact ⟨store, store_found, seller, seller_found, _, some_found, given⟩

/-- Whatever is asked for, nothing is stored and no error is observed. -/
theorem createOrder_eq (market : Market) (request : OrderRequest) :
    createOrder market request = ⟨[], none, none⟩ := by
  unfold createOrder
  cases placed : tryCreateOrder market request with
  | error failure => rfl
  | ok document =>
      obtain ⟨policies, given⟩ := policies_of_tryCreateOrder placed
      obtain ⟨failure, failed⟩ := createOrder_fails market.toConditions request.placed
      cases failed.symm.trans given

/-- The acceptable requests are not stored, and of the others nobody hears. -/
theorem not_placesExactly (market : Market) (request : OrderRequest) :
    ¬ PlacesExactly market request := by
  intro exact_placing
  by_cases acceptable : Acceptable market request
  · obtain ⟨document, stored⟩ := exact_placing.stores.mpr acceptable
    rw [createOrder_eq] at stored
    cases stored
  · have refused := (exact_placing.refuses acceptable).2
    rw [createOrder_eq] at refused
    cases refused

/-- Two units of a product whose store allows pickup. -/
def pickupRequest : OrderRequest where
  clientId := 7
  storeId := 10
  items := [⟨⟨20, "a"⟩, 100, 2⟩]
  paymentAmount := 200
  totalAmount := 200
  reservation := false
  pickup := true
  delivery := none
  deliveryByCoursier := none

def pickupMarket : Market := ⟨storeTerms (some (pickupOf 60)), fun _ => none⟩

theorem pickupRequest_acceptable : Acceptable pickupMarket pickupRequest where
  store := ⟨market, rfl, rfl⟩
  lines := by
    refine ⟨[⟨200, 200⟩], .cons ⟨Carts.soldProduct none, Carts.soldVariant, pickupOf 60, ?_⟩ .nil,
      by decide +kernel, by decide +kernel⟩
    refine ⟨rfl, by simp [Carts.soldProduct], rfl, rfl, ?_⟩
    decide +kernel

/-- It is acceptable, and nothing is stored. -/
theorem pickupRequest_not_placed :
    Acceptable pickupMarket pickupRequest ∧
      (createOrder pickupMarket pickupRequest).stored = [] ∧
      ¬ PlacesExactly pickupMarket pickupRequest := by
  have nothing : (createOrder pickupMarket pickupRequest).stored = [] := by rw [createOrder_eq]
  refine ⟨pickupRequest_acceptable, nothing, fun exact_placing => ?_⟩
  obtain ⟨document, stored⟩ := exact_placing.stores.mpr pickupRequest_acceptable
  rw [nothing] at stored
  cases stored

end Proximity.Orders
