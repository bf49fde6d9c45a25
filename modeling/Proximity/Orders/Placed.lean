import Proximity.Apps.Checkout
import Proximity.Orders.Creation
import Proximity.Orders.Listing

/-!
# Where a placed order is listed

The app posts an order for each way to get its products and says which with three flags.
The schema drops one of them, and every query for an order that is neither canceled nor
returned asks for it.
-/

namespace Proximity.Orders

open Proximity.Systems Proximity.Models Proximity.Apps.Client

/-! ## From the app to the database -/

/-- The schema requires the ids and the price of an item. -/
def itemDocument? (form : ItemForm) : Option OrderItem :=
  if form.productId = "" ∨ form.variantId = "" then none
  else form.price.map fun price =>
    ⟨form.productId, form.variantId, price, form.discount, form.quantity⟩

/-- The document of a posted order.  The schema has no `reservation`, so it is dropped. -/
def document? (id : ObjectId) (form : OrderForm) : Option Order := do
  let storeId ← form.storeId
  let items ← form.items.mapM itemDocument?
  return {
    id := id
    clientId := form.clientId
    storeId := storeId
    items := items
    pickUp := form.pickUp
    delivery := form.delivery
    status := .pending
    returnFlag := none
    returnItems := []
    returnMotif := none
    waitingforReturn := none
    returned := none
    returnedItems := []
    refundPaymentInfos := none
    refund := none
    canceled := none
    canceledBy := none }

/-- The ids that a batch of new orders gets. -/
structure NewIds (orders : Collection Order) (replaced : Option ObjectId) where
  id : Nat → ObjectId
  distinct : Function.Injective id
  unused : ∀ index, orders.findById? (id index) = none
  other : ∀ index, replaced ≠ some (id index)

def postedElements (ids : Nat → ObjectId) (forms : List OrderForm) : List (Option Order) :=
  forms.mapIdx fun index form => document? (ids index) form

/-- The body of the request; addresses are not sent. -/
def postedBody (ids : Nat → ObjectId) (forms : List OrderForm) (orderId : Option ObjectId) :
    CreateBody :=
  ⟨.text (some (postedElements ids forms)), .text (some ()), .noText, .text (some ()), orderId⟩

/-! ## What should be listed -/

structure Live (order : Order) : Prop where
  canceled : order.canceled ≠ some true
  refund : order.refund ≠ some true

/-- The order is in the list of its status for exactly one type, and in that for all. -/
structure HasTab (database : Database) (id : ObjectId) (order : Order) : Prop where
  oneType : ["pickup", "delivery", "reservation"].countP (fun type =>
    decide (order ∈ getOrdersPickUpByStatus database type id (statusName order.status))) = 1
  all : order ∈ getOrdersPickUpByStatus database "all" id (statusName order.status)

/-- The order of the id has its tab, for its client and for the seller of its store, as
long as it is not canceled or refunded. -/
def Listed (database : Database) (id : ObjectId) : Prop :=
  ∀ order, database.orders.findById? id = some order → Live order →
    HasTab database order.clientId order ∧
      ∀ store, database.stores.findById? order.storeId = some store →
        HasTab database store.sellerId order

/-- Whatever happens later, every order that the batch has stored is listed. -/
def PlacedListed (database : Database) (slider : OrderSlider) (clientId : ObjectId)
    (ids : NewIds database.orders slider.orderId) (outcomes : Nat → Outcome) : Prop :=
  ∀ forms, toFormDataCard slider clientId = some forms →
    ∀ index created,
      (createOrderDirectlyWith database (postedBody ids.id forms slider.orderId)
        outcomes).2[index]? = some created → created.stored = true →
      ∀ events, Always happen? (fun reached => Listed reached (ids.id index))
        { database with
          orders := (createOrderDirectlyWith database (postedBody ids.id forms slider.orderId)
            outcomes).1 } events

/-- Every order of the split is refused, by the schema or when it is saved. -/
def NothingStored (database : Database) (slider : OrderSlider) (clientId : ObjectId)
    (ids : NewIds database.orders slider.orderId) (outcomes : Nat → Outcome) : Prop :=
  ∀ forms, toFormDataCard slider clientId = some forms → ∀ index form,
    forms[index]? = some form →
      document? (ids.id index) form = none ∨ (outcomes index).saves = false

/-- No list of a status that is asked for all types has an order. -/
theorem not_hasTab (database : Database) (id : ObjectId) (order : Order) :
    ¬ HasTab database id order := by
  intro tab
  obtain ⟨viewer, finds⟩ := finds_of_mem_getOrders tab.all
  have live : statusName order.status ≠ "Canceled" := by
    cases order.status <;> decide
  have asked : (Path.reservation, ofType "all" "reservation") ∈
      (queryFor viewer "all" (statusName order.status)).conditions := by
    rw [queryFor, if_neg live, if_neg (by decide), if_neg (by decide)]
    simp
  rw [finds_eq_false_of_reservation asked] at finds
  cases finds

/-! ## What a batch stores -/

theorem document?_spec {id : ObjectId} {form : OrderForm} {order : Order}
    (taken : document? id form = some order) : order.id = id ∧ Live order := by
  unfold document? at taken
  obtain ⟨storeId, -, rest⟩ := Option.bind_eq_some_iff.mp taken
  obtain ⟨items, -, made⟩ := Option.bind_eq_some_iff.mp rest
  cases made
  exact ⟨rfl, by simp, by simp⟩

section Batch

variable {orders : Collection Order} {elements : List (Option Order)} {outcomes : Nat → Outcome}
  {index : Nat}

theorem created_getElem? {created : Created}
    (here : (asyncMapCreateOrder orders elements outcomes).2[index]? = some created) :
    ∃ before element, elements[index]? = some element ∧
      created = myAsyncFuncCreateOrder before element (outcomes index) := by
  induction elements generalizing orders outcomes index with
  | nil => simp [asyncMapCreateOrder] at here
  | cons element rest ih =>
      cases index with
      | zero =>
          cases here
          exact ⟨orders, element, rfl, rfl⟩
      | succ index => exact ih here

/-- An order with an id of its own is stored if its save goes through. -/
theorem batch_stores {order : Order} (here : elements[index]? = some (some order))
    (saves : (outcomes index).saves = true) (unused : orders.findById? order.id = none)
    (own : ∀ other otherOrder, elements[other]? = some (some otherOrder) →
      otherOrder.id = order.id → other = index) :
    (∃ created, (asyncMapCreateOrder orders elements outcomes).2[index]? = some created ∧
        created.stored = true) ∧
      (asyncMapCreateOrder orders elements outcomes).1.findById? order.id = some order := by
  induction elements generalizing orders outcomes index with
  | nil => simp at here
  | cons element rest ih =>
      cases index with
      | zero =>
          cases here
          refine ⟨⟨_, rfl, ?_⟩, ?_⟩
          · simp [myAsyncFuncCreateOrder, goesThrough, saves, unused]
          · refine stored_asyncMapCreateOrder rest _ ?_
            rw [afterSave, if_pos saves, Collection.findById?_insert, unused, Option.none_or]
            simp
      | succ index =>
          refine ih here saves ?_ fun other otherOrder stands same =>
            Nat.succ_injective (own (other + 1) otherOrder stands same)
          cases element with
          | none => exact unused
          | some first =>
              have elsewhere : first.id ≠ order.id :=
                fun same => Nat.succ_ne_zero index (own 0 first rfl same).symm
              rw [afterSave]
              split
              case isTrue =>
                  rw [Collection.findById?_insert, unused, Option.none_or]
                  simp [elsewhere]
              case isFalse => exact unused

/-- What the batch has stored is there after the request, unless it is what it replaces. -/
theorem stored_createOrderDirectlyWith {database : Database} {body : CreateBody}
    (readable : createReadable body = .ok elements) {id : ObjectId} {order : Order}
    (stored : (asyncMapCreateOrder database.orders elements outcomes).1.findById? id = some order)
    (kept : body.orderId ≠ some id) :
    (createOrderDirectlyWith database body outcomes).1.findById? id = some order := by
  rw [createOrderDirectlyWith, readable]
  cases replaced : body.orderId with
  | none => simpa [replaced] using stored
  | some orderId =>
      have elsewhere : id ≠ orderId := fun same => kept (replaced.trans (congrArg some same.symm))
      simpa [replaced, elsewhere] using stored

end Batch

/-! ## No placed order is listed -/

section Placed

variable {database : Database} {slider : OrderSlider} {ids : NewIds database.orders slider.orderId}
  {forms : List OrderForm} {outcomes : Nat → Outcome} {index : Nat}

theorem postedElements_getElem? {id : Nat → ObjectId} {element : Option Order} :
    (postedElements id forms)[index]? = some element ↔
      ∃ form, forms[index]? = some form ∧ document? (id index) form = element := by
  rw [postedElements, List.getElem?_mapIdx, Option.map_eq_some_iff]

theorem postedBody_readable (id : Nat → ObjectId) (forms : List OrderForm)
    (orderId : Option ObjectId) :
    createReadable (postedBody id forms orderId) = .ok (postedElements id forms) := rfl

/-- A posted order that the schema takes and whose save goes through is stored. -/
theorem placed_stored {form : OrderForm} {order : Order} (there : forms[index]? = some form)
    (taken : document? (ids.id index) form = some order)
    (saves : (outcomes index).saves = true) :
    (∃ created, (createOrderDirectlyWith database (postedBody ids.id forms slider.orderId)
        outcomes).2[index]? = some created ∧ created.stored = true) ∧
      (createOrderDirectlyWith database (postedBody ids.id forms slider.orderId)
        outcomes).1.findById? (ids.id index) = some order := by
  obtain ⟨named, -⟩ := document?_spec taken
  have own : ∀ other otherOrder, (postedElements ids.id forms)[other]? = some (some otherOrder) →
      otherOrder.id = order.id → other = index := by
    intro other otherOrder stands same
    obtain ⟨otherForm, -, otherTaken⟩ := postedElements_getElem?.mp stands
    apply ids.distinct
    rw [← (document?_spec otherTaken).1, same, named]
  have unused : database.orders.findById? order.id = none := by
    rw [named]
    exact ids.unused index
  obtain ⟨created, kept⟩ :=
    batch_stores (postedElements_getElem?.mpr ⟨form, there, taken⟩) saves unused own
  rw [named] at kept
  have readable := postedBody_readable ids.id forms slider.orderId
  rw [created_eq readable]
  exact ⟨created, stored_createOrderDirectlyWith readable kept (ids.other index)⟩

/-- The placed orders are listed exactly when there are none. -/
theorem placedListed_iff_nothingStored (database : Database) (slider : OrderSlider)
    (clientId : ObjectId) (ids : NewIds database.orders slider.orderId)
    (outcomes : Nat → Outcome) :
    PlacedListed database slider clientId ids outcomes ↔
      NothingStored database slider clientId ids outcomes := by
  constructor
  · intro listed forms split index form there
    by_contra stored
    rw [not_or, Bool.not_eq_false] at stored
    obtain ⟨order, taken⟩ := Option.ne_none_iff_exists'.mp stored.1
    obtain ⟨⟨created, made, kept⟩, found⟩ := placed_stored there taken stored.2
    have tabs := listed forms split index created made kept [] order found (document?_spec taken).2
    exact not_hasTab _ _ _ tabs.1
  · intro nothing forms split index created made stored
    rw [created_eq (postedBody_readable ids.id forms slider.orderId)] at made
    obtain ⟨before, element, stands, rfl⟩ := created_getElem? made
    obtain ⟨form, there, rfl⟩ := postedElements_getElem?.mp stands
    rcases nothing forms split index form there with refused | unsaved
    · simp [myAsyncFuncCreateOrder, goesThrough, refused] at stored
    · cases taken : document? (ids.id index) form with
      | none => simp [myAsyncFuncCreateOrder, goesThrough, taken] at stored
      | some order => simp [myAsyncFuncCreateOrder, goesThrough, taken, unsaved] at stored

end Placed

/-! ## A product to be delivered -/

/-- One unit for five, in the store of the marketplace. -/
def parcelSlider : OrderSlider where
  products := [⟨some "variant", some "product", some "variant", some 5, 1, 0, false, 0, true, 0,
    false, false, true, true⟩]
  totalDelivery := some 0
  storeId := some 10
  orderId := none

def parcelForm : OrderForm :=
  ⟨1, some 10, ⟨some 0, 0, 5⟩, [⟨"product", "variant", some 5, 0, 1, none⟩], false, false, true⟩

def parcelOrder : Order := { clientOrder with id := 101, pickUp := false, delivery := true }

theorem fresh_unused (index : Nat) : marketplace.orders.findById? (101 + index) = none := by
  have later : ¬ 100 = 101 + index := by omega
  simp [marketplace, Collection.findById?, clientOrder, later]

theorem fresh_other (index : Nat) : none ≠ some (101 + index) := by simp

def freshIds : NewIds marketplace.orders parcelSlider.orderId where
  id index := 101 + index
  distinct := add_right_injective 101
  unused := fresh_unused
  other := fresh_other

/-- The order is stored, and the list of all pending orders lacks it. -/
theorem parcel_not_listed :
    toFormDataCard parcelSlider 1 = some [parcelForm] ∧
      document? 101 parcelForm = some parcelOrder ∧
      ¬ PlacedListed marketplace parcelSlider 1 freshIds (fun _ => ⟨true, .finds, true⟩) := by
  have split : toFormDataCard parcelSlider 1 = some [parcelForm] := by decide +kernel
  refine ⟨split, by decide +kernel, fun listed => ?_⟩
  have tabs := listed [parcelForm] split 0 ⟨true, some parcelOrder⟩ (by decide +kernel) rfl []
    parcelOrder (by decide +kernel) ⟨by decide, by decide⟩
  exact absurd tabs.1.all (by decide +kernel)

end Proximity.Orders
