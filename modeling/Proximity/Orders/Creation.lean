import Proximity.Orders.Authorization

/-!
# Orders made of a reservation

`createOrderDirectly` saves the orders of a batch, each on its own and catching its own
errors, and then deletes the reservation they replace.
-/

namespace Proximity.Orders

open Proximity.Systems Proximity.Models

/-- What `Store.findById` brings. -/
inductive Lookup where
  | fails
  | missing
  | finds
  deriving DecidableEq, Repr

/-- How the effects of one element go, when they are tried. -/
structure Outcome where
  saves : Bool
  store : Lookup
  notifies : Bool
  deriving DecidableEq, Repr

/-- Everything after the save goes through; without a store `store.sellerId` throws. -/
def Outcome.announces (outcome : Outcome) : Bool :=
  decide (outcome.store = .finds) && outcome.notifies

/-- What became of one element: whether its order was stored, and the helper's result. -/
structure Created where
  stored : Bool
  result : Option Order
  deriving DecidableEq, Repr

/-- The save goes through: the element is readable, the schema takes it, its id is free
and the database answers. -/
def goesThrough (orders : Collection Order) (element : Option Order) (outcome : Outcome) : Bool :=
  match element with
  | none => false
  | some order => outcome.saves && decide (orders.findById? order.id = none)

/-- The orders once the save of an element was tried. -/
def afterSave (orders : Collection Order) (element : Option Order) (outcome : Outcome) :
    Collection Order :=
  match element with
  | none => orders
  | some order => if outcome.saves then orders.insert order else orders

/-- All errors are caught and answered with `null`, those after the save as well. -/
def myAsyncFuncCreateOrder (orders : Collection Order) (element : Option Order)
    (outcome : Outcome) : Created where
  stored := goesThrough orders element outcome
  result := if goesThrough orders element outcome && outcome.announces then element else none

/-- The elements do not wait for each other; each writes its own order alone. -/
def asyncMapCreateOrder (orders : Collection Order) :
    List (Option Order) → (Nat → Outcome) → Collection Order × List Created
  | [], _ => (orders, [])
  | element :: rest, outcomes =>
      let later := asyncMapCreateOrder (afterSave orders element (outcomes 0)) rest
        fun index => outcomes (index + 1)
      (later.1, myAsyncFuncCreateOrder orders element (outcomes 0) :: later.2)

/-- The stored orders and the results, for every choice of what fails. -/
def createOrderDirectlyWith (database : Database) (body : CreateBody) (outcomes : Nat → Outcome) :
    Collection Order × List Created :=
  match createReadable body with
  | .error _ => (database.orders, [])
  | .ok elements =>
      let batch := asyncMapCreateOrder database.orders elements outcomes
      match body.orderId with
      | none => batch
      | some orderId => (batch.1.delete orderId, batch.2)

/-! ## What the batch should keep -/

/-- The reservation is stored before and not after. -/
def Removed (database : Database) (body : CreateBody) (after : Collection Order) : Prop :=
  ∃ orderId reservation, body.orderId = some orderId ∧
    database.orders.findById? orderId = some reservation ∧ after.findById? orderId = none

structure LosesNoPurchase (database : Database) (body : CreateBody) (outcomes : Nat → Outcome) :
    Prop where
  kept : Removed database body (createOrderDirectlyWith database body outcomes).1 →
    ∀ created ∈ (createOrderDirectlyWith database body outcomes).2, created.stored = true
  reported : ∀ created ∈ (createOrderDirectlyWith database body outcomes).2,
    created.result = none ↔ created.stored = false

/-- Every save of the batch goes through. -/
def EverySave (orders : Collection Order) : List (Option Order) → (Nat → Outcome) → Prop
  | [], _ => True
  | element :: rest, outcomes =>
      goesThrough orders element (outcomes 0) = true ∧
        EverySave (afterSave orders element (outcomes 0)) rest fun index => outcomes (index + 1)

/-- Every order that is stored is announced to the seller of its store. -/
def StoredAnnounced (orders : Collection Order) : List (Option Order) → (Nat → Outcome) → Prop
  | [], _ => True
  | element :: rest, outcomes =>
      (goesThrough orders element (outcomes 0) = true → (outcomes 0).announces = true) ∧
        StoredAnnounced (afterSave orders element (outcomes 0)) rest
          fun index => outcomes (index + 1)

/-- The body names an order that is stored. -/
def NamesStored (database : Database) (body : CreateBody) : Prop :=
  ∃ orderId reservation, body.orderId = some orderId ∧
    database.orders.findById? orderId = some reservation

/-! ## Batches -/

theorem all_stored_iff (orders : Collection Order) (elements : List (Option Order))
    (outcomes : Nat → Outcome) :
    (∀ created ∈ (asyncMapCreateOrder orders elements outcomes).2, created.stored = true) ↔
      EverySave orders elements outcomes := by
  induction elements generalizing orders outcomes with
  | nil => simp [asyncMapCreateOrder, EverySave]
  | cons element rest ih =>
      rw [asyncMapCreateOrder, List.forall_mem_cons, ih, EverySave, myAsyncFuncCreateOrder]

theorem result_eq_none_iff (orders : Collection Order) (element : Option Order)
    (outcome : Outcome) :
    ((myAsyncFuncCreateOrder orders element outcome).result = none ↔
        (myAsyncFuncCreateOrder orders element outcome).stored = false) ↔
      (goesThrough orders element outcome = true → outcome.announces = true) := by
  cases element with
  | none => simp [myAsyncFuncCreateOrder, goesThrough]
  | some order =>
      cases saved : goesThrough orders (some order) outcome with
      | false => simp [myAsyncFuncCreateOrder, saved]
      | true => simp [myAsyncFuncCreateOrder, saved]

theorem all_reported_iff (orders : Collection Order) (elements : List (Option Order))
    (outcomes : Nat → Outcome) :
    (∀ created ∈ (asyncMapCreateOrder orders elements outcomes).2,
        created.result = none ↔ created.stored = false) ↔
      StoredAnnounced orders elements outcomes := by
  induction elements generalizing orders outcomes with
  | nil => simp [asyncMapCreateOrder, StoredAnnounced]
  | cons element rest ih =>
      rw [asyncMapCreateOrder, List.forall_mem_cons, ih, StoredAnnounced, result_eq_none_iff]

/-- A stored order stays stored while a batch is saved. -/
theorem stored_asyncMapCreateOrder {orders : Collection Order} (elements : List (Option Order))
    (outcomes : Nat → Outcome) {orderId : ObjectId} {order : Order}
    (stored : orders.findById? orderId = some order) :
    (asyncMapCreateOrder orders elements outcomes).1.findById? orderId = some order := by
  induction elements generalizing orders outcomes with
  | nil => exact stored
  | cons element rest ih =>
      refine ih _ ?_
      cases element with
      | none => exact stored
      | some posted =>
          rw [afterSave]
          split
          · rw [Collection.findById?_insert, stored, Option.some_or]
          · exact stored

/-- A readable request removes the reservation it names, whatever became of its orders. -/
theorem removed_iff {database : Database} {body : CreateBody} {elements : List (Option Order)}
    (readable : createReadable body = .ok elements) (outcomes : Nat → Outcome) :
    Removed database body (createOrderDirectlyWith database body outcomes).1 ↔
      NamesStored database body := by
  constructor
  · rintro ⟨orderId, reservation, named, stored, -⟩
    exact ⟨orderId, reservation, named, stored⟩
  · rintro ⟨orderId, reservation, named, stored⟩
    refine ⟨orderId, reservation, named, stored, ?_⟩
    simp [createOrderDirectlyWith, readable, named]

/-- An unreadable request leaves the orders as they are. -/
theorem not_removed {database : Database} {body : CreateBody} {failure : Failure}
    (unreadable : createReadable body = .error failure) (outcomes : Nat → Outcome) :
    ¬ Removed database body (createOrderDirectlyWith database body outcomes).1 := by
  rintro ⟨orderId, reservation, -, stored, gone⟩
  rw [createOrderDirectlyWith, unreadable, stored] at gone
  cases gone

theorem created_eq {database : Database} {body : CreateBody} {elements : List (Option Order)}
    (readable : createReadable body = .ok elements) (outcomes : Nat → Outcome) :
    (createOrderDirectlyWith database body outcomes).2 =
      (asyncMapCreateOrder database.orders elements outcomes).2 := by
  rw [createOrderDirectlyWith, readable]
  cases named : body.orderId with
  | none => simp
  | some orderId => simp

/-- With nothing failing but the saves of ids that are taken, the batch stores what
`createOrderDirectly` writes. -/
theorem asyncMapCreateOrder_eq_createElements (stores : Collection Store)
    (orders : Collection Order) (elements : List (Option Order)) {outcomes : Nat → Outcome}
    (saved : ∀ index, (outcomes index).saves = true) :
    (asyncMapCreateOrder orders elements outcomes).1 =
      Write.applyAll orders (createElements stores orders elements).writes := by
  induction elements generalizing orders outcomes with
  | nil => rfl
  | cons element rest ih =>
      have later := ih (afterSave orders element (outcomes 0)) fun index => saved (index + 1)
      rw [asyncMapCreateOrder, later]
      cases element with
      | none => rfl
      | some order =>
          rw [afterSave, if_pos (saved 0), createElements]
          cases taken : orders.findById? order.id with
          | none => rfl
          | some other =>
              have same : orders.insert order = orders := by
                obtain ⟨there, named⟩ := Collection.findById?_eq_some_iff.mp taken
                exact dif_pos (List.mem_map.mpr ⟨other, there, named⟩)
              rw [same]

/-- The reservation goes only with every order stored, and `null` means an order that
was not stored, exactly when every save of a batch that replaces a stored reservation goes
through and every stored order is announced. -/
theorem losesNoPurchase_iff (database : Database) (body : CreateBody) (outcomes : Nat → Outcome) :
    LosesNoPurchase database body outcomes ↔
      ∀ elements, createReadable body = .ok elements →
        (NamesStored database body → EverySave database.orders elements outcomes) ∧
          StoredAnnounced database.orders elements outcomes := by
  constructor
  · rintro ⟨kept, reported⟩ elements readable
    rw [created_eq readable] at kept reported
    refine ⟨fun named => ?_, (all_reported_iff _ _ _).mp reported⟩
    have removed := (removed_iff readable outcomes).mpr named
    exact (all_stored_iff _ _ _).mp (kept removed)
  · intro smooth
    cases readable : createReadable body with
    | error failure =>
        have nothing : (createOrderDirectlyWith database body outcomes).2 = [] := by
          rw [createOrderDirectlyWith, readable]
        refine ⟨fun removed => absurd removed (not_removed readable outcomes), ?_⟩
        rw [nothing]
        simp
    | ok elements =>
        obtain ⟨saves, announced⟩ := smooth elements readable
        refine ⟨fun removed => ?_, ?_⟩
        · rw [created_eq readable, all_stored_iff]
          exact saves ((removed_iff readable outcomes).mp removed)
        · rw [created_eq readable, all_reported_iff]
          exact announced

/-! ## A reservation whose order is not stored -/

/-- Order 101 is to take the place of order 100. -/
def finalizes : CreateBody :=
  ⟨.text (some [some { clientOrder with id := 101 }]), .text (some ()), .noText, .text (some ()),
    some 100⟩

/-- The save fails and the reservation is deleted; or the notification of a stored order
fails and it is reported as not stored. -/
theorem failedSave_losesPurchase :
    ¬ LosesNoPurchase marketplace finalizes (fun _ => ⟨false, .finds, true⟩) ∧
      ¬ LosesNoPurchase marketplace finalizes (fun _ => ⟨true, .finds, false⟩) := by
  constructor
  · intro loses
    have removed : Removed marketplace finalizes
        (createOrderDirectlyWith marketplace finalizes fun _ => ⟨false, .finds, true⟩).1 :=
      ⟨100, clientOrder, rfl, rfl, rfl⟩
    exact absurd (loses.kept removed _ (List.mem_singleton.mpr rfl)) (by decide +kernel)
  · intro loses
    have reported := loses.reported _ (List.mem_singleton.mpr rfl)
    exact absurd (reported.mp (by decide +kernel)) (by decide +kernel)

end Proximity.Orders
