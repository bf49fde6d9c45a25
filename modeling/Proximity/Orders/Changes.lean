import Proximity.Orders.Authorization

/-!
# The changes of stored orders

The four operations on stored orders write one update of one order or nothing.  A
property of all orders therefore holds throughout a run exactly when it survives
every change that is written.
-/

namespace Proximity.Orders

open Proximity.Systems Proximity.Models

/-- A call of one of the operations on a stored order. -/
inductive Call where
  | updateOrdersStatus (id : Option ObjectId) (body : UpdateBody)
  | returnOrders (body : ReturnBody)
  | refundOrders (body : RefundBody)
  | cancelOrders (body : CancelBody)

def Call.operation : Call → Operation
  | .updateOrdersStatus id body => .updateOrdersStatus id body
  | .returnOrders body => .returnOrders body
  | .refundOrders body => .refundOrders body
  | .cancelOrders body => .cancelOrders body

def Call.orderId : Call → Option ObjectId
  | .updateOrdersStatus _ body => body.orderId
  | .returnOrders body => body.orderId
  | .refundOrders body => body.orderId
  | .cancelOrders body => body.orderId

/-- What an accepted call does to its order. -/
inductive Change where
  | status (status : OrderStatus)
  | return (returnItems : List ReturnItem) (motif : Option String)
  | refund (returnItems : RefundItems)
  | cancel (userId : ObjectId) (motif : Option String)

def Change.update : Change → Update Order
  | .status given => statusUpdate given
  | .return returnItems motif => returnUpdate returnItems motif
  | .refund returnItems => refundUpdate returnItems
  | .cancel userId motif => cancelUpdate userId motif

def Call.change? : Call → Option Change
  | .updateOrdersStatus _ body => body.status.map Change.status
  | .returnOrders body =>
      match body.returnItems with
      | .noText => some (.return [] body.motif)
      | .text parsed => parsed.map fun returnItems => .return returnItems body.motif
  | .refundOrders body =>
      match body.returnItems with
      | .noText => none
      | .text parsed => parsed.map Change.refund
  | .cancelOrders body => body.userId.map fun userId => .cancel userId body.motif

/-- The call writes this change of this stored order. -/
structure Accepted (database : Database) (call : Call) (order : Order) (change : Change) :
    Prop where
  named : database.order? call.orderId = some order
  asked : call.change? = some change
  written : writes database call.operation ≠ []

/-- The permission check finds the user, who is a party of the order, and the order's store. -/
theorem permitted_spec {database : Database} {userId : ObjectId} {order : Order}
    {permitted : User × Store} (allowed : database.permitted? userId order = some permitted) :
    permitted.1.id = userId ∧ database.stores.findById? order.storeId = some permitted.2 ∧
      (userId = order.clientId ∨ userId = permitted.2.sellerId) := by
  unfold Database.permitted? at allowed
  split at allowed
  case h_1 user store isUser isStore =>
      split at allowed
      case isTrue party =>
          cases allowed
          have same : user.id = userId := (Collection.findById?_eq_some_iff.mp isUser).2
          exact ⟨same, isStore, by simpa [← same] using party⟩
      case isFalse => cases allowed
  case h_2 => cases allowed

/-- The parsed entries of a return are those that the call asks for. -/
theorem returnOrders_change? {body : ReturnBody} {returnItems : List ReturnItem}
    (parsed : body.returnItems.parse (.ok []) = .ok returnItems) :
    (Call.returnOrders body).change? = some (.return returnItems body.motif) := by
  obtain ⟨userId, orderId, posted, motif⟩ := body
  cases posted with
  | noText =>
      cases parsed
      rfl
  | text json =>
      simp only [Posted.parse, found_eq_ok_iff] at parsed
      rw [Call.change?, parsed]
      rfl

theorem refundOrders_change? {body : RefundBody} {returnItems : RefundItems}
    (parsed : body.returnItems.parse (.error .unreadable) = .ok returnItems) :
    (Call.refundOrders body).change? = some (.refund returnItems) := by
  obtain ⟨userId, orderId, posted⟩ := body
  cases posted with
  | noText => cases parsed
  | text json =>
      simp only [Posted.parse, found_eq_ok_iff] at parsed
      rw [Call.change?, parsed]
      rfl

/-- An answered call writes nothing, or the change it asks for of the order it names. -/
theorem answered_writes {database : Database} {call : Call} {effect : Effect}
    (answered : respond database call.operation = .ok effect) :
    effect.writes = [] ∨ ∃ order change, database.order? call.orderId = some order ∧
      call.change? = some change ∧ effect.writes = [.update order.id change.update] := by
  cases call with
  | updateOrdersStatus id body =>
      rcases updateOrdersStatus_cases answered with
        ⟨-, rfl⟩ | ⟨_, _, status, order, rfl, -, -, given, named, rfl⟩
      · exact Or.inl rfl
      · exact Or.inr ⟨order, .status status, named, by rw [Call.change?, given]; rfl, rfl⟩
  | returnOrders body =>
      rcases returnOrders_cases answered with
        ⟨-, rfl⟩ | ⟨_, order, items, _, -, named, parsed, -, -, -, rfl⟩
      · exact Or.inl rfl
      · exact Or.inr ⟨order, .return items body.motif, named, returnOrders_change? parsed, rfl⟩
  | refundOrders body =>
      rcases refundOrders_cases answered with
        ⟨-, rfl⟩ | ⟨_, order, items, _, -, named, parsed, -, -, -, rfl⟩
      · exact Or.inl rfl
      · exact Or.inr ⟨order, .refund items, named, refundOrders_change? parsed, rfl⟩
  | cancelOrders body =>
      rcases cancelOrders_cases answered with
        ⟨-, rfl⟩ | ⟨userId, order, _, given, named, allowed, rfl⟩
      · exact Or.inl rfl
      · rw [(permitted_spec allowed).1]
        exact Or.inr ⟨order, .cancel userId body.motif, named, by rw [Call.change?, given]; rfl,
          rfl⟩

theorem writes_cases (database : Database) (call : Call) :
    writes database call.operation = [] ∨ ∃ order change, Accepted database call order change := by
  unfold writes
  cases answered : respond database call.operation with
  | error failure => exact Or.inl rfl
  | ok effect =>
      rcases answered_writes answered with nothing | ⟨order, change, named, asked, written⟩
      · exact Or.inl nothing
      · refine Or.inr ⟨order, change, named, asked, ?_⟩
        rw [writes, answered]
        simp [written]

theorem Accepted.writes_eq {database : Database} {call : Call} {order : Order} {change : Change}
    (accepted : Accepted database call order change) :
    writes database call.operation = [.update order.id change.update] := by
  have written := accepted.written
  unfold writes at written ⊢
  cases answered : respond database call.operation with
  | error failure =>
      rw [answered] at written
      exact absurd rfl written
  | ok effect =>
      rw [answered] at written
      rcases answered_writes answered with nothing | ⟨other, asked, named, also_asked, update⟩
      · exact absurd nothing written
      · cases accepted.named.symm.trans named
        cases accepted.asked.symm.trans also_asked
        exact update

theorem Accepted.stored {database : Database} {call : Call} {order : Order} {change : Change}
    (accepted : Accepted database call order change) :
    database.orders.findById? order.id = some order :=
  Collection.findById?_eq_some_iff.mpr ⟨order?_eq_some accepted.named, rfl⟩

/-! ## Runs from new orders -/

/-- An order as it is stored first: the flags have their defaults. -/
structure Order.New (order : Order) : Prop where
  returnFlag : order.returnFlag = none
  waitingforReturn : order.waitingforReturn = none
  returned : order.returned = none
  refundPaymentInfos : order.refundPaymentInfos = none
  refund : order.refund = none
  canceled : order.canceled = none

/-- Orders are placed and changed; users and stores come and go as they like. -/
inductive Event where
  | call (call : Call)
  | placed (order : Order) (new : Order.New order)
  | elsewhere (users : Collection User) (stores : Collection Store)

def happen? (database : Database) : Event → Option Database
  | .call call =>
      some { database with
        orders := Write.applyAll database.orders (writes database call.operation) }
  | .placed order _ => some { database with orders := database.orders.insert order }
  | .elsewhere users stores => some { database with users := users, stores := stores }

def AllOrders (Holds : Order → Prop) (database : Database) : Prop :=
  ∀ order ∈ database.orders.docs, Holds order

/-- Every change that the event writes meets the condition on its order. -/
def Changes (Guard : Order → Change → Prop) (source : Database) (event : Event) (_ : Database) :
    Prop :=
  match event with
  | .call call => ∀ order change, Accepted source call order change → Guard order change
  | .placed _ _ => True
  | .elsewhere _ _ => True

section Runs

variable {Holds : Order → Prop} {Guard : Order → Change → Prop}

theorem happen_allOrders_iff (placed : ∀ order, Order.New order → Holds order)
    (changed : ∀ order change, Holds order → (Holds (change.update.apply order) ↔
      Guard order change))
    {source target : Database} {event : Event} (all : AllOrders Holds source)
    (happened : happen? source event = some target) :
    AllOrders Holds target ↔ Changes Guard source event target := by
  cases event with
  | call call =>
      cases happened
      have stays {order : Order} {change : Change} (accepted : Accepted source call order change) :
          AllOrders Holds { source with
            orders := Write.applyAll source.orders (writes source call.operation) } ↔
          Guard order change := by
        rw [accepted.writes_eq, ← changed order change (all order (order?_eq_some accepted.named))]
        exact Collection.forall_update_iff (fun order stored _ => all order stored)
          accepted.stored
      constructor
      · exact fun later order change accepted => (stays accepted).mp later
      · intro guarded
        rcases writes_cases source call with nothing | ⟨order, change, accepted⟩
        · rw [nothing]
          exact all
        · exact (stays accepted).mpr (guarded order change accepted)
  | placed order new =>
      cases happened
      refine ⟨fun _ => trivial, fun _ other stored => ?_⟩
      rcases Collection.mem_insert.mp stored with old | ⟨-, rfl⟩
      · exact all other old
      · exact placed other new
  | elsewhere users stores =>
      cases happened
      exact ⟨fun _ => trivial, fun _ => all⟩

/-- From new orders, what new orders have holds of all orders throughout a run exactly
when every change of the run meets the condition under which it stays. -/
theorem always_allOrders_iff (placed : ∀ order, Order.New order → Holds order)
    (changed : ∀ order change, Holds order → (Holds (change.update.apply order) ↔
      Guard order change))
    {database : Database} (initial : AllOrders Order.New database) (events : List Event) :
    Always happen? (AllOrders Holds) database events ↔
      EveryStep happen? (Changes Guard) database events :=
  have exact_step (source : Database) (event : Event) (target : Database)
      (all : AllOrders Holds source) (happened : happen? source event = some target) :
      AllOrders Holds target ↔ Changes Guard source event target :=
    happen_allOrders_iff placed changed all happened
  always_iff_everyStep exact_step fun order stored => placed order (initial order stored)

end Runs

end Proximity.Orders
