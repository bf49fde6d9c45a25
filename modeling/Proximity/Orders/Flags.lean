import Proximity.Orders.Changes

/-!
# The flags of an order

A refund follows a return, and a return follows a request for it.  The operations
set the flags without looking at the ones that should come before.
-/

namespace Proximity.Orders

open Proximity.Systems Proximity.Models

structure Order.Consistent (order : Order) : Prop where
  refund_returned : order.refund = some true → order.returned = some true
  returned_return : order.returned = some true → order.returnFlag = some true
  waiting_return : order.waitingforReturn = some true → order.returnFlag = some true

/-- Nothing is awaited, taken back or refunded before a return was asked for. -/
def AsksFirst (order : Order) : Change → Prop
  | .status .waitingForReturn => order.returnFlag = some true
  | .status .returned => order.returnFlag = some true
  | .status _ => True
  | .return _ _ => True
  | .refund _ => order.returnFlag = some true
  | .cancel _ _ => True

theorem consistent_of_new (order : Order) (new : Order.New order) : Order.Consistent order := by
  obtain ⟨returnFlag, waitingforReturn, returned, -, refund, -⟩ := new
  constructor
  · simp [refund]
  · simp [returned]
  · simp [waitingforReturn]

theorem status_consistent_iff {order : Order} (consistent : Order.Consistent order)
    (given : OrderStatus) :
    Order.Consistent ((statusUpdate given).apply order) ↔ AsksFirst order (.status given) := by
  obtain ⟨refund_returned, returned_return, waiting_return⟩ := consistent
  cases given with
  | waitingForReturn =>
      exact ⟨fun later => later.waiting_return rfl,
        fun asked => ⟨refund_returned, returned_return, fun _ => asked⟩⟩
  | returned =>
      exact ⟨fun later => later.returned_return rfl,
        fun asked => ⟨fun _ => rfl, fun _ => asked, waiting_return⟩⟩
  | _ => exact ⟨fun _ => trivial, fun _ => ⟨refund_returned, returned_return, waiting_return⟩⟩

/-- A refund takes the order back, whatever it pays. -/
theorem refundUpdate_flags (order : Order) (returnItems : RefundItems) :
    ((refundUpdate returnItems).apply order).returned = some true ∧
      ((refundUpdate returnItems).apply order).returnFlag = order.returnFlag ∧
      ((refundUpdate returnItems).apply order).waitingforReturn = order.waitingforReturn ∧
      ((refundUpdate returnItems).apply order).canceled = order.canceled ∧
      ((refundUpdate returnItems).apply order).pickUp = order.pickUp ∧
      ((refundUpdate returnItems).apply order).delivery = order.delivery := by
  unfold refundUpdate
  split
  case h_1 => split <;> simp
  case h_2 => simp

theorem change_consistent_iff (order : Order) (change : Change)
    (consistent : Order.Consistent order) :
    Order.Consistent (change.update.apply order) ↔ AsksFirst order change := by
  cases change with
  | status given => exact status_consistent_iff consistent given
  | «return» returnItems motif =>
      exact ⟨fun _ => trivial, fun _ => ⟨consistent.refund_returned, fun _ => rfl, fun _ => rfl⟩⟩
  | refund returnItems =>
      obtain ⟨returned, returnFlag, waitingforReturn, -⟩ := refundUpdate_flags order returnItems
      constructor
      · exact fun later => returnFlag.symm.trans (later.returned_return returned)
      · exact fun asked =>
          ⟨fun _ => returned, fun _ => returnFlag.trans asked, fun _ => returnFlag.trans asked⟩
  | cancel userId motif =>
      exact ⟨fun _ => trivial, fun _ => ⟨consistent.refund_returned, consistent.returned_return,
        consistent.waiting_return⟩⟩

/-- The flags of all orders are consistent throughout a run exactly when a return was
asked for before every change that awaits it, takes it or refunds it. -/
theorem consistent_iff_asksFirst {database : Database} (initial : AllOrders Order.New database)
    (events : List Event) :
    Always happen? (AllOrders Order.Consistent) database events ↔
      EveryStep happen? (Changes AsksFirst) database events :=
  always_allOrders_iff consistent_of_new change_consistent_iff initial events

/-! ## An order that nobody returns -/

theorem marketplace_new : AllOrders Order.New marketplace := by
  intro order stored
  cases List.mem_singleton.mp stored
  exact ⟨rfl, rfl, rfl, rfl, rfl, rfl⟩

/-- The seller gives the order a status. -/
def sellerUpdates (status : OrderStatus) : Event :=
  .call (.updateOrdersStatus (some 2) ⟨some 100, some status⟩)

/-- The client asks for the return of the product. -/
def clientReturns : Event :=
  .call (.returnOrders ⟨some 1, some 100, .text (some [⟨"variant", 1⟩]), none⟩)

theorem clientReturns_consistent :
    AllOrders Order.New marketplace ∧
      EveryStep happen? (Changes AsksFirst) marketplace [clientReturns, sellerUpdates .returned] ∧
      Always happen? (AllOrders Order.Consistent) marketplace
        [clientReturns, sellerUpdates .returned] := by
  have guarded : EveryStep happen? (Changes AsksFirst) marketplace
      [clientReturns, sellerUpdates .returned] := by
    rintro target ⟨⟩
    refine ⟨?_, ?_⟩
    · rintro order change ⟨-, ⟨⟩, -⟩
      trivial
    · rintro final ⟨⟩
      refine ⟨?_, trivial⟩
      rintro order change ⟨⟨⟩, ⟨⟩, -⟩
      exact rfl
  exact ⟨marketplace_new, guarded,
    (consistent_iff_asksFirst marketplace_new _).mpr guarded⟩

/-- The seller marks an order as returned that nobody asked to return. -/
theorem sellerReturns_not_consistent :
    AllOrders Order.New marketplace ∧
      ¬ Always happen? (AllOrders Order.Consistent) marketplace [sellerUpdates .returned] := by
  refine ⟨marketplace_new, fun always => ?_⟩
  have later := (always.2 _ rfl) _ (List.mem_singleton.mpr rfl)
  exact absurd (later.returned_return rfl) (by decide)

end Proximity.Orders
