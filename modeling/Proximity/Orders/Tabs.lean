import Proximity.Orders.Flags
import Proximity.Orders.Listing

/-!
# Where a returned or canceled order is listed

A return is in one of three tabs as long as it was awaited before it was taken back.
No query lists a canceled order.
-/

namespace Proximity.Orders

open Proximity.Systems Proximity.Models

/-- The status names that stand for a return that is awaited. -/
def Waiting (status : String) : Prop := status ∉ ["pending", "returned", "all", "Canceled"]

theorem waiting_waiting : Waiting "waiting" := by
  unfold Waiting
  decide

/-- In how many of the three return tabs a viewer finds the order. -/
def returnTabs (viewer : Viewer) (waiting : String) (order : Order) : Nat :=
  ["pending", waiting, "returned"].countP fun status =>
    (queryFor viewer "return" status).finds order

/-- Every return that is not canceled is in exactly one return tab, and every canceled
order that is not refunded is among the canceled ones of its mode. -/
structure Order.Listed (order : Order) : Prop where
  returned : order.canceled ≠ some true → order.returnFlag = some true →
    ∀ viewer waiting, Waiting waiting → returnTabs viewer waiting order = 1
  pickup : order.canceled = some true → order.refund ≠ some true → order.pickUp = true →
    ∀ viewer, (queryFor viewer "pickup" "Canceled").finds order = true
  delivery : order.canceled = some true → order.refund ≠ some true → order.delivery = true →
    ∀ viewer, (queryFor viewer "delivery" "Canceled").finds order = true

/-! ## The return tabs -/

theorem return_finds_iff (viewer : Viewer) (order : Order) {status : String}
    (single : status ≠ "all") (live : status ≠ "Canceled") :
    (queryFor viewer "return" status).finds order = true ↔
      order.returnFlag = some true ∧
        (if status = "pending" then order.waitingforReturn ≠ some true
          else order.waitingforReturn = some true) ∧
        (if status = "returned" then order.returned = some true
          else order.returned ≠ some true) ∧
        order.canceled ≠ some true := by
  rw [queryFor, if_neg live, if_neg (by decide), if_pos rfl, if_neg single]
  simp only [Query.finds, matchesAll, List.all_cons, List.all_nil, read, Bool.and_eq_true,
    equals_holds_ofOption, isNot_holds_ofOption, decide_eq_true_eq, Option.all_none, Bool.not_false,
    Bool.true_or, and_true]
  refine and_congr_right fun _ => and_congr ?_ (and_congr ?_ Iff.rfl)
  · split <;> simp
  · split <;> simp

/-- A return is in one tab unless it was taken back and never awaited. -/
theorem returnTabs_eq_one_iff (viewer : Viewer) {waiting : String} (waits : Waiting waiting)
    {order : Order} (live : order.canceled ≠ some true) (asked : order.returnFlag = some true) :
    returnTabs viewer waiting order = 1 ↔
      (order.returned = some true → order.waitingforReturn = some true) := by
  have others : waiting ≠ "pending" ∧ waiting ≠ "returned" ∧ waiting ≠ "all" ∧
      waiting ≠ "Canceled" := by
    simpa [Waiting] using waits
  obtain ⟨not_pending, not_returned, single, not_canceled⟩ := others
  have pending := return_finds_iff viewer order (by decide : "pending" ≠ "all") (by decide)
  have waited := return_finds_iff viewer order single not_canceled
  have returned := return_finds_iff viewer order (by decide : "returned" ≠ "all") (by decide)
  by_cases awaited : order.waitingforReturn = some true
  · by_cases back : order.returned = some true
    · simp_all [returnTabs]
    · simp_all [returnTabs]
  · by_cases back : order.returned = some true
    · simp_all [returnTabs]
    · simp_all [returnTabs]

theorem listed_iff (order : Order) :
    Order.Listed order ↔
      (order.canceled ≠ some true → order.returnFlag = some true → order.returned = some true →
        order.waitingforReturn = some true) ∧
      (order.canceled = some true → order.refund ≠ some true →
        order.pickUp = false ∧ order.delivery = false) := by
  constructor
  · intro listed
    refine ⟨fun live asked => ?_, fun canceled unpaid => ⟨?_, ?_⟩⟩
    · exact (returnTabs_eq_one_iff .client waiting_waiting live asked).mp
        (listed.returned live asked .client "waiting" waiting_waiting)
    · by_contra placed
      have found := listed.pickup canceled unpaid (by simpa using placed) .client
      rw [canceled_finds_nothing] at found
      cases found
    · by_contra placed
      have found := listed.delivery canceled unpaid (by simpa using placed) .client
      rw [canceled_finds_nothing] at found
      cases found
  · rintro ⟨returned, canceled⟩
    refine ⟨fun live asked viewer waiting waits => ?_, fun dropped unpaid placed => ?_,
      fun dropped unpaid placed => ?_⟩
    · exact (returnTabs_eq_one_iff viewer waits live asked).mpr (returned live asked)
    · rw [(canceled dropped unpaid).1] at placed
      cases placed
    · rw [(canceled dropped unpaid).2] at placed
      cases placed

/-! ## Runs -/

/-- A return is awaited before it is taken back, and no order that was placed for pickup
or delivery is canceled before its refund. -/
def KeepsTabs (order : Order) : Change → Prop
  | .status .returned =>
      order.canceled ≠ some true → order.returnFlag = some true →
        order.waitingforReturn = some true
  | .status _ => True
  | .return _ _ =>
      order.canceled ≠ some true → order.returned = some true →
        order.waitingforReturn = some true
  | .refund _ =>
      order.canceled ≠ some true → order.returnFlag = some true →
        order.waitingforReturn = some true
  | .cancel _ _ => order.refund ≠ some true → order.pickUp = false ∧ order.delivery = false

theorem listed_of_new (order : Order) (new : Order.New order) : Order.Listed order := by
  obtain ⟨returnFlag, -, -, -, -, canceled⟩ := new
  refine (listed_iff order).mpr ⟨fun _ asked => ?_, fun dropped => ?_⟩
  · rw [returnFlag] at asked
    cases asked
  · rw [canceled] at dropped
    cases dropped

theorem status_listed_iff {order : Order} (listed : Order.Listed order) (given : OrderStatus) :
    Order.Listed ((statusUpdate given).apply order) ↔ KeepsTabs order (.status given) := by
  obtain ⟨returned, canceled⟩ := (listed_iff order).mp listed
  rw [listed_iff]
  cases given with
  | waitingForReturn => exact ⟨fun _ => trivial, fun _ => ⟨fun _ _ _ => rfl, canceled⟩⟩
  | returned =>
      exact ⟨fun later live asked => later.1 live asked rfl,
        fun awaited => ⟨fun live asked _ => awaited live asked, canceled⟩⟩
  | _ => exact ⟨fun _ => trivial, fun _ => ⟨returned, canceled⟩⟩

theorem refund_listed_iff {order : Order} (listed : Order.Listed order)
    (returnItems : RefundItems) :
    Order.Listed ((refundUpdate returnItems).apply order) ↔
      KeepsTabs order (.refund returnItems) := by
  obtain ⟨-, canceled⟩ := (listed_iff order).mp listed
  obtain ⟨taken, asked, awaited, dropped, pickUp, delivery⟩ := refundUpdate_flags order returnItems
  have paid : ((refundUpdate returnItems).apply order).refund ≠ some true →
      order.refund ≠ some true := by
    unfold refundUpdate
    split
    case h_1 => split <;> simp
    case h_2 => simp
  rw [listed_iff, asked, awaited, dropped, pickUp, delivery]
  constructor
  · exact fun later live asked => later.1 live asked taken
  · exact fun waits => ⟨fun live asked _ => waits live asked,
      fun dropped unpaid => canceled dropped (paid unpaid)⟩

theorem change_listed_iff (order : Order) (change : Change) (listed : Order.Listed order) :
    Order.Listed (change.update.apply order) ↔ KeepsTabs order change := by
  cases change with
  | status given => exact status_listed_iff listed given
  | «return» returnItems motif =>
      obtain ⟨-, canceled⟩ := (listed_iff order).mp listed
      rw [Change.update, listed_iff]
      exact ⟨fun later live => later.1 live rfl,
        fun waits => ⟨fun live _ => waits live, canceled⟩⟩
  | refund returnItems => exact refund_listed_iff listed returnItems
  | cancel userId motif =>
      rw [Change.update, listed_iff]
      exact ⟨fun later => later.2 rfl,
        fun unplaced => ⟨fun live => absurd rfl live, fun _ => unplaced⟩⟩

/-- Throughout a run from new orders, every return and every canceled order is listed
exactly when every change of the run keeps the order in its tabs. -/
theorem listed_iff_keepsTabs {database : Database} (initial : AllOrders Order.New database)
    (events : List Event) :
    Always happen? (AllOrders Order.Listed) database events ↔
      EveryStep happen? (Changes KeepsTabs) database events :=
  always_allOrders_iff listed_of_new change_listed_iff initial events

/-! ## A return that is taken back -/

theorem awaitedReturn_listed :
    AllOrders Order.New marketplace ∧
      EveryStep happen? (Changes KeepsTabs) marketplace
        [clientReturns, sellerUpdates .waitingForReturn, sellerUpdates .returned] ∧
      Always happen? (AllOrders Order.Listed) marketplace
        [clientReturns, sellerUpdates .waitingForReturn, sellerUpdates .returned] := by
  have guarded : EveryStep happen? (Changes KeepsTabs) marketplace
      [clientReturns, sellerUpdates .waitingForReturn, sellerUpdates .returned] := by
    rintro first ⟨⟩
    refine ⟨?_, ?_⟩
    · rintro order change ⟨⟨⟩, ⟨⟩, -⟩ - returned
      cases returned
    · rintro second ⟨⟩
      refine ⟨?_, ?_⟩
      · rintro order change ⟨-, ⟨⟩, -⟩
        trivial
      · rintro third ⟨⟩
        refine ⟨?_, trivial⟩
        rintro order change ⟨⟨⟩, ⟨⟩, -⟩ - -
        exact rfl
  exact ⟨marketplace_new, guarded, (listed_iff_keepsTabs marketplace_new _).mpr guarded⟩

/-- The client cancels its order. -/
def clientCancels : Event := .call (.cancelOrders ⟨some 1, some 100, none⟩)

/-- No return tab shows the client a return that the seller takes back at once, and no
tab shows a canceled order. -/
theorem hastyReturn_not_listed :
    AllOrders Order.New marketplace ∧
      ¬ Always happen? (AllOrders Order.Listed) marketplace
        [clientReturns, sellerUpdates .returned] ∧
      ¬ Always happen? (AllOrders Order.Listed) marketplace [clientCancels] := by
  refine ⟨marketplace_new, fun always => ?_, fun always => ?_⟩
  · have later := ((always.2 _ rfl).2 _ rfl) _ (List.mem_singleton.mpr rfl)
    exact absurd (later.returned (by decide) rfl .client "waiting" waiting_waiting) (by decide)
  · have later := (always.2 _ rfl) _ (List.mem_singleton.mpr rfl)
    exact absurd (later.pickup rfl (by decide) rfl .client) (by decide)

end Proximity.Orders
