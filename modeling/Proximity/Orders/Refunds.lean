import Proximity.Apps.ReturnScreen
import Proximity.Orders.Flags

/-!
# The amount of a refund

The merchant's screen adds up prices without their discounts and takes a fixed fee for a
rate.  The server stores the total it is sent.
-/

namespace Proximity.Orders

open Proximity.Systems Proximity.Models
open Proximity.Apps

/-- The stored refund of an order is at most its payment.  `paymentInfos` gives the paid
total of the order of an id, which no operation changes. -/
def RefundPaid (paymentInfos : ObjectId → ℚ) (order : Order) : Prop :=
  ∀ total, order.refundPaymentInfos = some total → total ≤ paymentInfos order.id

/-- A posted total that is stored is at most the payment. -/
def PostsPaid (paymentInfos : ObjectId → ℚ) (order : Order) : Change → Prop
  | .refund returnItems =>
      ∀ total, returnItems.total = some total → 0 < total → total ≤ paymentInfos order.id
  | _ => True

theorem refundPaid_of_new (paymentInfos : ObjectId → ℚ) (order : Order)
    (new : Order.New order) : RefundPaid paymentInfos order := by
  intro total stored
  rw [new.refundPaymentInfos] at stored
  cases stored

theorem refund_refundPaid_iff {paymentInfos : ObjectId → ℚ} {order : Order}
    (paid : RefundPaid paymentInfos order) (returnItems : RefundItems) :
    RefundPaid paymentInfos ((refundUpdate returnItems).apply order) ↔
      PostsPaid paymentInfos order (.refund returnItems) := by
  have sameId := (refundUpdate returnItems).keepsId order
  unfold RefundPaid at paid ⊢
  unfold PostsPaid
  rw [← Order.document_id, sameId, Order.document_id]
  cases posted : returnItems.total with
  | none => simpa [refundUpdate, posted] using paid
  | some total =>
      by_cases positive : 0 < total
      · simp [refundUpdate, posted, positive]
      · simpa [refundUpdate, posted, positive] using paid

theorem change_refundPaid_iff (paymentInfos : ObjectId → ℚ) (order : Order) (change : Change)
    (paid : RefundPaid paymentInfos order) :
    RefundPaid paymentInfos (change.update.apply order) ↔ PostsPaid paymentInfos order change := by
  cases change with
  | status given =>
      refine ⟨fun _ => trivial, fun _ => ?_⟩
      cases given <;> exact paid
  | «return» returnItems motif => exact ⟨fun _ => trivial, fun _ => paid⟩
  | refund returnItems => exact refund_refundPaid_iff paid returnItems
  | cancel userId motif => exact ⟨fun _ => trivial, fun _ => paid⟩

/-- The screen's total stays within what was paid while every quantity that is taken is
covered by its item; the stored refund does exactly while the posted totals do. -/
theorem refunds_within_payment {lines : List Commercant.OrderLine}
    {calls : List Commercant.QuantityCall} {paymentInfos : ObjectId → ℚ} {database : Database}
    {events : List Event}
    (paid : ∀ item ∈ Commercant.initProducts lines, 0 ≤ item.paid)
    (covered : EveryStep Commercant.setQuantity? Commercant.CoveredCall
      (Commercant.initProducts lines) calls)
    (initial : AllOrders Order.New database) :
    Always Commercant.setQuantity? Commercant.WithinPaid (Commercant.initProducts lines) calls ∧
      (Always happen? (AllOrders (RefundPaid paymentInfos)) database events ↔
        EveryStep happen? (Changes (PostsPaid paymentInfos)) database events) :=
  ⟨Commercant.withinPaid_of_coveredCalls paid covered,
    always_allOrders_iff (refundPaid_of_new paymentInfos) (change_refundPaid_iff paymentInfos)
      initial events⟩

/-! ## A discounted product -/

/-- One unit at half of its price, given back in full. -/
def halfPrice : Commercant.OrderLine := ⟨some "variant", 10, 1 / 2, 1, some ⟨none, some 1⟩⟩

/-- One unit at its price, given back by half. -/
def halfRefund : Commercant.OrderLine := ⟨some "variant", 5, 0, 1, some ⟨none, some (1 / 2)⟩⟩

def returnsOne : Commercant.QuantityCall := ⟨1, some "variant"⟩

/-- The seller refunds the product of the order of 5. -/
def sellerRefunds (total : ℚ) : Event :=
  .call (.refundOrders ⟨some 2, some 100, .text (some ⟨[⟨"variant", 1⟩], some total⟩)⟩)

/-- The second line of the variant takes no quantity, so that its rate does no harm. -/
theorem halfRefund_within_payment :
    Always Commercant.setQuantity? Commercant.WithinPaid
        (Commercant.initProducts [halfRefund, halfPrice]) [returnsOne] ∧
      (Always happen? (AllOrders (RefundPaid fun _ => 5)) marketplace [sellerRefunds 5] ↔
        EveryStep happen? (Changes (PostsPaid fun _ => 5)) marketplace [sellerRefunds 5]) := by
  have paid : ∀ item ∈ Commercant.initProducts [halfRefund, halfPrice], 0 ≤ item.paid := by
    decide +kernel
  have covered : EveryStep Commercant.setQuantity? Commercant.CoveredCall
      (Commercant.initProducts [halfRefund, halfPrice]) [returnsOne] := by
    rintro target ⟨⟩
    refine ⟨?_, trivial⟩
    rintro item ⟨⟩ _
    exact ⟨by decide +kernel, by decide +kernel⟩
  exact refunds_within_payment paid covered marketplace_new

/-- The screen refunds 10 of the 5 that were paid, and the server stores a refund of 50. -/
theorem halfPrice_not_within_payment :
    ¬ Always Commercant.setQuantity? Commercant.WithinPaid
        (Commercant.initProducts [halfPrice]) [returnsOne] ∧
      ¬ Always happen? (AllOrders (RefundPaid fun _ => 5)) marketplace [sellerRefunds 50] := by
  constructor
  · intro always
    have later : Commercant.WithinPaid _ := always.2 _ rfl
    exact absurd later.bounded (by decide +kernel)
  · intro always
    have stored := (always.2 _ rfl) _ (List.mem_singleton.mpr rfl)
    exact absurd (stored 50 (by decide +kernel)) (by decide +kernel)

end Proximity.Orders
