import Mathlib.Algebra.Order.BigOperators.Group.List
import Mathlib.Algebra.Order.Field.Basic
import Mathlib.Algebra.Order.Ring.Rat
import Mathlib.Tactic.Linarith
import Mathlib.Tactic.Ring
import Proximity.Apps.Checkout

/-!
# The client's app: the deposit of a reservation

The server turns the reservation policy of a product into one number, and the app takes it
for the part of the price that is paid at once.
-/

namespace Proximity.Apps.Client

open Proximity.Systems Proximity.Models Proximity.Orders

/-- Unlike its siblings it sums over all products. -/
def getReservationFinalizeItemsTotal (slider : OrderSlider) : Option ℚ :=
  itemsTotal 0
    (fun item price => price * item.quantity * (1 - item.reservationP) * (1 - item.discount))
    slider.products

/-- The discounted total of the list. -/
def discountedTotal (slider : OrderSlider) : Option ℚ :=
  itemsTotal 0 (fun item price => price * item.quantity * (1 - item.discount)) slider.products

/-- The deposit and what is left to pay are parts of the total, and add up to it. -/
def DepositFits (slider : OrderSlider) : Prop :=
  ∃ deposit left total, getReservationItemsTotal slider = some deposit ∧
    getReservationFinalizeItemsTotal slider = some left ∧
    discountedTotal slider = some total ∧
    (0 ≤ deposit ∧ deposit ≤ total) ∧ (0 ≤ left ∧ left ≤ total) ∧ deposit + left = total

/-! ## Reserved products -/

/-- A percentage is one of a hundred. -/
def PercentageFits (payment : Option ReservationPayment) : Prop :=
  ∀ given percentage, (payment.bind ReservationPayment.partialPayment) = some given →
    given.percentage = some percentage → 0 ≤ percentage ∧ percentage ≤ 100

/-- A reserved product, with the number the server computed from its policy. -/
structure Reserved (item : ProductCart) (payment : Option ReservationPayment) : Prop where
  reserved : item.reservation = true
  priced : item.price.isSome = true
  price : 0 ≤ item.price.getD 0
  quantity : 0 ≤ item.quantity
  discount : 0 ≤ item.discount ∧ item.discount ≤ 1
  part : item.reservationP = reservationP payment
  percentage : PercentageFits payment

/-- What the product costs after its discount. -/
def ProductCart.lineAmount (item : ProductCart) : ℚ :=
  item.price.getD 0 * item.quantity * (1 - item.discount)

/-- The amount of a policy that asks for a fixed amount. -/
def fixedAmount? (payment : Option ReservationPayment) : Option ℚ :=
  payment.bind fun payment =>
    if payment.free = some true ∨ payment.total = some true then none
    else payment.partialPayment.bind fun given =>
      if (nonzero given.percentage).isSome = true then none else given.fixe

/-- A sum over the products whose policy asks for a fixed amount. -/
def overFixed (value : ℚ → ℚ) (lines : List (ProductCart × Option ReservationPayment)) : ℚ :=
  (lines.map fun line => (fixedAmount? line.2).elim 0 fun amount =>
    line.1.lineAmount * value amount).sum

/-- A sum over the other products. -/
def overParts (value : ℚ → ℚ) (lines : List (ProductCart × Option ReservationPayment)) : ℚ :=
  (lines.map fun line => (fixedAmount? line.2).elim
    (line.1.lineAmount * value (reservationP line.2)) fun _ => 0).sum

/-- The fixed amounts, taken for parts of the price, are made up for by the other products:
what they exceed the prices by, and what they are below zero. -/
structure FixedCovered (lines : List (ProductCart × Option ReservationPayment)) : Prop where
  excess : overFixed (fun amount => amount - 1) lines ≤ overParts (fun part => 1 - part) lines
  lack : -overParts (fun part => part) lines ≤ overFixed (fun amount => amount) lines

/-! ## The policies -/

theorem Reserved.lineAmount_nonneg {item : ProductCart} {payment : Option ReservationPayment}
    (reserved : Reserved item payment) : 0 ≤ item.lineAmount :=
  mul_nonneg (mul_nonneg reserved.price (by exact_mod_cast reserved.quantity))
    (sub_nonneg.mpr reserved.discount.2)

theorem reservationP_of_fixed {payment : Option ReservationPayment} {amount : ℚ}
    (fixed : fixedAmount? payment = some amount) : reservationP payment = amount := by
  cases payment with
  | none => cases fixed
  | some payment =>
      rw [fixedAmount?, Option.bind_some] at fixed
      split at fixed
      case isTrue => cases fixed
      case isFalse asked =>
        rw [not_or] at asked
        obtain ⟨given, partly, fixed⟩ := Option.bind_eq_some_iff.mp fixed
        split at fixed
        case isTrue => cases fixed
        case isFalse unset =>
          have nothing : nonzero given.percentage = none := Option.not_isSome_iff_eq_none.mp unset
          simp only [reservationP, if_neg asked.1, if_neg asked.2, partly, nothing, fixed,
            Option.getD_some]

/-- Every other policy asks for a part of the price. -/
theorem reservationP_of_part {payment : Option ReservationPayment}
    (other : fixedAmount? payment = none) (fits : PercentageFits payment) :
    0 ≤ reservationP payment ∧ reservationP payment ≤ 1 := by
  cases payment with
  | none => exact ⟨le_refl 0, zero_le_one⟩
  | some payment =>
      rw [fixedAmount?, Option.bind_some] at other
      simp only [reservationP]
      by_cases free : payment.free = some true
      · rw [if_pos free]
        exact ⟨le_refl 0, zero_le_one⟩
      rw [if_neg free]
      by_cases total : payment.total = some true
      · rw [if_pos total]
        exact ⟨zero_le_one, le_refl 1⟩
      rw [if_neg total]
      rw [if_neg fun either => either.elim free total] at other
      cases partly : payment.partialPayment with
      | none => exact ⟨le_refl 0, zero_le_one⟩
      | some given =>
          rw [partly, Option.bind_some] at other
          cases chosen : nonzero given.percentage with
          | none =>
              rw [chosen, if_neg (by simp)] at other
              simp only [chosen, other, Option.getD_none]
              exact ⟨le_refl 0, zero_le_one⟩
          | some percentage =>
              obtain ⟨stored, _⟩ := Option.filter_eq_some_iff.mp chosen
              have bounds := fits given percentage partly stored
              have hundred : (0 : ℚ) < 100 := by norm_num
              simp only [chosen]
              exact ⟨div_nonneg bounds.1 hundred.le, (div_le_one hundred).mpr bounds.2⟩

/-! ## The totals -/

section Totals

variable {slider : OrderSlider} {lines : List (ProductCart × Option ReservationPayment)}

theorem sum_split (valid : ∀ line ∈ lines, Reserved line.1 line.2) (value : ℚ → ℚ) :
    (lines.map fun line => line.1.lineAmount * value line.1.reservationP).sum =
      overFixed value lines + overParts value lines := by
  rw [overFixed, overParts, ← List.sum_map_add]
  congr 1
  refine List.map_congr_left fun line member => ?_
  rw [(valid line member).part]
  cases fixed : fixedAmount? line.2 with
  | none => simp
  | some amount => simp [reservationP_of_fixed fixed]

theorem getReservationItems_all (products : slider.products = lines.map Prod.fst)
    (valid : ∀ line ∈ lines, Reserved line.1 line.2) :
    getReservationItems slider.products = slider.products := by
  refine List.filter_eq_self.mpr fun item member => ?_
  rw [products] at member
  obtain ⟨line, there, rfl⟩ := List.mem_map.mp member
  exact (valid line there).reserved

/-- A total over the products is a sum over the lines. -/
theorem itemsTotal_lines {amount : ProductCart → ℚ → ℚ}
    (products : slider.products = lines.map Prod.fst)
    (valid : ∀ line ∈ lines, Reserved line.1 line.2) :
    itemsTotal 0 amount slider.products =
      some (lines.map fun line => amount line.1 (line.1.price.getD 0)).sum := by
  have priced : ∀ item ∈ slider.products, item.price.isSome = true := by
    rw [products, List.forall_mem_map]
    exact fun line member => (valid line member).priced
  rw [itemsTotal_eq_some priced, zero_add, products, List.map_map]
  rfl

/-- The three totals of a list of reserved products. -/
theorem totals_eq (products : slider.products = lines.map Prod.fst)
    (valid : ∀ line ∈ lines, Reserved line.1 line.2) :
    getReservationItemsTotal slider =
        some (lines.map fun line => line.1.lineAmount * line.1.reservationP).sum ∧
      getReservationFinalizeItemsTotal slider =
        some (lines.map fun line => line.1.lineAmount * (1 - line.1.reservationP)).sum ∧
      discountedTotal slider = some (lines.map fun line => line.1.lineAmount).sum := by
  refine ⟨?_, ?_, ?_⟩
  · rw [getReservationItemsTotal, getReservationItems_all products valid,
      itemsTotal_lines products valid]
    simp only [ProductCart.lineAmount, mul_right_comm]
  · rw [getReservationFinalizeItemsTotal, itemsTotal_lines products valid]
    simp only [ProductCart.lineAmount, mul_right_comm]
  · rw [discountedTotal, itemsTotal_lines products valid]
    rfl

theorem deposit_add_left (lines : List (ProductCart × Option ReservationPayment)) :
    (lines.map fun line => line.1.lineAmount * line.1.reservationP).sum +
        (lines.map fun line => line.1.lineAmount * (1 - line.1.reservationP)).sum =
      (lines.map fun line => line.1.lineAmount).sum := by
  rw [← List.sum_map_add]
  congr 1
  refine List.map_congr_left fun line _ => ?_
  ring

theorem overFixed_sub (lines : List (ProductCart × Option ReservationPayment)) :
    overFixed (fun amount => amount - 1) lines = -overFixed (fun amount => 1 - amount) lines := by
  rw [eq_neg_iff_add_eq_zero, overFixed, overFixed, ← List.sum_map_add]
  refine List.sum_eq_zero (List.forall_mem_map.mpr fun line _ => ?_)
  cases fixedAmount? line.2 with
  | none => exact add_zero 0
  | some amount =>
      simp only [Option.elim_some]
      ring

/-- The fixed amounts are covered exactly when neither total is negative. -/
theorem fixedCovered_iff (valid : ∀ line ∈ lines, Reserved line.1 line.2) :
    FixedCovered lines ↔
      0 ≤ (lines.map fun line => line.1.lineAmount * line.1.reservationP).sum ∧
      0 ≤ (lines.map fun line => line.1.lineAmount * (1 - line.1.reservationP)).sum := by
  have deposit := sum_split valid fun part => part
  have left := sum_split valid fun part => 1 - part
  have excess := overFixed_sub lines
  constructor
  · rintro ⟨covered, lacking⟩
    exact ⟨by linarith, by linarith⟩
  · rintro ⟨deposited, remaining⟩
    exact ⟨by linarith, by linarith⟩

/-- Fixed amounts between zero and one are covered. -/
theorem fixedCovered_of_parts (valid : ∀ line ∈ lines, Reserved line.1 line.2)
    (fits : ∀ line ∈ lines, ∀ amount, fixedAmount? line.2 = some amount →
      0 ≤ amount ∧ amount ≤ 1) : FixedCovered lines := by
  have part : ∀ line ∈ lines, 0 ≤ line.1.reservationP ∧ line.1.reservationP ≤ 1 := by
    intro line member
    rw [(valid line member).part]
    cases asked : fixedAmount? line.2 with
    | none => exact reservationP_of_part asked (valid line member).percentage
    | some amount =>
        rw [reservationP_of_fixed asked]
        exact fits line member amount asked
  rw [fixedCovered_iff valid]
  constructor
  · refine List.sum_nonneg (List.forall_mem_map.mpr fun line member => ?_)
    exact mul_nonneg (valid line member).lineAmount_nonneg (part line member).1
  · refine List.sum_nonneg (List.forall_mem_map.mpr fun line member => ?_)
    exact mul_nonneg (valid line member).lineAmount_nonneg (sub_nonneg.mpr (part line member).2)

end Totals

/-- The totals fit exactly when the fixed amounts are covered, as they are when each is at
most one; whatever the policies, deposit and rest add up. -/
theorem depositFits_iff (slider : OrderSlider)
    (lines : List (ProductCart × Option ReservationPayment))
    (products : slider.products = lines.map Prod.fst)
    (valid : ∀ line ∈ lines, Reserved line.1 line.2) :
    (DepositFits slider ↔ FixedCovered lines) ∧
      ((∀ line ∈ lines, ∀ amount, fixedAmount? line.2 = some amount → 0 ≤ amount ∧ amount ≤ 1) →
        FixedCovered lines) := by
  refine ⟨?_, fixedCovered_of_parts valid⟩
  obtain ⟨deposit, left, total⟩ := totals_eq products valid
  have adds := deposit_add_left lines
  rw [fixedCovered_iff valid]
  constructor
  · rintro ⟨paid, rest, whole, deposited, remaining, summed, paidFits, restFits, _⟩
    cases deposit.symm.trans deposited
    cases left.symm.trans remaining
    exact ⟨paidFits.1, restFits.1⟩
  · rintro ⟨paid, rest⟩
    exact ⟨_, _, _, deposit, left, total, ⟨paid, by linarith⟩, ⟨rest, by linarith⟩, adds⟩

/-! ## A fixed amount -/

/-- A product of a hundred, whose seller asks for `asked` when it is reserved. -/
def deposited (asked : PartialPayment) : ProductCart × Option ReservationPayment :=
  let payment := some ⟨some false, some asked, some false⟩
  ({ id := some "a", productId := some "20", variantId := some "a", price := some 100
     quantity := 1, discount := 0, reservation := true, reservationP := reservationP payment
     delivery := true, deliveryP := 0, pickup := false, reservationPolicy := true
     deliveryPolicy := true, pickupPolicy := true }, payment)

def depositSlider (asked : PartialPayment) : OrderSlider where
  products := [(deposited asked).1]
  totalDelivery := some 0
  storeId := some 10
  orderId := none

theorem deposited_reserved (asked : PartialPayment)
    (fits : ∀ percentage, asked.percentage = some percentage →
      0 ≤ percentage ∧ percentage ≤ 100) :
    ∀ line ∈ [deposited asked], Reserved line.1 line.2 := by
  rw [List.forall_mem_singleton]
  refine ⟨rfl, rfl, ?_, Int.one_nonneg, ⟨le_refl 0, zero_le_one⟩, rfl, ?_⟩
  · rw [deposited, Option.getD_some]
    norm_num
  rintro given percentage same stored
  cases same
  exact fits percentage stored

theorem quarter_depositFits_iff :
    (DepositFits (depositSlider ⟨none, some 25⟩) ↔ FixedCovered [deposited ⟨none, some 25⟩]) ∧
      ((∀ line ∈ [deposited ⟨none, some 25⟩], ∀ amount, fixedAmount? line.2 = some amount →
        0 ≤ amount ∧ amount ≤ 1) → FixedCovered [deposited ⟨none, some 25⟩]) :=
  depositFits_iff (depositSlider ⟨none, some 25⟩) _ rfl
    (deposited_reserved _ fun percentage given => by
      cases given
      decide +kernel)

/-- Five of a hundred make a deposit of five hundred, and leave less than nothing. -/
theorem five_not_depositFits :
    (∀ line ∈ [deposited ⟨some 5, none⟩], Reserved line.1 line.2) ∧
      getReservationItemsTotal (depositSlider ⟨some 5, none⟩) = some 500 ∧
      getReservationFinalizeItemsTotal (depositSlider ⟨some 5, none⟩) = some (-400) ∧
      ¬ DepositFits (depositSlider ⟨some 5, none⟩) := by
  have left : getReservationFinalizeItemsTotal (depositSlider ⟨some 5, none⟩) = some (-400) := by
    decide +kernel
  refine ⟨deposited_reserved _ nofun, by decide +kernel, left, ?_⟩
  rintro ⟨paid, rest, whole, _, remaining, _, _, restFits, _⟩
  cases left.symm.trans remaining
  exact absurd restFits.1 (by decide +kernel)

end Proximity.Apps.Client
