import Mathlib.Algebra.Order.BigOperators.Group.List
import Mathlib.Algebra.Order.Ring.Rat
import Proximity.Systems.Run

/-!
# The merchant's app: the screen that processes a return

`double`s are exact numbers.
-/

namespace Proximity.Apps.Commercant

open Proximity.Systems

/-- What the return policy gives back of an order, as a fee or as a part of it. -/
structure OrderRefund where
  fixe : Option ℚ
  percentage : Option ℚ
  deriving DecidableEq, Repr

/-- A line of a stored order, with the refund of its return policy if it has one. -/
structure OrderLine where
  variantId : Option String
  price : ℚ
  discount : ℚ
  quantity : Int
  refund : Option OrderRefund
  deriving DecidableEq, Repr

/-- The part of the app's `OrderItem` that the screen reads. -/
structure OrderItem where
  variantId : Option String
  price : ℚ
  discount : ℚ
  orderedQuantity : Int
  returnQuantity : Option Int
  refund : Option OrderRefund
  deriving DecidableEq, Repr

/-- `OrderItem.fromJson` of an order's line; only returned items bring a quantity. -/
def OrderItem.fromJson (line : OrderLine) : OrderItem where
  variantId := line.variantId
  price := line.price
  discount := line.discount
  orderedQuantity := line.quantity
  returnQuantity := some 0
  refund := line.refund

/-- `ReturnScreenValidation.initProducts`. -/
def initProducts (lines : List OrderLine) : List OrderItem := lines.map OrderItem.fromJson

/-- The first item of the variant takes the quantity, unless more is asked than ordered. -/
def changeReturnedItemQuantity (value : Int) (id : Option String) :
    List OrderItem → List OrderItem
  | [] => []
  | item :: items =>
      if item.variantId = id then
        (if value ≤ item.orderedQuantity then { item with returnQuantity := some value }
          else item) :: items
      else item :: changeReturnedItemQuantity value id items

/-- `returnPercentage`; a fixed fee is taken for it when there is no percentage. -/
def OrderItem.returnPercentage (item : OrderItem) : ℚ :=
  match item.refund with
  | none => 0
  | some refund => (refund.percentage <|> refund.fixe).getD 0

/-- What an item adds to the total at a returned quantity. -/
def OrderItem.refundOf (item : OrderItem) (returnQuantity : Int) : ℚ :=
  item.price * returnQuantity * item.returnPercentage

def getTotalToRefund (returnedItems : List OrderItem) : ℚ :=
  (returnedItems.map fun item => item.refundOf (item.returnQuantity.getD 0)).sum

/-! ## What was paid -/

def OrderItem.paid (item : OrderItem) : ℚ :=
  item.price * (1 - item.discount) * item.orderedQuantity

def paidTotal (items : List OrderItem) : ℚ := (items.map OrderItem.paid).sum

structure WithinPaid (items : List OrderItem) : Prop where
  nonnegative : 0 ≤ getTotalToRefund items
  bounded : getTotalToRefund items ≤ paidTotal items

/-- At this quantity the item gives back no less than nothing and no more than was paid. -/
def Covers (item : OrderItem) (returnQuantity : Int) : Prop :=
  0 ≤ item.refundOf returnQuantity ∧ item.refundOf returnQuantity ≤ item.paid

/-- A call of `changeReturnedItemQuantity`. -/
structure QuantityCall where
  value : Int
  id : Option String

def setQuantity? (items : List OrderItem) (call : QuantityCall) : Option (List OrderItem) :=
  some (changeReturnedItemQuantity call.value call.id items)

/-- The item that takes the quantity covers it; a later item of its variant takes none. -/
def CoveredCall (items : List OrderItem) (call : QuantityCall) (_ : List OrderItem) : Prop :=
  ∀ item, (items.find? fun item => decide (item.variantId = call.id)) = some item →
    call.value ≤ item.orderedQuantity → Covers item call.value

def AllCovered (items : List OrderItem) : Prop :=
  ∀ item ∈ items, Covers item (item.returnQuantity.getD 0)

/-! ## Runs of calls -/

/-- Every item of the changed list was there, or is the first one of its variant, which
took the quantity. -/
theorem mem_changeReturnedItemQuantity {value : Int} {id : Option String}
    {items : List OrderItem} {item : OrderItem}
    (member : item ∈ changeReturnedItemQuantity value id items) :
    item ∈ items ∨ ∃ before,
      (items.find? fun item => decide (item.variantId = id)) = some before ∧
      value ≤ before.orderedQuantity ∧ item = { before with returnQuantity := some value } := by
  induction items with
  | nil => cases member
  | cons head rest ih =>
      rw [changeReturnedItemQuantity] at member
      split at member
      case isTrue here =>
          rcases List.mem_cons.mp member with rfl | later
          · split
            case isTrue enough =>
                exact Or.inr ⟨head, List.find?_cons_of_pos (decide_eq_true here), enough, rfl⟩
            case isFalse => exact Or.inl List.mem_cons_self
          · exact Or.inl (List.mem_cons_of_mem head later)
      case isFalse elsewhere =>
          rcases List.mem_cons.mp member with rfl | later
          · exact Or.inl List.mem_cons_self
          · rcases ih later with old | ⟨before, first, enough, changed⟩
            · exact Or.inl (List.mem_cons_of_mem head old)
            · refine Or.inr ⟨before, ?_, enough, changed⟩
              rw [List.find?_cons_of_neg (by simpa using elsewhere)]
              exact first

theorem setQuantity_allCovered {items target : List OrderItem} {call : QuantityCall}
    (all : AllCovered items) (stepped : setQuantity? items call = some target)
    (covered : CoveredCall items call target) : AllCovered target := by
  cases stepped
  intro item member
  rcases mem_changeReturnedItemQuantity member with old | ⟨before, first, enough, rfl⟩
  · exact all item old
  · exact covered before first enough

theorem withinPaid_of_allCovered {items : List OrderItem} (all : AllCovered items) :
    WithinPaid items := by
  refine ⟨List.sum_nonneg ?_, List.sum_le_sum fun item member => (all item member).2⟩
  intro amount listed
  obtain ⟨item, member, rfl⟩ := List.mem_map.mp listed
  exact (all item member).1

theorem initProducts_allCovered {lines : List OrderLine}
    (paid : ∀ item ∈ initProducts lines, 0 ≤ item.paid) : AllCovered (initProducts lines) := by
  intro item member
  have nothing : item.refundOf (item.returnQuantity.getD 0) = 0 := by
    obtain ⟨line, -, rfl⟩ := List.mem_map.mp member
    simp [OrderItem.refundOf, OrderItem.fromJson]
  rw [Covers, nothing]
  exact ⟨le_rfl, paid item member⟩

/-- As long as every quantity that is taken is covered, so is the total. -/
theorem withinPaid_of_coveredCalls {lines : List OrderLine} {calls : List QuantityCall}
    (paid : ∀ item ∈ initProducts lines, 0 ≤ item.paid)
    (covered : EveryStep setQuantity? CoveredCall (initProducts lines) calls) :
    Always setQuantity? WithinPaid (initProducts lines) calls := by
  have all : Always setQuantity? AllCovered (initProducts lines) calls :=
    always_of_everyStep (fun _ _ _ holds stepped guard =>
      setQuantity_allCovered holds stepped guard) (initProducts_allCovered paid) covered
  exact all.mono fun _ => withinPaid_of_allCovered

end Proximity.Apps.Commercant
