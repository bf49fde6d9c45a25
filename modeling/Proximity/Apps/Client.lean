import Mathlib.Algebra.BigOperators.Group.List.Basic
import Proximity.Models.Catalogue
import Proximity.Systems.Decimal

/-!
# The client's app: displayed prices and the cart in its boxes

`double`s are exact numbers.
-/

namespace Proximity.Apps.Client

open Proximity.Systems Proximity.Models

/-- `double.parse(number.toStringAsFixed(2))`. -/
def toStringAsFixed2 (number : ℚ) : ℚ := roundTo 100 number

/-! ## Products -/

/-- The part of the app's `Product` that prices it. -/
structure Product where
  price : Option ℚ
  discount : ℚ
  discountEndDate : Option Time
  reservation : Option ℚ
  deriving DecidableEq, Repr

/-- `Product.fromJson`, which leaves `reservation` null. -/
def Product.fromJson (stored : Models.Product) : Product where
  price := some stored.price
  discount := stored.discount
  discountEndDate := some stored.discountExpiration
  reservation := none

/-- The number that `getPrice` rounds. -/
def Product.exactPrice (product : Product) : Option ℚ :=
  product.price.map fun price =>
    price * (1 - product.discount) *
      (if product.reservation ≠ some 0 then product.reservation.getD 1 else 1)

/-! ## The cart -/

/-- The part of the app's `CartItem` that its total reads, and what it is of. -/
structure CartItem where
  variantId : Option String
  storeId : Option ObjectId
  price : Option ℚ
  discount : ℚ
  discountEndDate : Option Time
  orderedQuantity : Int
  checked : Bool
  deriving DecidableEq, Repr

/-- `DateTime.now().isBefore(item.discountEndDate)`; the discount is never null. -/
def CartItem.discounted (item : CartItem) (now : Time) : Bool :=
  item.discountEndDate.any fun discountEndDate => decide (now < discountEndDate)

/-- What an item adds to the total; without a price it throws. -/
def CartItem.amount (item : CartItem) (now : Time) : Option ℚ :=
  item.price.map fun price =>
    if item.discounted now = true then price * (1 - item.discount) * item.orderedQuantity
    else price * item.orderedQuantity

def addAmount (now : Time) (storeId : ObjectId) (totalPrice : ℚ) (item : CartItem) : Option ℚ :=
  if item.storeId = some storeId ∧ item.checked = true then
    (item.amount now).map fun amount => totalPrice + amount
  else some totalPrice

/-- The sum that `getTotalPrice` rounds. -/
def totalPrice (cartItemsBox : List CartItem) (now : Time) (storeId : ObjectId) : Option ℚ :=
  cartItemsBox.foldlM (addAmount now storeId) 0

def getTotalPrice (cartItemsBox : List CartItem) (now : Time) (storeId : ObjectId) : Option ℚ :=
  (totalPrice cartItemsBox now storeId).map toStringAsFixed2

def CartItem.ofStore (storeId : ObjectId) (item : CartItem) : Bool :=
  decide (item.storeId = some storeId)

theorem foldlM_addAmount {now : Time} {storeId : ObjectId} {value : CartItem → ℚ}
    {cartItemsBox : List CartItem}
    (priced : ∀ item ∈ cartItemsBox.filter (CartItem.ofStore storeId),
      item.checked = true ∧ item.amount now = some (value item)) (start : ℚ) :
    cartItemsBox.foldlM (addAmount now storeId) start =
      some (start + ((cartItemsBox.filter (CartItem.ofStore storeId)).map value).sum) := by
  induction cartItemsBox generalizing start with
  | nil => simp
  | cons item rest ih =>
      cases here : item.ofStore storeId with
      | true =>
          rw [List.filter_cons_of_pos here, List.forall_mem_cons] at priced
          have added : addAmount now storeId start item = some (start + value item) := by
            rw [addAmount, if_pos ⟨of_decide_eq_true here, priced.1.1⟩, priced.1.2,
              Option.map_some]
          rw [List.foldlM_cons, added, Option.bind_eq_bind, Option.bind_some, ih priced.2,
            List.filter_cons_of_pos here, List.map_cons, List.sum_cons, add_assoc]
      | false =>
          have other : ¬ item.ofStore storeId = true := by
            rw [here]
            exact Bool.false_ne_true
          rw [List.filter_cons_of_neg other] at priced
          have skipped : addAmount now storeId start item = some start :=
            if_neg fun both => of_decide_eq_false here both.1
          rw [List.foldlM_cons, skipped, Option.bind_eq_bind, Option.bind_some, ih priced,
            List.filter_cons_of_neg other]

/-- The total of checked items is the sum of their amounts. -/
theorem totalPrice_eq {now : Time} {storeId : ObjectId} {value : CartItem → ℚ}
    {cartItemsBox : List CartItem}
    (priced : ∀ item ∈ cartItemsBox.filter (CartItem.ofStore storeId),
      item.checked = true ∧ item.amount now = some (value item)) :
    totalPrice cartItemsBox now storeId =
      some ((cartItemsBox.filter (CartItem.ofStore storeId)).map value).sum := by
  rw [totalPrice, foldlM_addAmount priced, zero_add]

end Proximity.Apps.Client
