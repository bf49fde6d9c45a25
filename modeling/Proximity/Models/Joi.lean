import Mathlib.Algebra.GroupWithZero.Nat
import Mathlib.Data.Rat.Defs

/-!
# What the joi schemas take

The middleware asks a schema for its error only, and passes the body on as it came.
-/

namespace Proximity.Models

/-- The length of a string in JavaScript, in UTF-16 code units. -/
def jsLength (text : String) : Nat :=
  (text.toList.map fun char => if char.toNat < 65536 then 1 else 2).sum

/-- The Booleans of joi are Booleans, or their names in any case. -/
inductive JoiBoolean where
  | boolean (value : Bool)
  | text (value : String)
  deriving DecidableEq, Repr

def JoiBoolean.accepted : JoiBoolean → Bool
  | .boolean _ => true
  | .text value => value.toLower = "true" || value.toLower = "false"

/-- The body is passed on as it came, so every name of a Boolean counts as true. -/
def JoiBoolean.truthy : JoiBoolean → Bool
  | .boolean value => value
  | .text value => value ≠ ""

/-- The numbers of joi are numbers, or texts that read as one; a text is given by the number
that it reads as. -/
inductive JoiNumber where
  | number (value : ℚ)
  | text (value : ℚ)
  deriving DecidableEq, Repr

/-- The number that mongoose casts the field to. -/
def JoiNumber.value : JoiNumber → ℚ
  | .number value => value
  | .text value => value

/-- A text that reads as a number is not empty, so also that of 0 counts as true. -/
def JoiNumber.truthy : JoiNumber → Bool
  | .number value => decide (value ≠ 0)
  | .text _ => true

@[simp] theorem JoiNumber.value_number (value : ℚ) : (JoiNumber.number value).value = value := rfl

@[simp] theorem JoiNumber.value_text (value : ℚ) : (JoiNumber.text value).value = value := rfl

/-- Only the number 0 itself does not count as true. -/
theorem JoiNumber.truthy_eq_false_iff {given : JoiNumber} :
    given.truthy = false ↔ given = .number 0 := by
  cases given with
  | number value => simp [truthy]
  | text value => simp [truthy]

end Proximity.Models
