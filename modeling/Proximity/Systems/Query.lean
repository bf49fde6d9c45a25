import Mathlib.Init

/-!
# Queries on stored fields

A stored document has a field with a value, has it as `null`, or lacks it.  A query
is a list of conditions on fields, all of which a document has to meet.
-/

namespace Proximity.Systems

universe u v

inductive StoredField (α : Type u) where
  | missing
  | null
  | value (value : α)
  deriving DecidableEq, Repr

/-- A field whose default is `null`. -/
def StoredField.ofOption {α : Type u} : Option α → StoredField α
  | none => .null
  | some given => .value given

/-- The conditions `{f: value}`, `{f: {$exists: true}}` and `{f: {$ne: value}}`. -/
inductive Condition (α : Type u) where
  | equals (value : α)
  | present
  | isNot (value : α)
  deriving DecidableEq, Repr

section Conditions

variable {α : Type u} [DecidableEq α]

def Condition.holds (condition : Condition α) (field : StoredField α) : Bool :=
  match condition with
  | .equals value => decide (field = .value value)
  | .present => decide (field ≠ .missing)
  | .isNot value => decide (field ≠ .value value)

@[simp] theorem equals_holds_ofOption (value : α) (stored : Option α) :
    (Condition.equals value).holds (StoredField.ofOption stored) =
      decide (stored = some value) := by
  cases stored <;> simp [Condition.holds, StoredField.ofOption]

@[simp] theorem isNot_holds_ofOption (value : α) (stored : Option α) :
    (Condition.isNot value).holds (StoredField.ofOption stored) = decide (stored ≠ some value) := by
  cases stored <;> simp [Condition.holds, StoredField.ofOption]

variable {Path : Type v}

/-- Every condition holds on the field at its path. -/
def matchesAll (conditions : List (Path × Condition α)) (read : Path → StoredField α) : Bool :=
  conditions.all fun condition => condition.2.holds (read condition.1)

/-- A document without the field meets neither an equality nor `$exists` on it. -/
theorem matchesAll_eq_false_of_missing {conditions : List (Path × Condition α)}
    {read : Path → StoredField α} {path : Path} {condition : Condition α}
    (asked : (path, condition) ∈ conditions) (missing : read path = .missing)
    (needed : ∀ value, condition ≠ .isNot value) : matchesAll conditions read = false := by
  rw [matchesAll, List.all_eq_false]
  refine ⟨(path, condition), asked, ?_⟩
  cases condition with
  | equals value => simp [Condition.holds, missing]
  | present => simp [Condition.holds, missing]
  | isNot value => exact absurd rfl (needed value)

end Conditions

end Proximity.Systems
