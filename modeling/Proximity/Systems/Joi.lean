import Mathlib.Algebra.Order.Ring.Rat
import Proximity.Systems.Json

/-!
# Joi schemas

A schema says whether it accepts a value, or the absence of one.  With its conversions
switched on it takes a string for the number, the Boolean or the object it can be read as;
how strings are read is a parameter.
-/

namespace Proximity.Systems

/-- How strings are converted. -/
structure Conversions where
  number : String → Option ℚ
  boolean : String → Option Bool
  object : String → Option (List (String × Json))

abbrev Schema := Option Json → Bool

/-- Numbers are accepted as far as a `double` counts in ones. -/
def safeNumber (value : ℚ) : Bool :=
  decide (-9007199254740991 ≤ value ∧ value ≤ 9007199254740991)

def Double.isSafe : Double → Bool
  | .finite value => safeNumber value
  | _ => false

theorem Double.isFinite_of_isSafe {number : Double} (safe : number.isSafe = true) :
    number.isFinite = true := by
  cases number with
  | finite value => rfl
  | infinite negative => cases safe
  | nan => cases safe

namespace Schema

variable (conversions : Conversions)

/-- Accepts the value besides what the schema accepts. -/
def allowNull (schema : Schema) : Schema
  | some .null => true
  | given => schema given

def allowEmpty (schema : Schema) : Schema
  | some (.string text) => decide (text = "") || schema (some (.string text))
  | given => schema given

def required (schema : Schema) : Schema
  | none => false
  | given => schema given

def number : Schema
  | none => true
  | some (.int value) => safeNumber value
  | some (.double value) => value.isSafe
  | some (.string text) => (conversions.number text).any safeNumber
  | some _ => false

def boolean : Schema
  | none => true
  | some (.bool _) => true
  | some (.string text) => (conversions.boolean text).isSome
  | some _ => false

/-- An empty string has to be allowed. -/
def string : Schema
  | none => true
  | some (.string text) => decide (text ≠ "")
  | some _ => false

/-- Every key is one of the fields, and every field accepts what it has. -/
def fields (schemas : List (String × Schema)) (members : List (String × Json)) : Bool :=
  members.all (fun member => (schemas.lookup member.1).isSome) &&
    schemas.all fun schema => schema.2 (members.lookup schema.1)

def object (schemas : List (String × Schema)) : Schema
  | none => true
  | some (.object members) => fields schemas members
  | some (.string text) => (conversions.object text).any (fields schemas)
  | some _ => false

/-! ## What the schemas accept of a built value -/

variable {conversions}

@[simp] theorem allowNull_null (schema : Schema) : schema.allowNull (some .null) = true := rfl

@[simp] theorem allowNull_object (schema : Schema) (members : List (String × Json)) :
    schema.allowNull (some (.object members)) = schema (some (.object members)) := rfl

@[simp] theorem allowNull_none (schema : Schema) : schema.allowNull none = schema none := rfl

@[simp] theorem object_none (schemas : List (String × Schema)) :
    object conversions schemas none = true := rfl

@[simp] theorem required_some (schema : Schema) (value : Json) :
    schema.required (some value) = schema (some value) := rfl

@[simp] theorem object_object (schemas : List (String × Schema))
    (members : List (String × Json)) :
    object conversions schemas (some (.object members)) = fields schemas members := rfl

@[simp] theorem number_ofInt (value : Option Int) :
    allowNull (number conversions) (some (.ofInt value)) = value.all fun value =>
      safeNumber value := by
  cases value with
  | none => rfl
  | some value => rfl

@[simp] theorem number_ofDouble (value : Option Double) :
    allowNull (number conversions) (some (.ofDouble value)) = value.all Double.isSafe := by
  cases value with
  | none => rfl
  | some value => rfl

@[simp] theorem boolean_ofBool (value : Option Bool) :
    allowNull (boolean conversions) (some (.ofBool value)) = true := by
  cases value with
  | none => rfl
  | some value => rfl

@[simp] theorem string_ofString (value : Option String) :
    allowNull (allowEmpty string) (some (.ofString value)) = true := by
  cases value with
  | none => rfl
  | some text =>
      change (decide (text = "") || decide (text ≠ "")) = true
      by_cases empty : text = ""
      · rw [decide_eq_true empty, Bool.true_or]
      · have given : decide (text ≠ "") = true := decide_eq_true empty
        rw [given, Bool.or_true]

/-- Whole numbers are not strings. -/
@[simp] theorem string_ofInt (value : Option Int) :
    allowNull string (some (.ofInt value)) = value.isNone := by
  cases value with
  | none => rfl
  | some value => rfl

end Schema

end Proximity.Systems
