import Mathlib.Data.Rat.Defs

/-!
# JSON values

Values as a program builds them before it encodes them and reads them after it has
decoded them.  Encoding fails on a floating-point number that is not finite; what is
encoded is decoded to the same value.
-/

namespace Proximity.Systems

/-- A floating-point number; a finite one is exact. -/
inductive Double where
  | finite (value : ℚ)
  | infinite (negative : Bool)
  | nan
  deriving DecidableEq, Repr

def Double.isFinite : Double → Bool
  | .finite _ => true
  | _ => false

/-- A division by a positive number. -/
def Double.divided (number : Double) (divisor : ℚ) : Double :=
  match number with
  | .finite value => .finite (value / divisor)
  | other => other

/-- Integers and floating-point numbers are told apart. -/
inductive Json where
  | null
  | bool (value : Bool)
  | int (value : Int)
  | double (value : Double)
  | string (value : String)
  | object (members : List (String × Json))

namespace Json

/-! ## Building -/

def ofBool : Option Bool → Json
  | none => null
  | some value => bool value

def ofInt : Option Int → Json
  | none => null
  | some value => int value

def ofDouble : Option Double → Json
  | none => null
  | some value => double value

def ofString : Option String → Json
  | none => null
  | some value => string value

/-- A part that is written as `null` when it is missing. -/
def ofPart {α : Type} (toJson : α → Json) : Option α → Json
  | none => null
  | some part => toJson part

/-- A part whose key is left out when it is missing. -/
def optional {α : Type} (key : String) (toJson : α → Json) : Option α → List (String × Json)
  | none => []
  | some part => [(key, toJson part)]

/-! ## Encoding -/

mutual

def encodable : Json → Bool
  | double value => value.isFinite
  | object members => encodableMembers members
  | _ => true

def encodableMembers : List (String × Json) → Bool
  | [] => true
  | (_, value) :: rest => value.encodable && encodableMembers rest

end

/-- What the encoded value is decoded to. -/
def decoded? (value : Json) : Option Json := if value.encodable = true then some value else none

theorem encodableMembers_append (first second : List (String × Json)) :
    encodableMembers (first ++ second) =
      (encodableMembers first && encodableMembers second) := by
  induction first with
  | nil => rfl
  | cons member rest ih =>
      rw [List.cons_append, encodableMembers, encodableMembers, ih, Bool.and_assoc]

/-! ## Reading -/

/-- The value of a key of an object, `null` if it is missing; nothing else has keys. -/
def member? (key : String) : Json → Option Json
  | object members => some ((members.lookup key).getD null)
  | _ => none

def asBool? : Json → Option (Option Bool)
  | null => some none
  | bool value => some (some value)
  | _ => none

def asInt? : Json → Option (Option Int)
  | null => some none
  | int value => some (some value)
  | _ => none

def asString? : Json → Option (Option String)
  | null => some none
  | string value => some (some value)
  | _ => none

/-- `toInt`, unless the value is `null`. -/
def toInt? : Json → Option (Option Int)
  | null => some none
  | int value => some (some value)
  | double (.finite value) => some (some (value.num.tdiv value.den))
  | _ => none

/-- `toDouble`, unless the value is `null`. -/
def toDouble? : Json → Option (Option Double)
  | null => some none
  | int value => some (some (.finite value))
  | double value => some (some value)
  | _ => none

/-- A part that is read unless it is `null`. -/
def toPart? {α : Type} (fromJson : Json → Option α) : Json → Option (Option α)
  | null => some none
  | value => (fromJson value).map some

/-- The value at the end of a path of keys. -/
def at? : List String → Json → Option Json
  | [], value => some value
  | key :: path, object members => (members.lookup key).bind (at? path)
  | _ :: _, _ => none

@[simp] theorem asBool?_ofBool (value : Option Bool) : (ofBool value).asBool? = some value := by
  cases value with
  | none => rfl
  | some value => rfl

@[simp] theorem asInt?_ofInt (value : Option Int) : (ofInt value).asInt? = some value := by
  cases value with
  | none => rfl
  | some value => rfl

@[simp] theorem toInt?_ofInt (value : Option Int) : (ofInt value).toInt? = some value := by
  cases value with
  | none => rfl
  | some value => rfl

@[simp] theorem toDouble?_ofDouble (value : Option Double) :
    (ofDouble value).toDouble? = some value := by
  cases value with
  | none => rfl
  | some value => rfl

@[simp] theorem asString?_ofString (value : Option String) :
    (ofString value).asString? = some value := by
  cases value with
  | none => rfl
  | some value => rfl

end Json

end Proximity.Systems
