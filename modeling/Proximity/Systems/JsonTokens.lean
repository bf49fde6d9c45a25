import Proximity.Systems.DecimalText

/-!
# The tokens of a JSON text

A text is read character by character.  A string is read as its UTF-16 code units, so that an
escape can stand for half a surrogate pair; a number with neither fraction nor exponent is an
integer, every other one the nearest double.
-/

namespace Proximity.Systems.JsonText

/-! ## Characters -/

def codeUnits (character : Char) : List ℕ :=
  if character.toNat < 0x10000 then [character.toNat]
  else [0xD800 + (character.toNat - 0x10000) / 0x400, 0xDC00 + (character.toNat - 0x10000) % 0x400]

def utf16 (text : List Char) : List ℕ := text.flatMap codeUnits

/-- A code unit that stands for itself in a string. -/
def PlainUnit (unit : ℕ) : Prop := unit ≠ 0x22 ∧ unit ≠ 0x5C ∧ 0x20 ≤ unit

instance (unit : ℕ) : Decidable (PlainUnit unit) := inferInstanceAs (Decidable (_ ∧ _ ∧ _))

/-- Neither a quotation mark nor a backslash nor a control character. -/
def PlainChar (character : Char) : Prop :=
  character ≠ '"' ∧ character ≠ '\\' ∧ 0x20 ≤ character.toNat

instance (character : Char) : Decidable (PlainChar character) :=
  inferInstanceAs (Decidable (_ ∧ _ ∧ _))

def Plain (text : List Char) : Prop := ∀ character ∈ text, PlainChar character

instance (text : List Char) : Decidable (Plain text) := List.decidableBAll _ _

def isSpace (character : Char) : Bool :=
  character = ' ' || character = '\t' || character = '\n' || character = '\r'

/-- A character of a number or of `true`, `false` and `null`. -/
def isScalarChar (character : Char) : Bool :=
  character.isAlphanum || character = '+' || character = '-' || character = '.'

/-! ## Tokens -/

inductive Scalar where
  | null
  | bool (value : Bool)
  | int (value : ℤ)
  | double (value : Double)
  deriving DecidableEq, Repr

inductive Token where
  | leftBrace
  | rightBrace
  | leftBracket
  | rightBracket
  | colon
  | comma
  | scalar (value : Scalar)
  | string (content : List ℕ)
  deriving DecidableEq, Repr

/-- An unsigned number. -/
def magnitude? (negative : Bool) (text : List Char) : Option Scalar :=
  (decimalLiteral? text).bind fun literal =>
    if literal.whole = [] ∨ ¬Leading literal.whole ∨ literal.fraction = some [] then none
    else if literal.fraction = none ∧ literal.exponent = none then
      let value := Nat.ofDigitChars 10 literal.whole 0
      -- `-0` is not an integer
      if negative = true ∧ value = 0 then some (.double (.finite 0))
      else some (.int (if negative = true then -value else value))
    else some (.double ((nearest literal.value).signed negative))

def scalar? (text : List Char) : Option Scalar :=
  if text = "null".toList then some .null
  else if text = "true".toList then some (.bool true)
  else if text = "false".toList then some (.bool false)
  else
    match text with
    | '-' :: rest => magnitude? true rest
    | rest => magnitude? false rest

def mark? : Char → Option Token
  | '{' => some .leftBrace
  | '}' => some .rightBrace
  | '[' => some .leftBracket
  | ']' => some .rightBracket
  | ':' => some .colon
  | ',' => some .comma
  | _ => none

def escaped? : Char → Option ℕ
  | '"' => some 0x22
  | '\\' => some 0x5C
  | '/' => some 0x2F
  | 'b' => some 0x08
  | 'f' => some 0x0C
  | 'n' => some 0x0A
  | 'r' => some 0x0D
  | 't' => some 0x09
  | _ => none

def hexDigit? (character : Char) : Option ℕ :=
  if character.isDigit = true then some (character.toNat - '0'.toNat)
  else if 'a' ≤ character ∧ character ≤ 'f' then some (character.toNat - 'a'.toNat + 10)
  else if 'A' ≤ character ∧ character ≤ 'F' then some (character.toNat - 'A'.toNat + 10)
  else none

/-- Where the reader stands. -/
inductive Mode where
  | between
  | scalar (text : List Char)
  | string (content : List ℕ)
  | escape (content : List ℕ)
  | unicode (content : List ℕ) (count unit : ℕ)
  deriving DecidableEq, Repr

/-- The first character of a token, or a space. -/
def enter (character : Char) : Option (List Token × Mode) :=
  if isSpace character = true then some ([], .between)
  else if character = '"' then some ([], .string [])
  else if isScalarChar character = true then some ([], .scalar [character])
  else (mark? character).map fun token => ([token], .between)

def read : Mode → Char → Option (List Token × Mode)
  | .between, character => enter character
  | .scalar text, character =>
      if isScalarChar character = true then some ([], .scalar (text ++ [character]))
      else
        (scalar? text).bind fun value =>
          (enter character).map fun entered => (.scalar value :: entered.1, entered.2)
  | .string content, character =>
      if character = '"' then some ([.string content], .between)
      else if character = '\\' then some ([], .escape content)
      else if character.toNat < 0x20 then none
      else some ([], .string (content ++ codeUnits character))
  | .escape content, character =>
      if character = 'u' then some ([], .unicode content 0 0)
      else (escaped? character).map fun unit => ([], .string (content ++ [unit]))
  | .unicode content count unit, character =>
      (hexDigit? character).map fun digit =>
        if count = 3 then ([], .string (content ++ [16 * unit + digit]))
        else ([], .unicode content (count + 1) (16 * unit + digit))

/-- The tokens of a part of a text, and where the reader then stands. -/
def lex : Mode → List Char → Option (List Token × Mode)
  | mode, [] => some ([], mode)
  | mode, character :: text =>
      (read mode character).bind fun first =>
        (lex first.2 text).map fun rest => (first.1 ++ rest.1, rest.2)

/-- The tokens of a whole text. -/
def tokens? (text : List Char) : Option (List Token) :=
  (lex .between text).bind fun whole =>
    match whole.2 with
    | .between => some whole.1
    | .scalar last => (scalar? last).map fun value => whole.1 ++ [.scalar value]
    | _ => none

/-! ## Reading a part of a text -/

@[simp] theorem lex_nil (mode : Mode) : lex mode [] = some ([], mode) := rfl

theorem lex_cons (mode : Mode) (character : Char) (text : List Char) :
    lex mode (character :: text) =
      (read mode character).bind fun first =>
        (lex first.2 text).map fun rest => (first.1 ++ rest.1, rest.2) := rfl

theorem lex_append (mode : Mode) (first second : List Char) :
    lex mode (first ++ second) =
      (lex mode first).bind fun start =>
        (lex start.2 second).map fun rest => (start.1 ++ rest.1, rest.2) := by
  induction first generalizing mode with
  | nil => simp
  | cons character text ih =>
      rw [List.cons_append, lex_cons, lex_cons]
      cases read mode character with
      | none => rfl
      | some entered =>
          rw [Option.bind_some, Option.bind_some, ih]
          cases lex entered.2 text with
          | none => rfl
          | some start => simp [Function.comp_def]

theorem lex_append_eq_some {mode mode' : Mode} {first second : List Char} {tokens : List Token}
    (lexed : lex mode (first ++ second) = some (tokens, mode')) :
    ∃ start middle rest, lex mode first = some (start, middle) ∧
      lex middle second = some (rest, mode') ∧ tokens = start ++ rest := by
  rw [lex_append] at lexed
  obtain ⟨⟨start, middle⟩, began, later⟩ := Option.bind_eq_some_iff.mp lexed
  obtain ⟨⟨rest, last⟩, ended, joined⟩ := Option.map_eq_some_iff.mp later
  cases joined
  exact ⟨start, middle, rest, began, ended, rfl⟩

theorem lex_append_of_eq_some {mode middle mode' : Mode} {first second : List Char}
    {start rest : List Token} (began : lex mode first = some (start, middle))
    (ended : lex middle second = some (rest, mode')) :
    lex mode (first ++ second) = some (start ++ rest, mode') := by
  rw [lex_append, began, Option.bind_some, ended, Option.map_some]

/-! ## Plain text -/

theorem plainUnit_codeUnits_iff {character : Char} :
    (∀ unit ∈ codeUnits character, PlainUnit unit) ↔ PlainChar character := by
  have quote : character ≠ '"' ↔ character.toNat ≠ 0x22 := Char.toNat_inj.not.symm
  have backslash : character ≠ '\\' ↔ character.toNat ≠ 0x5C := Char.toNat_inj.not.symm
  unfold PlainChar PlainUnit codeUnits
  rw [quote, backslash]
  split
  case isTrue => exact List.forall_mem_singleton
  case isFalse wide =>
    rw [List.forall_mem_cons, List.forall_mem_singleton]
    omega

theorem plainUnit_utf16_iff {text : List Char} :
    (∀ unit ∈ utf16 text, PlainUnit unit) ↔ Plain text := by
  unfold utf16 Plain
  rw [List.forall_mem_flatMap]
  exact forall₂_congr fun _ _ => plainUnit_codeUnits_iff

theorem codeUnits_ne_nil (character : Char) : codeUnits character ≠ [] := by
  unfold codeUnits
  split
  case isTrue => exact List.cons_ne_nil _ _
  case isFalse => exact List.cons_ne_nil _ _

/-- No character is half a surrogate pair. -/
theorem toNat_valid (character : Char) : character.toNat < 0xD800 ∨
    0xDFFF < character.toNat ∧ character.toNat < 0x110000 := character.valid

theorem codeUnits_append_inj {first second : Char} {rest rest' : List ℕ}
    (same : codeUnits first ++ rest = codeUnits second ++ rest') :
    first = second ∧ rest = rest' := by
  have valid := toNat_valid first
  have valid' := toNat_valid second
  rw [← Char.toNat_inj]
  by_cases small : first.toNat < 0x10000
  all_goals by_cases small' : second.toNat < 0x10000
  all_goals simp only [codeUnits, if_pos, if_neg, small, small', not_false_eq_true,
    List.cons_append, List.nil_append, List.cons.injEq] at same
  · exact same
  · omega
  · omega
  · exact ⟨by omega, same.2.2⟩

theorem utf16_injective : Function.Injective utf16 := by
  intro first
  induction first with
  | nil =>
      intro second same
      cases second with
      | nil => rfl
      | cons character rest =>
          exact absurd (List.append_eq_nil_iff.mp same.symm).1 (codeUnits_ne_nil character)
  | cons character rest ih =>
      intro second same
      cases second with
      | nil => exact absurd (List.append_eq_nil_iff.mp same).1 (codeUnits_ne_nil character)
      | cons other rest' =>
          obtain ⟨rfl, later⟩ := codeUnits_append_inj same
          rw [ih later]

/-- Plain text is read as it stands. -/
theorem lex_plain {text : List Char} (plain : Plain text) (content : List ℕ) :
    lex (.string content) text = some ([], .string (content ++ utf16 text)) := by
  induction text generalizing content with
  | nil => simp [utf16]
  | cons character text ih =>
      obtain ⟨first, rest⟩ := List.forall_mem_cons.mp plain
      have entered : read (.string content) character =
          some ([], .string (content ++ codeUnits character)) := by
        rw [read, if_neg first.1, if_neg first.2.1, if_neg (Nat.not_lt.mpr first.2.2)]
      rw [lex_cons, entered, Option.bind_some, ih rest, Option.map_some, List.append_assoc]
      rfl

/-! ## Strings with escapes -/

/-- A string is plain, or some of its units took more than one to write. -/
def Written (units : ℕ) (content : List ℕ) : Prop :=
  (∀ unit ∈ content, PlainUnit unit) ∨ content.length < units

/-- What is being read fits into the units read so far, with a unit to spare once it has not
been plain. -/
def Mode.Within (units : ℕ) : Mode → Prop
  | .between => True
  | .scalar _ => True
  | .string content => Written units content ∧ content.length ≤ units
  | .escape content => content.length < units
  | .unicode content _ _ => content.length < units

theorem mark?_ne_string {character : Char} {token : Token} (marked : mark? character = some token)
    (content : List ℕ) : token ≠ .string content := by
  unfold mark? at marked
  split at marked
  all_goals
    cases marked
    try exact Token.noConfusion

theorem enter_eq_some {character : Char} {tokens : List Token} {mode : Mode}
    (entered : enter character = some (tokens, mode)) :
    (∀ units, mode.Within units) ∧ ∀ content, Token.string content ∉ tokens := by
  unfold enter at entered
  split at entered
  case isTrue =>
    cases entered
    exact ⟨fun _ => trivial, fun _ => List.not_mem_nil⟩
  case isFalse =>
    split at entered
    case isTrue =>
      cases entered
      exact ⟨fun _ => ⟨Or.inl (List.forall_mem_nil _), Nat.zero_le _⟩, fun _ => List.not_mem_nil⟩
    case isFalse =>
      split at entered
      case isTrue =>
        cases entered
        exact ⟨fun _ => trivial, fun _ => List.not_mem_nil⟩
      case isFalse =>
        obtain ⟨token, marked, made⟩ := Option.map_eq_some_iff.mp entered
        cases made
        refine ⟨fun _ => trivial, fun content member => ?_⟩
        exact mark?_ne_string marked content (List.mem_singleton.mp member).symm

theorem Written.mono {units units' : ℕ} {content : List ℕ} (le : units ≤ units')
    (written : Written units content) : Written units' content :=
  written.imp_right fun shorter => shorter.trans_le le

/-- A character more. -/
theorem read_within {units : ℕ} {mode mode' : Mode} {character : Char} {tokens : List Token}
    (within : mode.Within units) (entered : read mode character = some (tokens, mode')) :
    mode'.Within (units + (codeUnits character).length) ∧
      ∀ content, Token.string content ∈ tokens →
        Written (units + (codeUnits character).length) content := by
  have one : 0 < (codeUnits character).length :=
    List.length_pos_iff.mpr (codeUnits_ne_nil character)
  cases mode with
  | between =>
      obtain ⟨fits, strings⟩ := enter_eq_some entered
      exact ⟨fits _, fun content member => absurd member (strings content)⟩
  | scalar text =>
      rw [read] at entered
      split at entered
      case isTrue =>
        cases entered
        exact ⟨trivial, fun _ => nofun⟩
      case isFalse =>
        obtain ⟨value, _, later⟩ := Option.bind_eq_some_iff.mp entered
        obtain ⟨⟨marks, next⟩, begun, made⟩ := Option.map_eq_some_iff.mp later
        cases made
        obtain ⟨fits, strings⟩ := enter_eq_some begun
        refine ⟨fits _, fun content member => ?_⟩
        rcases List.mem_cons.mp member with same | there
        · exact Token.noConfusion same
        · exact absurd there (strings content)
  | string content =>
      obtain ⟨written, length⟩ := within
      rw [read] at entered
      split at entered
      case isTrue =>
        cases entered
        refine ⟨trivial, fun other member => ?_⟩
        cases List.mem_singleton.mp member
        exact written.mono (Nat.le_add_right _ _)
      case isFalse quote =>
        split at entered
        case isTrue =>
          cases entered
          refine ⟨?_, fun _ => nofun⟩
          change content.length < units + (codeUnits character).length
          omega
        case isFalse backslash =>
          split at entered
          case isTrue => cases entered
          case isFalse control =>
            cases entered
            have plain := plainUnit_codeUnits_iff.mpr ⟨quote, backslash, Nat.not_lt.mp control⟩
            refine ⟨⟨?_, ?_⟩, fun _ => nofun⟩
            · rcases written with all | shorter
              · exact Or.inl (List.forall_mem_append.mpr ⟨all, plain⟩)
              · refine Or.inr ?_
                rw [List.length_append]
                omega
            · rw [List.length_append]
              omega
  | escape content =>
      change content.length < units at within
      rw [read] at entered
      split at entered
      case isTrue =>
        cases entered
        refine ⟨?_, fun _ => nofun⟩
        change content.length < units + (codeUnits character).length
        omega
      case isFalse =>
        obtain ⟨unit, _, made⟩ := Option.map_eq_some_iff.mp entered
        cases made
        have longer : (content ++ [unit]).length < units + (codeUnits character).length := by
          rw [List.length_append, List.length_singleton]
          omega
        exact ⟨⟨Or.inr longer, longer.le⟩, fun _ => nofun⟩
  | unicode content count unit =>
      change content.length < units at within
      rw [read] at entered
      obtain ⟨digit, _, made⟩ := Option.map_eq_some_iff.mp entered
      split at made
      case isTrue =>
        cases made
        have longer : (content ++ [16 * unit + digit]).length <
            units + (codeUnits character).length := by
          rw [List.length_append, List.length_singleton]
          omega
        exact ⟨⟨Or.inr longer, longer.le⟩, fun _ => nofun⟩
      case isFalse =>
        cases made
        refine ⟨?_, fun _ => nofun⟩
        change content.length < units + (codeUnits character).length
        omega

/-- Every string read from a text is plain or has fewer units than the text. -/
theorem lex_within {units : ℕ} {mode mode' : Mode} {text : List Char} {tokens : List Token}
    (within : mode.Within units) (lexed : lex mode text = some (tokens, mode')) :
    mode'.Within (units + (utf16 text).length) ∧
      ∀ content, Token.string content ∈ tokens → Written (units + (utf16 text).length) content := by
  induction text generalizing units mode tokens with
  | nil =>
      cases lexed
      exact ⟨within, fun _ => nofun⟩
  | cons character text ih =>
      rw [lex_cons] at lexed
      obtain ⟨⟨start, middle⟩, entered, later⟩ := Option.bind_eq_some_iff.mp lexed
      obtain ⟨⟨rest, last⟩, ended, joined⟩ := Option.map_eq_some_iff.mp later
      cases joined
      obtain ⟨fits, first⟩ := read_within within entered
      obtain ⟨fits', others⟩ := ih fits ended
      have length : (utf16 (character :: text)).length =
          (codeUnits character).length + (utf16 text).length := by
        rw [utf16, List.flatMap_cons, List.length_append]
        rfl
      rw [length, ← Nat.add_assoc]
      refine ⟨fits', fun content member => ?_⟩
      rcases List.mem_append.mp member with there | there
      · exact (first content there).mono (Nat.le_add_right _ _)
      · exact others content there

end Proximity.Systems.JsonText
