import Mathlib.Data.List.Nodup
import Proximity.Systems.JsonNumbers

/-!
# Encoding as a JSON text

A value is written without spaces, and in its strings the quotation mark, the backslash and
the control characters are escaped.  The text is read back as the value, if every number is
printed as it is read and no object has a key twice.
-/

namespace Proximity.Systems.JsonText

/-! ## Strings -/

def hexDigit (digit : ℕ) : Char :=
  if digit < 10 then Char.ofNat (48 + digit) else Char.ofNat (87 + digit)

/-- A control character as it is written in a string. -/
def escapeControl : ℕ → List Char
  | 0x08 => ['\\', 'b']
  | 0x09 => ['\\', 't']
  | 0x0A => ['\\', 'n']
  | 0x0C => ['\\', 'f']
  | 0x0D => ['\\', 'r']
  | unit => ['\\', 'u', '0', '0', hexDigit (unit / 16), hexDigit (unit % 16)]

/-- A character as it is written in a string. -/
def escape (character : Char) : List Char :=
  if character = '"' then ['\\', '"']
  else if character = '\\' then ['\\', '\\']
  else if character.toNat < 0x20 then escapeControl character.toNat
  else [character]

def quoted (text : List Char) : List Char := '"' :: (text.flatMap escape ++ ['"'])

theorem codeUnits_of_lt {character : Char} (small : character.toNat < 0x10000) :
    codeUnits character = [character.toNat] := if_pos small

theorem hexDigit?_hexDigit {digit : ℕ} (small : digit < 16) :
    hexDigit? (hexDigit digit) = some digit := by
  have all : ∀ digit < 16, hexDigit? (hexDigit digit) = some digit := by decide
  exact all digit small

theorem lex_escapeControl {unit : ℕ} (small : unit < 0x20) (content : List ℕ) :
    lex (.string content) (escapeControl unit) = some ([], .string (content ++ [unit])) := by
  unfold escapeControl
  split
  case h_6 =>
    have zero : hexDigit? '0' = some 0 := by decide
    have high : hexDigit? (hexDigit (unit / 16)) = some (unit / 16) :=
      hexDigit?_hexDigit (by omega)
    have low : hexDigit? (hexDigit (unit % 16)) = some (unit % 16) :=
      hexDigit?_hexDigit (by omega)
    simp [lex_cons, read, zero, high, low]
    omega
  all_goals rfl

/-- A character is read as its code units. -/
theorem lex_escape (character : Char) (content : List ℕ) :
    lex (.string content) (escape character) =
      some ([], .string (content ++ codeUnits character)) := by
  unfold escape
  split
  case isTrue quote =>
    subst quote
    rfl
  case isFalse quote =>
    split
    case isTrue backslash =>
      subst backslash
      rfl
    case isFalse backslash =>
      split
      case isTrue control =>
        rw [codeUnits_of_lt (control.trans (by decide))]
        exact lex_escapeControl control content
      case isFalse printed =>
        have plain : Plain [character] :=
          List.forall_mem_singleton.mpr ⟨quote, backslash, Nat.not_lt.mp printed⟩
        rw [lex_plain plain, utf16, List.flatMap_singleton]

theorem lex_escapes (text : List Char) (content : List ℕ) :
    lex (.string content) (text.flatMap escape) =
      some ([], .string (content ++ utf16 text)) := by
  induction text generalizing content with
  | nil => rw [List.flatMap_nil, lex_nil, utf16, List.flatMap_nil, List.append_nil]
  | cons character text ih =>
      rw [List.flatMap_cons, utf16, List.flatMap_cons, ← List.append_assoc]
      exact lex_append_of_eq_some (lex_escape character content) (ih _)

theorem lex_quoted (text : List Char) :
    lex .between (quoted text) = some ([.string (utf16 text)], .between) := by
  have opened : lex .between ['"'] = some ([], .string []) := rfl
  have closed : lex (.string (utf16 text)) ['"'] = some ([.string (utf16 text)], .between) := rfl
  exact lex_append_of_eq_some opened (lex_append_of_eq_some (lex_escapes text []) closed)

/-- The text of code units, if they are one. -/
def ofUtf16? : List ℕ → Option (List Char)
  | [] => some []
  | unit :: rest =>
      if unit < 0xD800 ∨ 0xDFFF < unit ∧ unit < 0x10000 then
        (ofUtf16? rest).map (Char.ofNat unit :: ·)
      else
        match rest with
        | low :: rest =>
            if unit < 0xDC00 ∧ 0xDC00 ≤ low ∧ low < 0xE000 then
              (ofUtf16? rest).map
                (Char.ofNat (0x10000 + 0x400 * (unit - 0xD800) + (low - 0xDC00)) :: ·)
            else none
        | [] => none

theorem ofUtf16?_codeUnits (character : Char) (rest : List ℕ) :
    ofUtf16? (codeUnits character ++ rest) = (ofUtf16? rest).map (character :: ·) := by
  have valid := toNat_valid character
  unfold codeUnits
  split
  case isTrue small =>
    have single : character.toNat < 0xD800 ∨ 0xDFFF < character.toNat ∧ character.toNat < 0x10000 :=
      by omega
    rw [List.singleton_append, ofUtf16?.eq_def]
    dsimp only
    rw [if_pos single, Char.ofNat_toNat]
  case isFalse wide =>
    have half : ¬(0xD800 + (character.toNat - 0x10000) / 0x400 < 0xD800 ∨
        0xDFFF < 0xD800 + (character.toNat - 0x10000) / 0x400 ∧
          0xD800 + (character.toNat - 0x10000) / 0x400 < 0x10000) := by omega
    have pair : 0xD800 + (character.toNat - 0x10000) / 0x400 < 0xDC00 ∧
        0xDC00 ≤ 0xDC00 + (character.toNat - 0x10000) % 0x400 ∧
          0xDC00 + (character.toNat - 0x10000) % 0x400 < 0xE000 := by omega
    have joined : 0x10000 + 0x400 * (0xD800 + (character.toNat - 0x10000) / 0x400 - 0xD800) +
        (0xDC00 + (character.toNat - 0x10000) % 0x400 - 0xDC00) = character.toNat := by omega
    rw [List.cons_append, List.singleton_append, ofUtf16?, if_neg half, if_pos pair, joined,
      Char.ofNat_toNat]

theorem ofUtf16?_utf16 (text : List Char) : ofUtf16? (utf16 text) = some text := by
  induction text with
  | nil => rfl
  | cons character text ih =>
      rw [utf16, List.flatMap_cons, ofUtf16?_codeUnits]
      exact congrArg (Option.map (character :: ·)) ih

/-- The text of a string that is Unicode text. -/
def Value.text? : Value → Option String
  | .string content => (ofUtf16? content).map String.ofList
  | _ => none

/-- The value of a key of an object, `null` if it is missing; nothing else has keys. -/
def Value.member? (key : String) : Value → Option Value
  | .object members => some ((members.lookup (utf16 key.toList)).getD (.scalar .null))
  | _ => none

@[simp] theorem text?_string (content : String) :
    (Value.string (utf16 content.toList)).text? = some content := by
  rw [Value.text?, ofUtf16?_utf16, Option.map_some, String.ofList_toList]

theorem utf16_toList_injective : Function.Injective fun key : String => utf16 key.toList :=
  fun _ _ same => String.toList_injective (utf16_injective same)

/-! ## Values -/

def Scalar.text : Scalar → List Char
  | .null => "null".toList
  | .bool true => "true".toList
  | .bool false => "false".toList
  | .int value => (toString value).toList
  | .double value => value.text

/-- A value that is encoded. -/
inductive Datum where
  | scalar (value : Scalar)
  | string (content : String)
  | array (items : List Datum)
  | object (members : List (String × Datum))

namespace Datum

mutual

def text : Datum → List Char
  | .scalar value => value.text
  | .string content => quoted content.toList
  | .array items => '[' :: ([','].intercalate (itemTexts items) ++ [']'])
  | .object members => '{' :: ([','].intercalate (memberTexts members) ++ ['}'])

def itemTexts : List Datum → List (List Char)
  | [] => []
  | item :: rest => item.text :: itemTexts rest

def memberTexts : List (String × Datum) → List (List Char)
  | [] => []
  | (key, value) :: rest => (quoted key.toList ++ ':' :: value.text) :: memberTexts rest

end

def encode (datum : Datum) : String := String.ofList datum.text

mutual

def tokens : Datum → List Token
  | .scalar value => [.scalar value]
  | .string content => [.string (utf16 content.toList)]
  | .array items =>
      .leftBracket :: ([Token.comma].intercalate (itemTokens items) ++ [.rightBracket])
  | .object members =>
      .leftBrace :: ([Token.comma].intercalate (memberTokens members) ++ [.rightBrace])

def itemTokens : List Datum → List (List Token)
  | [] => []
  | item :: rest => item.tokens :: itemTokens rest

def memberTokens : List (String × Datum) → List (List Token)
  | [] => []
  | (key, value) :: rest =>
      (.string (utf16 key.toList) :: .colon :: value.tokens) :: memberTokens rest

end

mutual

/-- What the text is read as. -/
def value : Datum → Value
  | .scalar value => .scalar value
  | .string content => .string (utf16 content.toList)
  | .array items => .array (itemValues items)
  | .object members => .object (memberValues members)

def itemValues : List Datum → List Value
  | [] => []
  | item :: rest => item.value :: itemValues rest

def memberValues : List (String × Datum) → List (List ℕ × Value)
  | [] => []
  | (key, value) :: rest => (utf16 key.toList, value.value) :: memberValues rest

end

/-- Numbers are printed as they are read, and no object has a key twice. -/
inductive Readable : Datum → Prop where
  | scalar {value : Scalar} (read : scalar? value.text = some value) : Readable (.scalar value)
  | string (content : String) : Readable (.string content)
  | array {items : List Datum} (each : ∀ item ∈ items, Readable item) : Readable (.array items)
  | object {members : List (String × Datum)} (distinct : (members.map Prod.fst).Nodup)
      (each : ∀ member ∈ members, Readable member.2) : Readable (.object members)

/-! ## Parts -/

theorem itemTexts_eq_map (items : List Datum) : itemTexts items = items.map text := by
  induction items with
  | nil => rfl
  | cons item rest ih => rw [itemTexts, ih, List.map_cons]

theorem itemTokens_eq_map (items : List Datum) : itemTokens items = items.map tokens := by
  induction items with
  | nil => rfl
  | cons item rest ih => rw [itemTokens, ih, List.map_cons]

theorem itemValues_eq_map (items : List Datum) : itemValues items = items.map value := by
  induction items with
  | nil => rfl
  | cons item rest ih => rw [itemValues, ih, List.map_cons]

/-- A member as it is written. -/
def memberText (member : String × Datum) : List Char :=
  quoted member.1.toList ++ ':' :: member.2.text

def member (member : String × Datum) : Member where
  key := utf16 member.1.toList
  tokens := member.2.tokens
  value := member.2.value

theorem memberTexts_eq_map (members : List (String × Datum)) :
    memberTexts members = members.map memberText := by
  induction members with
  | nil => rfl
  | cons first rest ih => rw [memberTexts, ih, List.map_cons, memberText]

theorem memberTokens_eq_map (members : List (String × Datum)) :
    memberTokens members = (members.map member).map Member.written := by
  induction members with
  | nil => rfl
  | cons first rest ih =>
      rw [memberTokens, ih, List.map_cons, List.map_cons]
      rfl

theorem memberValues_eq_map (members : List (String × Datum)) :
    memberValues members = (members.map member).map Member.pair := by
  induction members with
  | nil => rfl
  | cons first rest ih =>
      rw [memberValues, ih, List.map_cons, List.map_cons]
      rfl

@[simp] theorem text?_value (content : String) : (string content).value.text? = some content :=
  text?_string content

@[simp] theorem member?_value (members : List (String × Datum)) (key : String) :
    (object members).value.member? key =
      some (((members.lookup key).map value).getD (.scalar .null)) := by
  rw [value, Value.member?]
  congr 2
  induction members with
  | nil => rfl
  | cons first rest ih =>
      rw [memberValues, List.lookup_cons, List.lookup_cons]
      by_cases same : key = first.1
      · subst same
        simp
      · have apart : utf16 key.toList ≠ utf16 first.1.toList := fun there =>
          same (utf16_toList_injective there)
        rw [beq_false_of_ne same, beq_false_of_ne apart]
        exact ih

/-! ## Reading -/

/-- The text is read as the tokens once the next mark is there. -/
def Ends (text : List Char) (tokens : List Token) : Prop :=
  ∀ next mark, isScalarChar next = false → enter next = some ([mark], .between) →
    lex .between (text ++ [next]) = some (tokens ++ [mark], .between)

theorem lex_mark {next : Char} {mark : Token} (entered : enter next = some ([mark], .between)) :
    lex .between [next] = some ([mark], .between) := by
  rw [lex_cons, read, entered]
  rfl

theorem ends_of_lex {text : List Char} {tokens : List Token}
    (lexed : lex .between text = some (tokens, .between)) : Ends text tokens :=
  fun _ _ _ entered => lex_append_of_eq_some lexed (lex_mark entered)

theorem numberChars_scalar (value : Scalar) : NumberChars value.text := by
  cases value with
  | null => decide
  | bool value => cases value <;> decide
  | int value => exact numberChars_toString value
  | double value => exact numberChars_text value

theorem ends_scalar {value : Scalar} (isRead : scalar? value.text = some value) :
    Ends value.text [.scalar value] := by
  intro next mark stops entered
  rw [lex_append, lex_scalar (ne_nil_of_scalar? isRead) (numberChars_scalar value),
    Option.bind_some, lex_scalar_cons stops, isRead, Option.bind_some, lex_mark entered]
  rfl

section Separated

variable {α : Type} {items : List α} {text : α → List Char} {tokens : α → List Token}

/-- What stands between brackets, with the closing one. -/
theorem lex_separated (each : ∀ item ∈ items, Ends (text item) (tokens item)) {close : Char}
    {mark : Token} (stops : isScalarChar close = false)
    (entered : enter close = some ([mark], .between)) :
    lex .between ([','].intercalate (items.map text) ++ [close]) =
      some ([Token.comma].intercalate (items.map tokens) ++ [mark], .between) := by
  induction items with
  | nil => exact lex_mark entered
  | cons item rest ih =>
      obtain ⟨first, others⟩ := List.forall_mem_cons.mp each
      cases rest with
      | nil =>
          rw [List.map_singleton, List.map_singleton, List.intercalate_singleton,
            List.intercalate_singleton]
          exact first close mark stops entered
      | cons second rest =>
          have comma := first ',' .comma rfl rfl
          have both := lex_append_of_eq_some comma (ih others)
          simpa only [List.map_cons, List.intercalate_cons_cons, List.append_assoc] using both

end Separated

theorem ends_member {member : String × Datum}
    (ends : Ends member.2.text member.2.tokens) :
    Ends (memberText member) (Datum.member member).written := by
  intro next mark stops entered
  have colon : lex .between [':'] = some ([.colon], .between) := rfl
  have after := lex_append_of_eq_some colon (ends next mark stops entered)
  have both := lex_append_of_eq_some (lex_quoted member.1.toList) after
  rw [memberText, List.append_assoc, List.cons_append]
  exact both

theorem lex_array {items : List Datum} (each : ∀ item ∈ items, Ends item.text item.tokens) :
    lex .between (array items).text = some ((array items).tokens, .between) := by
  have opened : lex .between ['['] = some ([.leftBracket], .between) := rfl
  rw [text, tokens, itemTexts_eq_map, itemTokens_eq_map]
  exact lex_append_of_eq_some opened (lex_separated each rfl rfl)

theorem lex_object {members : List (String × Datum)}
    (each : ∀ member ∈ members, Ends member.2.text member.2.tokens) :
    lex .between (object members).text = some ((object members).tokens, .between) := by
  have opened : lex .between ['{'] = some ([.leftBrace], .between) := rfl
  have ends := fun member there => ends_member (each member there)
  rw [text, tokens, memberTexts_eq_map, memberTokens_eq_map, List.map_map]
  exact lex_append_of_eq_some opened (lex_separated ends rfl rfl)

theorem Readable.ends {datum : Datum} (readable : datum.Readable) :
    Ends datum.text datum.tokens := by
  induction readable with
  | scalar isRead => exact ends_scalar isRead
  | string content => exact ends_of_lex (lex_quoted content.toList)
  | array _ ih => exact ends_of_lex (lex_array ih)
  | object _ _ ih => exact ends_of_lex (lex_object ih)

theorem tokens?_of_lex {text : List Char} {tokens : List Token}
    (lexed : lex .between text = some (tokens, .between)) : tokens? text = some tokens := by
  rw [tokens?, lexed]
  rfl

theorem Readable.tokens?_text {datum : Datum} (readable : datum.Readable) :
    tokens? datum.text = some datum.tokens := by
  cases readable with
  | scalar isRead =>
      rw [text, tokens?, lex_scalar (ne_nil_of_scalar? isRead) (numberChars_scalar _),
        Option.bind_some]
      exact congrArg (Option.map _) isRead
  | string content => exact tokens?_of_lex (lex_quoted content.toList)
  | array each => exact tokens?_of_lex (lex_array fun item there => (each item there).ends)
  | object _ each => exact tokens?_of_lex (lex_object fun member there => (each member there).ends)

theorem Readable.denotes {datum : Datum} (readable : datum.Readable) :
    Denotes datum.tokens datum.value := by
  induction readable with
  | scalar isRead => exact denotes_scalar _
  | string content => exact denotes_string _
  | array _ ih =>
      rw [tokens, value, itemTokens_eq_map, itemValues_eq_map]
      exact denotes_array ih
  | object distinct _ ih =>
      rw [tokens, value, memberTokens_eq_map, memberValues_eq_map]
      refine denotes_object (List.forall_mem_map.mpr ih) ?_
      have keys := distinct.map utf16_toList_injective
      rw [List.map_map] at keys ⊢
      exact keys

/-- What is encoded is read back. -/
theorem Readable.parse?_encode {datum : Datum} (readable : datum.Readable) :
    parse? datum.encode = some datum.value :=
  parse?_of_denotes ((congrArg tokens? String.toList_ofList).trans readable.tokens?_text)
    readable.denotes

end Datum

end Proximity.Systems.JsonText
