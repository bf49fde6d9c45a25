import Proximity.Apps.HandBuilt

/-!
# The merchant's app: what the text of a product without variants tells

The quantity is inserted as it was typed.
-/

namespace Proximity.Apps.Commercant.ProductForm

open Proximity.Systems Proximity.Systems.JsonText

/-! ## A quantity as it is typed -/

theorem trim_spec (text : List Char) :
    ∃ before after, text = before ++ (trim text ++ after) ∧
      ∀ character ∈ before ++ after, isWhiteSpace character = true := by
  obtain ⟨rest, isRest⟩ : ∃ rest, text.dropWhile isWhiteSpace = rest := ⟨_, rfl⟩
  have front : text = text.takeWhile isWhiteSpace ++ rest := by
    rw [← isRest, List.takeWhile_append_dropWhile]
  have back : rest = trim text ++ (rest.reverse.takeWhile isWhiteSpace).reverse := by
    rw [trim, isRest, ← List.reverse_append, List.takeWhile_append_dropWhile, List.reverse_reverse]
  refine ⟨text.takeWhile isWhiteSpace, (rest.reverse.takeWhile isWhiteSpace).reverse, ?_, ?_⟩
  · rw [← back]
    exact front
  · rw [List.forall_mem_append]
    refine ⟨List.all_eq_true.mp List.all_takeWhile, fun character member => ?_⟩
    exact List.all_eq_true.mp List.all_takeWhile character (List.mem_reverse.mp member)

theorem isScalarChar_of_isWhiteSpace {character : Char} (white : isWhiteSpace character = true) :
    isScalarChar character = false := by
  rw [Bool.eq_false_iff, Ne, isScalarChar_iff_toNat, isAlphanum_iff_toNat]
  simp only [isWhiteSpace, Bool.or_eq_true, Bool.and_eq_true, decide_eq_true_eq] at white
  omega

/-- White space that JSON does not know is no token. -/
theorem enter_of_isWhiteSpace {character : Char} (white : isWhiteSpace character = true) :
    isSpace character = true ∨ enter character = none := by
  by_cases space : isSpace character = true
  · exact Or.inl space
  · have notScalar := isScalarChar_of_isWhiteSpace white
    have notQuote : character ≠ '"' := by
      rintro rfl
      cases white
    have notMark : mark? character = none := by
      unfold mark?
      split
      case h_7 => rfl
      all_goals cases white
    refine Or.inr ?_
    rw [enter, if_neg space, if_neg notQuote, if_neg (Bool.eq_false_iff.mp notScalar), notMark]
    rfl

theorem numberChars_of_hexadecimal? {text : List Char} {value : ℕ}
    (read : hexadecimal? text = some value) : NumberChars text := by
  have folded : ∀ (digits : List Char) (start : ℕ) (result : ℕ),
      digits.foldlM (fun value character => (hexDigit? character).map (16 * value + ·)) start =
        some result → NumberChars digits := by
    intro digits
    induction digits with
    | nil => exact fun _ _ _ => numberChars_nil
    | cons digit rest ih =>
        intro start result later
        rw [List.foldlM_cons] at later
        obtain ⟨next, first, others⟩ := Option.bind_eq_some_iff.mp later
        obtain ⟨number, isDigit, _⟩ := Option.map_eq_some_iff.mp first
        exact numberChars_cons.mpr ⟨isScalarChar_of_hexDigit? isDigit, ih next result others⟩
  unfold hexadecimal? at read
  split at read
  case isTrue => cases read
  case isFalse => exact folded text 0 value read

/-- What can be read as an integer has the characters of a number. -/
theorem numberChars_of_tryParse {source : String} {number : ℤ}
    (read : tryParse source = some number) :
    NumberChars (trim source.toList) ∧ trim source.toList ≠ [] := by
  have body : NumberChars (signed (trim source.toList)).2 ∧
      (signed (trim source.toList)).2 ≠ [] := by
    unfold tryParse at read
    dsimp only at read
    split at read
    case h_1 digits same =>
      obtain ⟨value, hex, _⟩ := Option.bind_eq_some_iff.mp read
      rw [same, numberChars_cons, numberChars_cons]
      exact ⟨⟨rfl, rfl, numberChars_of_hexadecimal? hex⟩, List.cons_ne_nil _ _⟩
    case h_2 digits same =>
      obtain ⟨value, hex, _⟩ := Option.bind_eq_some_iff.mp read
      rw [same, numberChars_cons, numberChars_cons]
      exact ⟨⟨rfl, rfl, numberChars_of_hexadecimal? hex⟩, List.cons_ne_nil _ _⟩
    case h_3 =>
      obtain ⟨value, decimal, _⟩ := Option.bind_eq_some_iff.mp read
      unfold digits? at decimal
      split at decimal
      case isTrue digits =>
        exact ⟨fun character member =>
          isScalarChar_of_isDigit (List.all_eq_true.mp digits.2 character member), digits.1⟩
      case isFalse => cases decimal
  unfold signed at body
  split at body
  case h_1 rest same =>
    rw [same]
    exact ⟨numberChars_cons.mpr ⟨rfl, body.1⟩, List.cons_ne_nil _ _⟩
  case h_2 rest same =>
    rw [same]
    exact ⟨numberChars_cons.mpr ⟨rfl, body.1⟩, List.cons_ne_nil _ _⟩
  case h_3 => exact body

/-- A number between white space. -/
theorem typed_template {before core after : List Char} (there : core ≠ [])
    (chars : NumberChars core)
    (white : ∀ character ∈ before ++ after, isWhiteSpace character = true) :
    Template (before ++ (core ++ after) ++ ['\x7d']) []
      ((∀ character ∈ before, isSpace character = true) ∧ (scalar? core).isSome = true ∧
        ∀ character ∈ after, isSpace character = true)
      [.scalar ((scalar? core).getD .null), .rightBrace] := by
  rw [List.forall_mem_append] at white
  have closed : Template ['\x7d'] [] True [.rightBrace] := Template.fixed rfl (by decide)
  have blank : ∀ {text : List Char}, (∀ character ∈ text, isWhiteSpace character = true) →
      Template text [] (∀ character ∈ text, isSpace character = true) [] :=
    fun white => Template.blank fun character member =>
      enter_of_isWhiteSpace (white character member)
  have ending := (blank white.2).append closed
  obtain ⟨next, rest, same, stops⟩ :
      ∃ next rest, after ++ ['\x7d'] = next :: rest ∧ isScalarChar next = false := by
    cases after with
    | nil => exact ⟨'\x7d', [], rfl, rfl⟩
    | cons next rest =>
        exact ⟨next, rest ++ ['\x7d'], rfl,
          isScalarChar_of_isWhiteSpace (white.2 next List.mem_cons_self)⟩
  rw [same] at ending
  have whole := (blank white.1).append (Template.scalar there chars stops ending)
  rw [← same, and_true] at whole
  rw [List.append_assoc, List.append_assoc]
  exact whole

/-! ## A product without variants -/

/-- The quantity is typed as it would be printed, between spaces of JSON. -/
def Canonical (quantity : String) (number : ℤ) : Prop :=
  ∃ before after, quantity.toList = before ++ ((toString number).toList ++ after) ∧
    ∀ character ∈ before ++ after, isSpace character = true

/-- What decides whether the text of a product without variants tells what was typed. -/
structure ProductCreationValidation.Sayable (form : ProductCreationValidation) : Prop where
  name : Insertable form.name.value
  price : ∃ price, form.price.value.bind parse = some price ∧ price.datum.isFinite = true
  quantity : ∃ quantity number, form.quantity.value = some quantity ∧
    tryParse quantity = some number ∧ Canonical quantity number

def ProductCreationValidation.said (form : ProductCreationValidation) : Option Value :=
  form.row?.map fun row => .array [row.said]

def productCharacteristic (name : Option String) : Characteristic := .map (some "option") name

theorem productToVariant_toList {form : ProductCreationValidation} {price : Binary64}
    {quantity : String} (priced : form.price.value.bind parse = some price)
    (counted : form.quantity.value = some quantity) :
    ∃ text, form.productToVariant = some text ∧
      text.toList = '[' :: ([','].intercalate [variantText [productCharacteristic form.name.value]
        price.datum.text quantity.toList] ++ [']']) := by
  obtain ⟨formData, built⟩ : ∃ formData, "[" ++ ("\x7b\"characterstics\": [" ++
      nameAndValue "option" (interpolated form.name.value) ++ "], \"price\": " ++
      String.ofList price.datum.text ++ ", \"quantity\": " ++ quantity ++ "\x7d,") = formData :=
    ⟨_, rfl⟩
  have printed : (String.ofList price.datum.text).toList = price.datum.text := String.toList_ofList
  have written : formData.toList = "[".toList ++
      [variantText [productCharacteristic form.name.value] price.datum.text
        quantity.toList].flatMap (· ++ [',']) := by
    rw [← built, String.toList_append, String.toList_append, String.toList_append,
      String.toList_append, String.toList_append, String.toList_append, String.toList_append,
      printed, toList_quantity, toList_ending, List.flatMap_singleton]
    unfold variantText
    rw [List.map_singleton, List.intercalate_singleton]
    unfold productCharacteristic Characteristic.text Characteristic.name Characteristic.value
    simp only [List.append_assoc, List.cons_append, List.nil_append]
    rfl
  refine ⟨withoutLastComma formData ++ "]", ?_, ?_⟩
  · unfold ProductCreationValidation.productToVariant
    rw [priced, counted, Option.bind_some, Option.map_some, built]
  · rw [String.toList_append, toList_withoutLastComma written (by decide)]
    rfl

theorem productCharacteristic_insertable (name : Option String) :
    Insertable name ↔ (∀ hole ∈ (productCharacteristic name).holes, Plain hole) ∧
      (productCharacteristic name).shown = (productCharacteristic name).said := by
  have option : Insertable (some "option") := ⟨"option", rfl, by decide⟩
  rw [← Characteristic.insertable_iff]
  exact ⟨fun named => ⟨option, named⟩, And.right⟩

def productRow (name : Option String) (price : Binary64) (number : ℤ) : Row :=
  ⟨[productCharacteristic name], some price, some number⟩

theorem product_shown_iff {name : Option String} {price : Binary64} {number : ℤ} {count : Scalar}
    (finite : price.datum.isFinite = true) :
    Value.object ((variantMembers [productCharacteristic name]
        ((scalar? price.datum.text).getD .null) count).map Member.pair) =
      (productRow name price number).said ↔
    (productCharacteristic name).shown = (productCharacteristic name).said ∧
      count = .int number := by
  have printable : Printable (some price) := fun other same => Option.some_inj.mp same ▸ finite
  have printed := scalar?_doubleText printable
  rw [toList_doubleText] at printed
  rw [printed, Option.getD_some]
  simp [productRow, Row.said, variantMembers, Member.pair, intSaid]

/-- The one variant, wherever its quantity is cut out of the white space around it. -/
theorem product_parse?_iff {text : String} {name : Option String} {price : Binary64}
    {number : ℤ} {before core after : List Char} (there : core ≠ []) (chars : NumberChars core)
    (white : ∀ character ∈ before ++ after, isWhiteSpace character = true)
    (written : text.toList = '[' :: ([','].intercalate [variantText [productCharacteristic name]
      price.datum.text (before ++ (core ++ after))] ++ [']'])) :
    parse? text = some (.array [(productRow name price number).said]) ↔
      Insertable name ∧ price.datum.isFinite = true ∧
        (∀ character ∈ before ++ after, isSpace character = true) ∧
          scalar? core = some (.int number) := by
  have template := variant_template [productCharacteristic name] (text_ne_nil price)
    (numberChars_text price.datum) (typed_template there chars white)
  have mentions : ∀ hole ∈ (productRow name price number).holes, ¬Plain hole →
      (productRow name price number).said.Mentions (utf16 hole) :=
    fun _ member notPlain => Row.mentions member notPlain
  have listed : text.toList = '[' :: ([','].intercalate ([productRow name price number].map fun _ =>
      variantText [productCharacteristic name] price.datum.text (before ++ (core ++ after))) ++
        [']']) := written
  have read : parse? text = some (.array ([productRow name price number].map Row.said)) ↔ _ :=
    parse?_array_iff listed (fun _ _ => template) (fun _ _ => variant_denotes _ _ _)
      fun row same hole member notPlain => by
        rw [List.mem_singleton.mp same]
        exact mentions hole member notPlain
  rw [List.map_singleton] at read
  rw [read, List.forall_mem_singleton, List.flatMap_singleton, productCharacteristic_insertable,
    List.forall_mem_append, scalar?_text_isSome_iff]
  constructor
  · rintro ⟨⟨finite, before, counted, after⟩, plain, same⟩
    obtain ⟨value, isNumber⟩ := Option.isSome_iff_exists.mp counted
    obtain ⟨named, numbered⟩ := (product_shown_iff finite).mp same
    rw [isNumber, Option.getD_some] at numbered
    exact ⟨⟨plain, named⟩, finite, ⟨before, after⟩, numbered ▸ isNumber⟩
  · rintro ⟨⟨plain, named⟩, finite, ⟨before, after⟩, isNumber⟩
    have counted : (scalar? core).isSome = true := Option.isSome_iff_exists.mpr ⟨_, isNumber⟩
    refine ⟨⟨finite, before, counted, after⟩, plain, (product_shown_iff finite).mpr ⟨named, ?_⟩⟩
    rw [isNumber, Option.getD_some]

theorem isWhiteSpace_of_isSpace {character : Char} (space : isSpace character = true) :
    isWhiteSpace character = true := by
  simp only [isSpace, Bool.or_eq_true, decide_eq_true_eq] at space
  rcases space with ((rfl | rfl) | rfl) | rfl
  all_goals rfl

theorem productToVariant_tells_iff (form : ProductCreationValidation) :
    Tells form.productToVariant form.said ↔ form.Sayable := by
  constructor
  · rintro ⟨text, value, built, typed, parsed⟩
    obtain ⟨row, isRow, rfl⟩ := Option.map_eq_some_iff.mp typed
    obtain ⟨price, priced, later⟩ := Option.bind_eq_some_iff.mp isRow
    obtain ⟨number, read, rfl⟩ := Option.map_eq_some_iff.mp later
    obtain ⟨quantity, counted, number?⟩ := Option.bind_eq_some_iff.mp read
    obtain ⟨text', built', written⟩ := productToVariant_toList priced counted
    cases built.symm.trans built'
    obtain ⟨before, after, cut, white⟩ := trim_spec quantity.toList
    obtain ⟨chars, there⟩ := numberChars_of_tryParse number?
    rw [cut] at written
    obtain ⟨named, finite, spaces, isNumber⟩ :=
      (product_parse?_iff there chars white written).mp parsed
    rw [eq_toString_of_scalar? isNumber] at cut
    exact ⟨named, ⟨price, priced, finite⟩,
      ⟨quantity, number, counted, number?, before, after, cut, spaces⟩⟩
  · rintro ⟨named, ⟨price, priced, finite⟩, quantity, number, counted, number?, canonical⟩
    obtain ⟨before, after, cut, spaces⟩ := canonical
    obtain ⟨text, built, written⟩ := productToVariant_toList priced counted
    have isNumber := scalar?_toString number
    have typed : form.said = some (.array [(productRow form.name.value price number).said]) := by
      rw [ProductCreationValidation.said, ProductCreationValidation.row?, priced, counted,
        Option.bind_some, Option.bind_some, number?]
      rfl
    rw [cut] at written
    exact ⟨text, _, built, typed,
      (product_parse?_iff (ne_nil_of_scalar? isNumber) (numberChars_toString number)
        (fun character member => isWhiteSpace_of_isSpace (spaces character member)) written).mpr
          ⟨named, finite, spaces, isNumber⟩⟩

end Proximity.Apps.Commercant.ProductForm
