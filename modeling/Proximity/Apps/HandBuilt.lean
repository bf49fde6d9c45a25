import Proximity.Apps.ProductForm
import Proximity.Systems.Checks

/-!
# The merchant's app: what the texts put together by hand tell

Each text is read as what was typed unless something that is inserted needs an escape or is
not a number.
-/

namespace Proximity.Apps.Commercant.ProductForm

open Proximity.Systems Proximity.Systems.JsonText

/-! ## What was typed -/

def key (name : String) : List ℕ := utf16 name.toList

def said : Option String → Value
  | none => .scalar .null
  | some text => .string (utf16 text.toList)

def Characteristic.said (characteristic : Characteristic) : Value :=
  .object [(key "name", ProductForm.said characteristic.name),
    (key "value", ProductForm.said characteristic.value)]

def doubleSaid : Option Binary64 → Scalar
  | none => .null
  | some price => .double price.datum

def intSaid : Option ℤ → Scalar
  | none => .null
  | some quantity => .int quantity

/-- A variant none of whose characteristics is missing. -/
structure Row where
  characteristics : List Characteristic
  price : Option Binary64
  quantity : Option ℤ

def Row.said (row : Row) : Value :=
  .object [(key "characterstics", .array (row.characteristics.map Characteristic.said)),
    (key "price", .scalar (doubleSaid row.price)), (key "quantity", .scalar (intSaid row.quantity))]

def ProductVariant.row? (variant : ProductVariant) : Option Row :=
  (variant.characteristics.bind fun characteristics => characteristics.mapM id).map
    fun characteristics => ⟨characteristics, variant.price, variant.quantity⟩

def variantsSaid (variants : List ProductVariant) : Option Value :=
  (variants.mapM ProductVariant.row?).map fun rows => .array (rows.map Row.said)

/-- The one variant of a product without variants. -/
def ProductCreationValidation.row? (form : ProductCreationValidation) : Option Row :=
  (form.price.value.bind parse).bind fun price =>
    (form.quantity.value.bind tryParse).map fun quantity =>
      ⟨[.map (some "option") form.name.value], some price, some quantity⟩

/-- The text is put together, and it is read as what was typed. -/
def Tells (text : Option String) (typed : Option Value) : Prop :=
  ∃ formData value, text = some formData ∧ typed = some value ∧ parse? formData = some value

/-! ## Commas -/

theorem flatMap_comma (items : List (List Char)) :
    items.flatMap (· ++ [',']) =
      if items = [] then [] else [','].intercalate items ++ [','] := by
  induction items with
  | nil => rfl
  | cons item items ih =>
      rw [List.flatMap_cons, ih, if_neg (List.cons_ne_nil _ _)]
      cases items with
      | nil => rw [if_pos rfl, List.append_nil, List.intercalate_singleton]
      | cons second items =>
          rw [if_neg (List.cons_ne_nil _ _), List.intercalate_cons_cons, List.append_assoc,
            List.append_assoc, List.append_assoc]

/-- The comma after the last item is dropped; before the first one there is none. -/
theorem toList_withoutLastComma {formData : String} {start : List Char} {items : List (List Char)}
    (written : formData.toList = start ++ items.flatMap (· ++ [',']))
    (opened : start.getLast? ≠ some ',') :
    (withoutLastComma formData).toList = start ++ [','].intercalate items := by
  rw [flatMap_comma] at written
  unfold withoutLastComma
  by_cases empty : items = []
  · rw [if_pos empty, List.append_nil] at written
    rw [written, if_neg opened, written, empty, List.intercalate_nil, List.append_nil]
  · rw [if_neg empty, ← List.append_assoc] at written
    rw [written, List.getLast?_concat, if_pos rfl, String.toList_ofList, List.dropLast_concat]

/-! ## Characteristics -/

def nameAndValueMembers (name value : String) : List Member :=
  [⟨key "name", [.string (key name)], .string (key name)⟩,
    ⟨key "value", [.string (key value)], .string (key value)⟩]

def nameAndValueTokens (name value : String) : List Token :=
  .leftBrace :: ([Token.comma].intercalate ((nameAndValueMembers name value).map Member.written) ++
    [.rightBrace])

theorem toList_nameAndValue (name value : String) :
    (nameAndValue name value).toList =
      "\x7b\n          \"name\": \"".toList ++ (name.toList ++ '"' :: ([','] ++ ['\n'])) ++
        ("          \"value\": \"".toList ++ (value.toList ++ '"' :: ([] ++ ['\n']))) ++
        "        \x7d".toList := by
  have between : "\",\n          \"value\": \"".toList =
      '"' :: ([','] ++ ['\n']) ++ "          \"value\": \"".toList := by decide
  have last : "\"\n        \x7d".toList = '"' :: ([] ++ ['\n']) ++ "        \x7d".toList := by
    decide
  unfold nameAndValue
  rw [String.toList_append, String.toList_append, String.toList_append, String.toList_append,
    between, last]
  simp only [List.append_assoc]

theorem nameAndValue_template (name value : String) :
    Template (nameAndValue name value).toList [name.toList, value.toList] True
      (nameAndValueTokens name value) := by
  have opened : lex .between "\x7b\n          \"name\": \"".toList =
      some ([.leftBrace, .string (key "name"), .colon], .string []) := by decide
  have opened' : lex .between "          \"value\": \"".toList =
      some ([.string (key "value"), .colon], .string []) := by decide
  have closed : lex .between "        \x7d".toList = some ([.rightBrace], .between) := by decide
  have first := Template.hole name.toList opened (by decide) Gap.comma
  have second := Template.hole value.toList opened' (by decide) Gap.none
  have joined := (first.append second).append (Template.fixed closed (by decide))
  rw [and_true, and_true] at joined
  rw [toList_nameAndValue]
  exact joined

theorem nameAndValue_denotes (name value : String) :
    Denotes (nameAndValueTokens name value)
      (.object ((nameAndValueMembers name value).map Member.pair)) := by
  have distinct : ((nameAndValueMembers name value).map Member.key).Nodup := by
    change [key "name", key "value"].Nodup
    decide
  refine denotes_object (fun member there => ?_) distinct
  rcases List.mem_cons.mp there with rfl | last
  · exact denotes_string _
  · rcases List.mem_singleton.mp last with rfl
    exact denotes_string _

def Characteristic.holes (characteristic : Characteristic) : List (List Char) :=
  [(interpolated characteristic.name).toList, (interpolated characteristic.value).toList]

def Characteristic.tokens (characteristic : Characteristic) : List Token :=
  nameAndValueTokens (interpolated characteristic.name) (interpolated characteristic.value)

/-- A characteristic as it is printed, `null` as a string. -/
def Characteristic.shown (characteristic : Characteristic) : Value :=
  .object [(key "name", .string (key (interpolated characteristic.name))),
    (key "value", .string (key (interpolated characteristic.value)))]

theorem Characteristic.template (characteristic : Characteristic) :
    Template characteristic.text.toList characteristic.holes True characteristic.tokens :=
  nameAndValue_template _ _

theorem Characteristic.denotes (characteristic : Characteristic) :
    Denotes characteristic.tokens characteristic.shown :=
  nameAndValue_denotes _ _

/-! ## Variants -/

theorem foldlM_toList {α β : Type} {step : String → α → Option String} {part : α → Option β}
    {text : β → List Char}
    (each : ∀ formData item, (step formData item).map String.toList =
      (part item).map fun value => formData.toList ++ (text value ++ [',']))
    (formData : String) (items : List α) :
    (items.foldlM step formData).map String.toList =
      (items.mapM part).map fun parts =>
        formData.toList ++ (parts.map text).flatMap (· ++ [',']) := by
  induction items generalizing formData with
  | nil => simp
  | cons item items ih =>
      have first := each formData item
      rw [List.foldlM_cons, List.mapM_cons]
      cases held : part item with
      | none =>
          rw [held, Option.map_none, Option.map_eq_none_iff] at first
          rw [first]
          rfl
      | some value =>
          rw [held, Option.map_some] at first
          obtain ⟨next, stepped, written⟩ := Option.map_eq_some_iff.mp first
          rw [stepped]
          change (items.foldlM step next).map String.toList = _
          rw [ih next, written]
          cases items.mapM part with
          | none => rfl
          | some parts => simp

def variantText (characteristics : List Characteristic) (price quantity : List Char) : List Char :=
  "\x7b\"characterstics\": [".toList ++
    ([','].intercalate (characteristics.map fun characteristic => characteristic.text.toList) ++
      ("], \"price\": ".toList ++
        (price ++ ',' :: (" \"quantity\": ".toList ++ (quantity ++ ['\x7d'])))))

theorem toList_quantity :
    ", \"quantity\": ".toList = [','] ++ " \"quantity\": ".toList := by decide

theorem toList_ending : "\x7d,".toList = ['\x7d'] ++ [','] := by decide

theorem addCharacteristic_toList (formData : String) (characteristic : Option Characteristic) :
    (addCharacteristic formData characteristic).map String.toList =
      (id characteristic).map fun characteristic =>
        formData.toList ++ (characteristic.text.toList ++ [',']) := by
  cases characteristic with
  | none => rfl
  | some characteristic =>
      rw [addCharacteristic, Option.map_some, Option.map_some, String.toList_append,
        String.toList_append]
      rfl

theorem addVariant_toList (formData : String) (variant : ProductVariant) :
    (addVariant formData variant).map String.toList =
      (variant.characteristics.bind fun characteristics => characteristics.mapM id).map
        fun characteristics => formData.toList ++
          (variantText characteristics (doubleText variant.price).toList
            (intText variant.quantity).toList ++ [',']) := by
  unfold addVariant
  cases variant.characteristics with
  | none => rfl
  | some characteristics =>
      have opened := foldlM_toList addCharacteristic_toList
        (formData ++ "\x7b\"characterstics\": [") characteristics
      rw [Option.bind_some, Option.bind_some]
      cases held : characteristics.mapM id with
      | none =>
          rw [held, Option.map_none, Option.map_eq_none_iff] at opened
          rw [opened]
          rfl
      | some listed =>
          rw [held, Option.map_some] at opened
          obtain ⟨text, built, written⟩ := Option.map_eq_some_iff.mp opened
          have closed := toList_withoutLastComma written (by
            rw [String.toList_append, List.getLast?_append_of_ne_nil _ (by decide)]
            decide)
          rw [built, Option.map_some, Option.map_some, Option.map_some, String.toList_append,
            closed, String.toList_append, String.toList_append, String.toList_append,
            String.toList_append, String.toList_append, toList_quantity, toList_ending]
          unfold variantText
          simp only [List.append_assoc, List.cons_append, List.nil_append]

def variantMembers (characteristics : List Characteristic) (price quantity : Scalar) :
    List Member :=
  [⟨key "characterstics",
      .leftBracket :: ([Token.comma].intercalate (characteristics.map Characteristic.tokens) ++
        [.rightBracket]),
      .array (characteristics.map Characteristic.shown)⟩,
    ⟨key "price", [.scalar price], .scalar price⟩,
    ⟨key "quantity", [.scalar quantity], .scalar quantity⟩]

def variantTokens (characteristics : List Characteristic) (price quantity : Scalar) :
    List Token :=
  .leftBrace :: ([Token.comma].intercalate
    ((variantMembers characteristics price quantity).map Member.written) ++ [.rightBrace])

theorem variantTokens_eq (characteristics : List Characteristic) (price quantity : Scalar) :
    variantTokens characteristics price quantity =
      ([.leftBrace, .string (key "characterstics"), .colon, .leftBracket] : List Token) ++
        ([Token.comma].intercalate (characteristics.map Characteristic.tokens) ++
          (([.rightBracket, .comma, .string (key "price"), .colon] : List Token) ++
            (.scalar price :: .comma :: .string (key "quantity") :: .colon ::
              [.scalar quantity, .rightBrace]))) := by
  simp [variantTokens, variantMembers, Member.written]

/-- A variant, given how its quantity is written. -/
theorem variant_template (characteristics : List Characteristic) {price quantity : List Char}
    {numbers : Prop} {count : Scalar} (there : price ≠ []) (chars : NumberChars price)
    (counted : Template (quantity ++ ['\x7d']) [] numbers [.scalar count, .rightBrace]) :
    Template (variantText characteristics price quantity)
      (characteristics.flatMap Characteristic.holes)
      ((scalar? price).isSome = true ∧ numbers)
      (variantTokens characteristics ((scalar? price).getD .null) count) := by
  have opened : lex .between "\x7b\"characterstics\": [".toList =
      some ([.leftBrace, .string (key "characterstics"), .colon, .leftBracket], .between) := by
    decide
  have closed : lex .between "], \"price\": ".toList =
      some ([.rightBracket, .comma, .string (key "price"), .colon], .between) := by decide
  have next : lex .between ", \"quantity\": ".toList =
      some ([.comma, .string (key "quantity"), .colon], .between) := by decide
  have rest := (Template.fixed next (by decide)).append counted
  rw [toList_quantity, List.singleton_append, List.cons_append] at rest
  have numbered := Template.scalar there chars rfl rest
  have listed := Template.separated fun characteristic (_ : characteristic ∈ characteristics) =>
    characteristic.template
  have joined := (Template.fixed opened (by decide)).append
    (listed.append ((Template.fixed closed (by decide)).append numbered))
  rw [variantTokens_eq]
  unfold variantText
  simp only [List.append_nil, List.nil_append, implies_true, true_and] at joined
  exact joined

theorem variant_denotes (characteristics : List Characteristic) (price quantity : Scalar) :
    Denotes (variantTokens characteristics price quantity)
      (.object ((variantMembers characteristics price quantity).map Member.pair)) := by
  have distinct : ((variantMembers characteristics price quantity).map Member.key).Nodup := by
    change [key "characterstics", key "price", key "quantity"].Nodup
    decide
  refine denotes_object (fun member there => ?_) distinct
  rcases List.mem_cons.mp there with rfl | rest
  · exact denotes_array fun characteristic _ => characteristic.denotes
  rcases List.mem_cons.mp rest with rfl | last
  · exact denotes_scalar price
  · rcases List.mem_singleton.mp last with rfl
    exact denotes_scalar quantity

/-! ## Numbers -/

theorem scalar?_intText (quantity : Option ℤ) :
    scalar? (intText quantity).toList = some (intSaid quantity) := by
  cases quantity with
  | none => decide
  | some quantity => exact scalar?_toString quantity

theorem numberChars_intText (quantity : Option ℤ) : NumberChars (intText quantity).toList := by
  cases quantity with
  | none => decide
  | some quantity => exact numberChars_toString quantity

theorem quantity_template (quantity : Option ℤ) :
    Template ((intText quantity).toList ++ ['\x7d']) [] True
      [.scalar (intSaid quantity), .rightBrace] := by
  have read := scalar?_intText quantity
  have closed : Template ['\x7d'] [] True [.rightBrace] := Template.fixed rfl (by decide)
  have counted := Template.scalar (ne_nil_of_scalar? read) (numberChars_intText quantity) rfl closed
  rw [read, Option.isSome_some, Option.getD_some, eq_self, true_and] at counted
  exact counted

theorem toList_doubleText (price : Binary64) :
    (doubleText (some price)).toList = price.datum.text :=
  String.toList_ofList

theorem numberChars_doubleText (price : Option Binary64) :
    NumberChars (doubleText price).toList := by
  cases price with
  | none => decide
  | some price => exact toList_doubleText price ▸ numberChars_text price.datum

theorem doubleText_ne_nil (price : Option Binary64) : (doubleText price).toList ≠ [] := by
  cases price with
  | none => decide
  | some price => exact toList_doubleText price ▸ text_ne_nil price

/-- A price is printed as a number unless it is infinite or no number. -/
def Printable (price : Option Binary64) : Prop :=
  ∀ number, price = some number → number.datum.isFinite = true

theorem scalar?_doubleText_isSome_iff (price : Option Binary64) :
    (scalar? (doubleText price).toList).isSome = true ↔ Printable price := by
  cases price with
  | none => exact iff_of_true (by decide) nofun
  | some price =>
      rw [toList_doubleText, scalar?_text_isSome_iff]
      exact ⟨fun finite number same => Option.some_inj.mp same ▸ finite, fun each => each price rfl⟩

theorem scalar?_doubleText {price : Option Binary64} (printable : Printable price) :
    scalar? (doubleText price).toList = some (doubleSaid price) := by
  cases price with
  | none => decide
  | some price =>
      have finite := printable price rfl
      rw [toList_doubleText]
      cases datum : price.datum with
      | finite value =>
          have read := scalar?_text datum
          rw [datum] at read
          rw [read, doubleSaid, datum]
      | infinite negative =>
          rw [datum] at finite
          cases finite
      | nan =>
          rw [datum] at finite
          cases finite

/-! ## What is inserted -/

/-- The text is there, and it needs no escape. -/
def Insertable (text? : Option String) : Prop := ∃ text, text? = some text ∧ Plain text.toList

def Row.Sayable (row : Row) : Prop :=
  (∀ characteristic ∈ row.characteristics,
    Insertable characteristic.name ∧ Insertable characteristic.value) ∧ Printable row.price

theorem plain_null : Plain "null".toList := by decide

/-- Only a text that was given can fail to be plain. -/
theorem said_mentions {text? : Option String} (notPlain : ¬Plain (interpolated text?).toList) :
    (said text?).Mentions (utf16 (interpolated text?).toList) := by
  cases text? with
  | none => exact absurd plain_null notPlain
  | some text => exact .string

/-- `null` is printed as a string. -/
theorem shown_eq_said_iff (text? : Option String) :
    Value.string (key (interpolated text?)) = said text? ↔ text?.isSome = true := by
  cases text? with
  | none => exact iff_of_false nofun nofun
  | some text => exact iff_of_true rfl rfl

theorem insertable_iff (text? : Option String) :
    Insertable text? ↔ Plain (interpolated text?).toList ∧ text?.isSome = true := by
  cases text? with
  | none => exact iff_of_false (fun ⟨_, there, _⟩ => nomatch there) fun both => nomatch both.2
  | some text =>
      constructor
      · rintro ⟨_, same, plain⟩
        cases same
        exact ⟨plain, rfl⟩
      · rintro ⟨plain, _⟩
        exact ⟨text, rfl, plain⟩

theorem Characteristic.shown_eq_said_iff (characteristic : Characteristic) :
    characteristic.shown = characteristic.said ↔
      characteristic.name.isSome = true ∧ characteristic.value.isSome = true := by
  rw [← ProductForm.shown_eq_said_iff, ← ProductForm.shown_eq_said_iff]
  simp [Characteristic.shown, Characteristic.said]

/-- The inserted texts of a characteristic are said exactly when they are insertable. -/
theorem Characteristic.insertable_iff (characteristic : Characteristic) :
    Insertable characteristic.name ∧ Insertable characteristic.value ↔
      (∀ hole ∈ characteristic.holes, Plain hole) ∧ characteristic.shown = characteristic.said := by
  rw [ProductForm.insertable_iff, ProductForm.insertable_iff, characteristic.shown_eq_said_iff,
    Characteristic.holes, List.forall_mem_cons, List.forall_mem_singleton]
  exact and_and_and_comm

theorem Characteristic.mentions {characteristic : Characteristic} {hole : List Char}
    (member : hole ∈ characteristic.holes) (notPlain : ¬Plain hole) :
    characteristic.said.Mentions (utf16 hole) := by
  rcases List.mem_cons.mp member with rfl | last
  · exact .object List.mem_cons_self (said_mentions notPlain)
  · rcases List.mem_singleton.mp last with rfl
    exact .object (List.mem_cons_of_mem _ List.mem_cons_self) (said_mentions notPlain)

/-! ## Rows -/

def Row.holes (row : Row) : List (List Char) := row.characteristics.flatMap Characteristic.holes

/-- A row as it is printed. -/
def Row.shown (row : Row) : Value :=
  .object ((variantMembers row.characteristics
    ((scalar? (doubleText row.price).toList).getD .null) (intSaid row.quantity)).map Member.pair)

theorem Row.mentions {row : Row} {hole : List Char} (member : hole ∈ row.holes)
    (notPlain : ¬Plain hole) : row.said.Mentions (utf16 hole) := by
  obtain ⟨characteristic, there, inserted⟩ := List.mem_flatMap.mp member
  exact .object List.mem_cons_self
    (.array (List.mem_map_of_mem there) (Characteristic.mentions inserted notPlain))

theorem Row.shown_eq_said_iff {row : Row} (printable : Printable row.price) :
    row.shown = row.said ↔
      ∀ characteristic ∈ row.characteristics, characteristic.shown = characteristic.said := by
  rw [← List.map_inj_left]
  unfold Row.shown Row.said
  rw [scalar?_doubleText printable, Option.getD_some]
  simp [variantMembers, Member.pair]

/-- A row is said exactly when its price is a number, the inserted texts are plain, and it
is printed as what it is. -/
theorem Row.sayable_iff (row : Row) :
    row.Sayable ↔
      Printable row.price ∧ (∀ hole ∈ row.holes, Plain hole) ∧ row.shown = row.said := by
  unfold Row.Sayable Row.holes
  rw [and_comm, List.forall_mem_flatMap]
  refine and_congr_right fun printable => ?_
  rw [Row.shown_eq_said_iff printable, ← forall₂_and]
  exact forall₂_congr fun characteristic _ => characteristic.insertable_iff

/-! ## Lists of variants -/

def Row.text (row : Row) : List Char :=
  variantText row.characteristics (doubleText row.price).toList (intText row.quantity).toList

def Row.tokens (row : Row) : List Token :=
  variantTokens row.characteristics ((scalar? (doubleText row.price).toList).getD .null)
    (intSaid row.quantity)

theorem Row.template (row : Row) :
    Template row.text row.holes (Printable row.price) row.tokens := by
  have counted := variant_template row.characteristics (doubleText_ne_nil row.price)
    (numberChars_doubleText row.price) (quantity_template row.quantity)
  rw [and_true, scalar?_doubleText_isSome_iff] at counted
  exact counted

theorem variantsFormData_toList (variants : List ProductVariant) :
    (variantsFormData variants).map String.toList =
      (variants.mapM ProductVariant.row?).map fun rows =>
        '[' :: ([','].intercalate (rows.map Row.text) ++ [']']) := by
  have each : ∀ formData variant, (addVariant formData variant).map String.toList =
      (ProductVariant.row? variant).map fun row => formData.toList ++ (row.text ++ [',']) := by
    intro formData variant
    rw [addVariant_toList, ProductVariant.row?, Option.map_map]
    rfl
  have looped := foldlM_toList each "[" variants
  unfold variantsFormData
  cases held : variants.mapM ProductVariant.row? with
  | none =>
      rw [held, Option.map_none, Option.map_eq_none_iff] at looped
      rw [looped]
      rfl
  | some rows =>
      rw [held, Option.map_some] at looped
      obtain ⟨text, built, written⟩ := Option.map_eq_some_iff.mp looped
      have closed := toList_withoutLastComma written (by decide)
      rw [built, Option.map_some, Option.map_some, Option.map_some, String.toList_append, closed]
      rfl

/-- A variant whose characteristics are all there and insertable, and whose price is not
infinite. -/
def ProductVariant.Sayable (variant : ProductVariant) : Prop :=
  ∃ row, variant.row? = some row ∧ row.Sayable

theorem variantsFormData_tells_iff (variants : List ProductVariant) :
    Tells (variantsFormData variants) (variantsSaid variants) ↔
      ∀ variant ∈ variants, variant.Sayable := by
  have written := variantsFormData_toList variants
  unfold ProductVariant.Sayable
  rw [← exists_mapM_iff]
  have read : ∀ rows text, variants.mapM ProductVariant.row? = some rows →
      variantsFormData variants = some text →
      (parse? text = some (.array (rows.map Row.said)) ↔ ∀ row ∈ rows, row.Sayable) := by
    intro rows text listed built
    rw [listed, built, Option.map_some, Option.map_some, Option.some_inj] at written
    rw [parse?_array_iff written (fun row _ => row.template) (fun row _ => variant_denotes _ _ _)
      fun row _ hole member notPlain => row.mentions member notPlain]
    exact forall₂_congr fun row _ => row.sayable_iff.symm
  constructor
  · rintro ⟨text, value, built, typed, parsed⟩
    obtain ⟨rows, listed, rfl⟩ := Option.map_eq_some_iff.mp typed
    exact ⟨rows, listed, (read rows text listed built).mp parsed⟩
  · rintro ⟨rows, listed, sayable⟩
    rw [listed, Option.map_some] at written
    obtain ⟨text, built, _⟩ := Option.map_eq_some_iff.mp written
    exact ⟨text, _, built, by rw [variantsSaid, listed, Option.map_some],
      (read rows text listed built).mpr sayable⟩

/-! ## Characteristics as they are typed -/

theorem plain_of_isAlphanum {text : List Char} (letters : text.all Char.isAlphanum = true) :
    Plain text := by
  intro character member
  have letter := isAlphanum_iff_toNat.mp (List.all_eq_true.mp letters character member)
  have quote : character = '"' ↔ character.toNat = 0x22 := Char.toNat_inj.symm
  have backslash : character = '\\' ↔ character.toNat = 0x5C := Char.toNat_inj.symm
  unfold PlainChar
  rw [Ne, Ne, quote, backslash]
  omega

/-- What the forms of the characteristics accept needs no escape. -/
theorem typed_sayable {characteristics : List (String × String)}
    (typed : ∀ characteristic ∈ characteristics,
      isOption characteristic.1.toList = true ∧ isOptionValue characteristic.2.toList = true)
    {price : Option Binary64} (printable : Printable price) (quantity : Option ℤ) :
    (⟨some (characteristics.map fun characteristic =>
        some (.entry characteristic.1 characteristic.2)), price, quantity⟩ :
      ProductVariant).Sayable := by
  have listed : (characteristics.map fun characteristic =>
      some (Characteristic.entry characteristic.1 characteristic.2)).mapM id =
        some (characteristics.map fun characteristic =>
          .entry characteristic.1 characteristic.2) := by
    induction characteristics with
    | nil => rfl
    | cons characteristic rest ih =>
        rw [List.map_cons, List.mapM_cons, ih (List.forall_mem_cons.mp typed).2]
        rfl
  refine ⟨⟨_, price, quantity⟩, by rw [ProductVariant.row?, Option.bind_some, listed]; rfl, ?_,
    printable⟩
  intro characteristic member
  obtain ⟨⟨option, value⟩, there, rfl⟩ := List.mem_map.mp member
  obtain ⟨isOption, isValue⟩ := typed _ there
  unfold ProductForm.isOption at isOption
  unfold isOptionValue at isValue
  rw [Bool.and_eq_true] at isOption isValue
  have letters : option.toList.all Char.isAlphanum = true := by
    rw [List.all_eq_true] at isOption ⊢
    intro character inside
    rw [Char.isAlphanum, isOption.2 character inside, Bool.true_or]
  exact ⟨⟨option, rfl, plain_of_isAlphanum letters⟩, value, rfl, plain_of_isAlphanum isValue.2⟩

end Proximity.Apps.Commercant.ProductForm
