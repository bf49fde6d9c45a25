import Proximity.Apps.ProductOptions
import Proximity.Apps.ProductText
import Proximity.Systems.Checks

/-!
# The merchant's app: the kind of a product

A product without variants is saved with one, whose option is the product's own name.  When it
is loaded again, a first option of another value makes it a product with variants.
-/

namespace Proximity.Apps.Commercant.ProductForm

open Proximity.Systems Proximity.Systems.JsonText

/-! ## What is posted -/

/-- The quantity, if there is one, can be read as a number. -/
def ProductCreationValidation.Counted (form : ProductCreationValidation) : Prop :=
  ∀ quantity, form.quantity.value = some quantity → (tryParse quantity).isSome = true

theorem counted_new : ProductCreationValidation.new.Counted := by
  intro quantity typed
  cases typed
  decide

theorem ProductCreationValidation.Counted.changeQuantity {form : ProductCreationValidation}
    (value : String) : (form.changeQuantity value).Counted := by
  intro quantity typed
  unfold ProductCreationValidation.changeQuantity at typed
  split at typed
  case isTrue => cases typed
  case isFalse =>
    cases read : tryParse value with
    | none =>
        rw [read] at typed
        cases typed
    | some number =>
        simp only [read] at typed
        split at typed
        case isTrue =>
          cases typed
          rw [read]
          rfl
        case isFalse => cases typed

/-- The form with its switch and its list of variants. -/
structure VariantForm extends ProductCreationValidation where
  hasVariants : Bool
  variants : List ProductVariant
  counted : toProductCreationValidation.Counted

/-- The text of the variants in `toFormData`, which compares the prices of the variants first.
Without a price, or without variants, the text is empty. -/
def VariantForm.variantes (form : VariantForm) : Option String :=
  if form.price.value.isSome = true ∧ form.hasVariants = false then form.productToVariant
  else if form.variants ≠ [] ∧ form.hasVariants = true then
    if form.variants.all (fun variant => variant.price.isSome) = true then
      variantsFormData form.variants
    else none
  else some ""

/-! ## What is saved -/

abbrev SavedOption := ProductOptions.Characteristic (List ℕ)

def member? (name : String) : Value → Option Value
  | .object members => members.lookup (key name)
  | _ => none

def string? : Value → Option (List ℕ)
  | .string content => some content
  | _ => none

def array? : Value → Option (List Value)
  | .array items => some items
  | _ => none

def characteristic? (value : Value) : Option SavedOption := do
  let name ← (member? "name" value).bind string?
  let value ← (member? "value" value).bind string?
  pure ⟨name, value⟩

def characteristics? (value : Value) : Option (List SavedOption) :=
  ((member? "characterstics" value).bind array?).bind fun items => items.mapM characteristic?

/-- The options of each variant; the server takes nothing else. -/
def variants? (value : Value) : Option (List (List SavedOption)) :=
  (array? value).bind fun items => items.mapM characteristics?

/-- The server has stored a product of the form, under its name and with the variants that the
text was read as. -/
def Saves (form : VariantForm) (name : String) (lists : List (List SavedOption)) : Prop :=
  form.name.value = some name ∧ ∃ text value, form.variantes = some text ∧
    parse? text = some value ∧ variants? value = some lists

/-- The product as the app loads it. -/
def loaded (name : String) (lists : List (List SavedOption)) : ProductOptions.Product (List ℕ) :=
  .ofLists (some (utf16 name.toList)) lists

/-- The saved product is loaded as one of the form's kind. -/
def KeepsKind (form : VariantForm) (name : String) (lists : List (List SavedOption)) : Prop :=
  ∃ set, ProductOptions.setProduct (loaded name lists) = some set ∧
    set.hasVariants = form.hasVariants

/-- The first option of a product with variants is not the product's name, and the first variant
has all names; the name of a product without variants needs no escape. -/
def KindHolds (form : VariantForm) (name : String) (lists : List (List SavedOption)) : Prop :=
  if form.hasVariants = true then
    ProductOptions.FirstNamesAll lists ∧ ∀ names ∈ lists.head?, ∀ option ∈ names.head?,
      option.value ≠ utf16 name.toList
  else Plain name.toList

/-! ## What the text of a product without variants is read as -/

theorem characteristic?_eq_some_iff {value : Value} {option : SavedOption} :
    characteristic? value = some option ↔
      member? "name" value = some (.string option.name) ∧
        member? "value" value = some (.string option.value) := by
  have string_iff : ∀ value content, string? value = some content ↔ value = .string content := by
    intro value content
    cases value <;> simp [string?]
  unfold characteristic?
  simp only [Option.bind_eq_bind, Option.bind_eq_some_iff, string_iff, Option.pure_def,
    Option.some.injEq]
  constructor
  · rintro ⟨name, ⟨_, named, rfl⟩, content, ⟨_, valued, rfl⟩, rfl⟩
    exact ⟨named, valued⟩
  · rintro ⟨named, valued⟩
    exact ⟨option.name, ⟨_, named, rfl⟩, option.value, ⟨_, valued, rfl⟩, rfl⟩

theorem mentions_of_member? {name : String} {value inner : Value} {content : List ℕ}
    (found : member? name value = some inner) (inside : inner.Mentions content) :
    value.Mentions content := by
  cases value with
  | object members =>
      obtain ⟨before, after, rfl, _⟩ := List.lookup_eq_some_iff.mp found
      exact .object (List.mem_append_right before List.mem_cons_self) inside
  | scalar value | string content | array items => cases found

/-- The values of the options are strings of the text. -/
theorem mentions_of_variants? {value : Value} {lists : List (List SavedOption)}
    (read : variants? value = some lists) {list : List SavedOption} (there : list ∈ lists)
    {option : SavedOption} (member : option ∈ list) : value.Mentions option.value := by
  have array_iff : ∀ value items, array? value = some items ↔ value = .array items := by
    intro value items
    cases value <;> simp [array?]
  obtain ⟨items, listed, read⟩ := Option.bind_eq_some_iff.mp read
  obtain ⟨variant, variant_there, read⟩ := exists_mem_of_mapM_eq_some read there
  obtain ⟨inner, found, read⟩ := Option.bind_eq_some_iff.mp read
  obtain ⟨array, held, isArray⟩ := Option.bind_eq_some_iff.mp found
  obtain ⟨item, item_there, read⟩ := exists_mem_of_mapM_eq_some read member
  have inside : array.Mentions option.value := by
    rw [(array_iff array inner).mp isArray]
    exact .array item_there (mentions_of_member? (characteristic?_eq_some_iff.mp read).2 .string)
  rw [(array_iff value items).mp listed]
  exact .array variant_there (mentions_of_member? held inside)

/-- The first option decides the kind. -/
theorem keepsKind_iff_first {form : VariantForm} {name : String}
    {lists : List (List SavedOption)} :
    KeepsKind form name lists ↔ ProductOptions.FirstNamesAll lists ∧
      ∀ names ∈ lists.head?, ∀ option ∈ names.head?,
        (option.value ≠ utf16 name.toList ↔ form.hasVariants = true) := by
  have kind_iff : ∀ option : SavedOption,
      decide (some option.value ≠ some (utf16 name.toList)) = form.hasVariants ↔
        (option.value ≠ utf16 name.toList ↔ form.hasVariants = true) := by
    intro option
    cases form.hasVariants <;> simp
  unfold KeepsKind loaded
  constructor
  · rintro ⟨set, isSet, same⟩
    refine ⟨(ProductOptions.setProduct_ofLists_isSome_iff _ _).mp ⟨set, isSet⟩, ?_⟩
    obtain ⟨names, first, filled, _, option, head, rfl⟩ :=
      ProductOptions.setProduct_ofLists_eq_some_iff.mp isSet
    intro others first' other head'
    cases first.symm.trans first'
    cases head.symm.trans head'
    exact (kind_iff option).mp same
  · rintro ⟨fits, kind⟩
    obtain ⟨set, isSet⟩ := (ProductOptions.setProduct_ofLists_isSome_iff _ _).mpr fits
    refine ⟨set, isSet, ?_⟩
    obtain ⟨names, first, filled, _, option, head, rfl⟩ :=
      ProductOptions.setProduct_ofLists_eq_some_iff.mp isSet
    exact (kind_iff option).mpr (kind names first option head)

/-- The text of a product without variants is read as the one variant it stands for, unless its
name needs an escape; then the name is not among the strings that are read. -/
theorem productToVariant_read {form : ProductCreationValidation} {name text : String}
    {value : Value} {lists : List (List SavedOption)} (counted : form.Counted)
    (named : form.name.value = some name) (built : form.productToVariant = some text)
    (parsed : parse? text = some value) (read : variants? value = some lists) :
    (Plain name.toList → lists = [[⟨key "option", utf16 name.toList⟩]]) ∧
      (value.Mentions (utf16 name.toList) → Plain name.toList) := by
  obtain ⟨price, priced, later⟩ := Option.bind_eq_some_iff.mp built
  obtain ⟨quantity, typed, _⟩ := Option.map_eq_some_iff.mp later
  obtain ⟨text', built', written⟩ := productToVariant_toList priced typed
  cases built.symm.trans built'
  obtain ⟨number, number?⟩ := Option.isSome_iff_exists.mp (counted quantity typed)
  obtain ⟨before, after, cut, white⟩ := trim_spec quantity.toList
  obtain ⟨chars, there⟩ := numberChars_of_tryParse number?
  rw [cut, named] at written
  have template := variant_template [productCharacteristic (some name)] (text_ne_nil price)
    (numberChars_text price.datum) (typed_template there chars white)
  have listed : text.toList = '[' :: ([','].intercalate ([()].map fun _ =>
      variantText [productCharacteristic (some name)] price.datum.text
        (before ++ (trim quantity.toList ++ after))) ++ [']']) := written
  have whole := Template.array listed fun _ _ => template
  have holes : ∀ Holds : List Char → Prop, Holds "option".toList → Holds name.toList →
      ∀ hole ∈ [()].flatMap fun _ : Unit =>
        [productCharacteristic (some name)].flatMap Characteristic.holes, Holds hole := by
    intro Holds option own hole member
    rw [List.flatMap_singleton, List.flatMap_singleton] at member
    rcases List.mem_cons.mp member with rfl | last
    · exact option
    · rw [List.mem_singleton.mp last]
      exact own
  have option : Plain "option".toList := by decide
  have denotes : Denotes _ (.array ([()].map fun _ => .object ((variantMembers
      [productCharacteristic (some name)] ((scalar? price.datum.text).getD .null)
        ((scalar? (trim quantity.toList)).getD .null)).map Member.pair))) :=
    denotes_array fun _ _ => variant_denotes _ _ _
  constructor
  · intro plain
    obtain ⟨_, _, rfl⟩ := (whole.parse?_eq_iff denotes (holes _ (fun notPlain =>
      absurd option notPlain) fun notPlain => absurd plain notPlain)).mp parsed
    exact Option.some.inj (read.symm.trans rfl)
  · intro mentioned
    obtain ⟨_, plain, _⟩ := (whole.parse?_eq_iff denotes (holes _ (fun notPlain =>
      absurd option notPlain) fun _ => mentioned)).mp parsed
    exact plain name.toList (List.mem_flatMap.mpr ⟨(), List.mem_singleton.mpr rfl,
      List.mem_flatMap.mpr ⟨_, List.mem_singleton.mpr rfl,
        List.mem_cons_of_mem _ (List.mem_singleton.mpr rfl)⟩⟩)

/-! ## What the text of the variants is read as -/

/-- An option as it was typed. -/
def Characteristic.saved (characteristic : Characteristic) : SavedOption :=
  ⟨key (interpolated characteristic.name), key (interpolated characteristic.value)⟩

theorem characteristic?_said {characteristic : Characteristic}
    (named : characteristic.name.isSome = true) (valued : characteristic.value.isSome = true) :
    characteristic? characteristic.said = some characteristic.saved := by
  obtain ⟨name, isName⟩ := Option.isSome_iff_exists.mp named
  obtain ⟨value, isValue⟩ := Option.isSome_iff_exists.mp valued
  rw [characteristic?_eq_some_iff, Characteristic.said, Characteristic.saved, isName, isValue]
  exact ⟨rfl, rfl⟩

theorem characteristics?_said {row : Row} (sayable : row.Sayable) :
    characteristics? row.said = some (row.characteristics.map Characteristic.saved) := by
  have found : (member? "characterstics" row.said).bind array? =
      some (row.characteristics.map Characteristic.said) := rfl
  rw [characteristics?, found, Option.bind_some, List.mapM_map]
  refine mapM_eq_some_map fun characteristic member => ?_
  obtain ⟨named, valued⟩ := sayable.1 characteristic member
  exact characteristic?_said ((insertable_iff _).mp named).2 ((insertable_iff _).mp valued).2

/-- What is typed without need of an escape is saved as it is typed. -/
theorem saves_iff_of_sayable {form : VariantForm} {name : String} {rows : List Row}
    (kind : form.hasVariants = true) (named : form.name.value = some name)
    (some_variant : form.variants ≠ [])
    (priced : form.variants.all (fun variant => variant.price.isSome) = true)
    (listed : form.variants.mapM ProductVariant.row? = some rows)
    (sayable : ∀ row ∈ rows, row.Sayable) (lists : List (List SavedOption)) :
    Saves form name lists ↔
      lists = rows.map fun row => row.characteristics.map Characteristic.saved := by
  have each : ∀ variant ∈ form.variants, variant.Sayable :=
    exists_mapM_iff.mp ⟨rows, listed, sayable⟩
  obtain ⟨text, value, built, said, parsed⟩ := (variantsFormData_tells_iff form.variants).mpr each
  rw [variantsSaid, listed] at said
  cases said
  have read : variants? (.array (rows.map Row.said)) =
      some (rows.map fun row => row.characteristics.map Characteristic.saved) := by
    rw [variants?, array?, Option.bind_some, List.mapM_map]
    exact mapM_eq_some_map fun row member => characteristics?_said (sayable row member)
  have written : form.variantes = some text := by
    rw [VariantForm.variantes, kind, if_neg fun both => Bool.false_ne_true both.2.symm,
      if_pos ⟨some_variant, rfl⟩, if_pos priced, built]
  constructor
  · rintro ⟨_, text', value', written', parsed', read'⟩
    cases written.symm.trans written'
    cases parsed.symm.trans parsed'
    exact (Option.some.inj (read.symm.trans read')).symm
  · rintro rfl
    exact ⟨named, text, _, written, parsed, read⟩

/-! ## The kind of a saved product -/

theorem keepsKind_iff {form : VariantForm} {name : String} {lists : List (List SavedOption)}
    (saved : Saves form name lists) : KeepsKind form name lists ↔ KindHolds form name lists := by
  rw [keepsKind_iff_first]
  unfold KindHolds
  cases kind : form.hasVariants with
  | true =>
      rw [if_pos rfl]
      refine and_congr_right fun _ => forall₂_congr fun names _ => forall₂_congr fun option _ => ?_
      exact iff_true_right rfl
  | false =>
      obtain ⟨named, text, value, written, parsed, read⟩ := saved
      have built : form.productToVariant = some text := by
        rw [VariantForm.variantes, kind] at written
        split at written
        case isTrue => exact written
        case isFalse =>
          rw [if_neg fun both => Bool.false_ne_true both.2] at written
          cases written
          cases parsed
      obtain ⟨alone, mentioned⟩ := productToVariant_read form.counted named built parsed read
      rw [if_neg Bool.false_ne_true]
      constructor
      · rintro ⟨⟨names, first, some_name, _⟩, kind⟩
        obtain ⟨option, rest, rfl⟩ := List.exists_cons_of_ne_nil some_name
        have same : option.value = utf16 name.toList :=
          not_not.mp fun other => Bool.false_ne_true ((kind _ first option rfl).mp other)
        refine mentioned (same ▸ mentions_of_variants? read (List.mem_of_mem_head? first) ?_)
        exact List.mem_cons_self
      · intro plain
        rw [alone plain]
        refine ⟨⟨_, rfl, List.cons_ne_nil _ _, fun option member => ?_⟩, ?_⟩
        · rw [List.flatten_singleton] at member
          exact List.mem_map_of_mem member
        · intro names first option head
          cases first
          cases head
          simp

/-- Both apps read the same options of a product, and a saved product is loaded as one of the
kind it was saved as, exactly under the two conditions. -/
theorem options_and_kind_iff (productName : Option (List ℕ)) (product : List (List SavedOption))
    {form : VariantForm} {name : String} {lists : List (List SavedOption)}
    (saved : Saves form name lists) :
    (ProductOptions.OptionsAgree (.ofLists productName product) ↔
      ProductOptions.FirstNamesAll product) ∧
    (KeepsKind form name lists ↔ KindHolds form name lists) :=
  ⟨ProductOptions.optionsAgree_iff productName product, keepsKind_iff saved⟩

/-! ## A color that is the product's name -/

def rugPrice : Binary64 := .round false 5 (by decide +kernel)

/-- The form of a rug that comes in one color. -/
def rugForm : VariantForm where
  name := ⟨some "Sand", none⟩
  description := ⟨some "A rug for the living room", none⟩
  price := ⟨none, none⟩
  quantity := ⟨some "0", none⟩
  hasVariants := true
  variants := [⟨some [some (.entry "Color" "Sand")], some rugPrice, some 1⟩]
  counted := counted_new

def rugOptions : List (List SavedOption) := [[⟨key "Color", key "Sand"⟩]]

theorem rug_saved : Saves rugForm "Sand" rugOptions := by
  have listed : rugForm.variants.mapM ProductVariant.row? =
      some [⟨[.entry "Color" "Sand"], some rugPrice, some 1⟩] := rfl
  refine (saves_iff_of_sayable rfl rfl (List.cons_ne_nil _ _) rfl listed ?_ _).mpr rfl
  rw [List.forall_mem_singleton]
  refine ⟨List.forall_mem_singleton.mpr ⟨⟨_, rfl, by decide⟩, ⟨_, rfl, by decide⟩⟩, ?_⟩
  rintro price same
  cases same
  decide +kernel

/-- The second variant has a name that the first one lacks. -/
def unlikeVariants : List (List SavedOption) :=
  [[⟨key "Color", key "Red"⟩], [⟨key "Size", key "M"⟩]]

theorem rug_options_and_kind_iff :
    (ProductOptions.OptionsAgree (.ofLists none unlikeVariants) ↔
      ProductOptions.FirstNamesAll unlikeVariants) ∧
    (KeepsKind rugForm "Sand" rugOptions ↔ KindHolds rugForm "Sand" rugOptions) :=
  options_and_kind_iff none unlikeVariants rug_saved

/-- A product whose variants differ in their names is not read, and one whose first option is
its own name is loaded as a product without variants. -/
theorem unlike_not_read_rug_not_kept :
    ¬ ProductOptions.OptionsAgree (.ofLists (some (key "Rug")) unlikeVariants) ∧
      Saves rugForm "Sand" rugOptions ∧ ¬ KeepsKind rugForm "Sand" rugOptions := by
  refine ⟨fun agree => ?_, rug_saved, fun kept => ?_⟩
  · obtain ⟨names, first, _, all⟩ := (ProductOptions.optionsAgree_iff _ _).mp agree
    cases first
    have missing := all ⟨key "Size", key "M"⟩ (by simp [unlikeVariants])
    exact absurd missing (by decide)
  · have differs := (keepsKind_iff_first.mp kept).2 _ rfl _ rfl
    exact differs.mpr rfl rfl

end Proximity.Apps.Commercant.ProductForm
