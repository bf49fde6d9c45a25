import Proximity.Apps.ProductOptions

/-!
# The variants that fit the chosen options

The client's app offers the values of `getCharacteristics` and keeps the variants that have all
the chosen ones.  Names and values come from the server untyped; `none` stands for one that is
no string.
-/

namespace Proximity.Apps.ProductOptions

open Proximity.Systems

variable {Text : Type} [DecidableEq Text]

/-! ## The service -/

/-- The chosen value of each name, in the order the names were chosen. -/
abbrev SelectedOptions (Text : Type) [DecidableEq Text] := Collection (MapEntry Text Text)

/-- `characteristics!.any` -/
def hasSelectedCharacteristic (listed : List (Characteristic (Option Text)))
    (entry : MapEntry Text Text) : Bool :=
  listed.any fun characteristic =>
    decide (characteristic.name = some entry.key) &&
      decide (characteristic.value = some entry.value)

/-- The loop over the chosen options, which ends at the first that is missing. -/
def hasAllSelected (listed : List (Characteristic (Option Text))) :
    List (MapEntry Text Text) → Bool
  | [] => true
  | entry :: rest =>
      if hasSelectedCharacteristic listed entry = false then false else hasAllSelected listed rest

def filterVariants (selectedOptions : Option (SelectedOptions Text))
    (variants : List (ProductVariant (Option Text))) : List (ProductVariant (Option Text)) :=
  match selectedOptions with
  | none => variants
  | some selectedOptions =>
      if selectedOptions.docs.isEmpty = true then variants
      else variants.filter fun variant =>
        match variant.characteristics with
        | some listed => hasAllSelected listed selectedOptions.docs
        | none => false

def addFilter (key value : Text) (selectedOptions : SelectedOptions Text) : SelectedOptions Text :=
  selectedOptions.put ⟨key, value⟩

def deleteFilter (key : Text) (selectedOptions : SelectedOptions Text) : SelectedOptions Text :=
  selectedOptions.delete key

/-- A turn of the inner loop; a missing name is not found, and what is stored must be a string. -/
def collect? (characteristics : Characteristics Text)
    (characteristic : Characteristic (Option Text)) : Option (Characteristics Text) :=
  match characteristic.name.bind characteristics.findById? with
  | none => do
      let name ← characteristic.name
      let value ← characteristic.value
      some (characteristics.put ⟨name, [value]⟩)
  | some entry =>
      if characteristic.value ∈ entry.values.map some then some characteristics
      else do
        let value ← characteristic.value
        some (characteristics.put ⟨entry.name, entry.values ++ [value]⟩)

/-- `getCharacteristics` on untyped names and values; `none` when it throws. -/
def getCharacteristics? (product : Product (Option Text)) : Option (Characteristics Text) := do
  let variants ← product.variants
  variants.foldlM (fun characteristics variant =>
    match variant.characteristics with
    | some listed => listed.foldlM collect? characteristics
    | none => some characteristics) Collection.empty

/-! ## Strings as the server sends them -/

def Characteristic.untyped (characteristic : Characteristic Text) :
    Characteristic (Option Text) :=
  ⟨some characteristic.name, some characteristic.value⟩

def ProductVariant.untyped (variant : ProductVariant Text) : ProductVariant (Option Text) :=
  ⟨variant.characteristics.map (List.map Characteristic.untyped)⟩

def Product.untyped (product : Product Text) : Product (Option Text) :=
  ⟨product.name.map some, product.variants.map (List.map ProductVariant.untyped)⟩

/-- What a product lists, variant by variant. -/
def listedBy (variants : List (ProductVariant Text)) : List (Characteristic Text) :=
  variants.flatMap fun variant => variant.characteristics.getD []

omit [DecidableEq Text] in
theorem listedBy_cons (variant : ProductVariant Text) (rest : List (ProductVariant Text)) :
    listedBy (variant :: rest) = variant.characteristics.getD [] ++ listedBy rest := rfl

/-- A turn ends exactly when name and value are strings. -/
theorem collect?_eq_some_iff {characteristics next : Characteristics Text}
    {characteristic : Characteristic (Option Text)} :
    collect? characteristics characteristic = some next ↔
      ∃ typed : Characteristic Text, typed.untyped = characteristic ∧
        collect characteristics typed = next := by
  obtain ⟨name, value⟩ := characteristic
  cases name with
  | none =>
      refine iff_of_false (Option.some_ne_none _).symm ?_
      rintro ⟨typed, same, _⟩
      cases same
  | some name =>
      cases value with
      | none =>
          have missing : ∀ values : List Text, (none : Option Text) ∉ values.map some := by
            intro values member
            obtain ⟨_, _, same⟩ := List.mem_map.mp member
            cases same
          refine iff_of_false ?_ ?_
          · rw [collect?, Option.bind_some]
            cases characteristics.findById? name with
            | none => exact (Option.some_ne_none _).symm
            | some entry =>
                dsimp only
                rw [if_neg (missing _)]
                exact (Option.some_ne_none _).symm
          · rintro ⟨typed, same, _⟩
            cases same
      | some value =>
          have turn : collect? characteristics ⟨some name, some value⟩ =
              some (collect characteristics ⟨name, value⟩) := by
            rw [collect?, collect, Option.bind_some]
            cases found : characteristics.findById? name with
            | none => rfl
            | some entry =>
                have named : entry.name = name := (Collection.findById?_eq_some_iff.mp found).2
                have listed : some value ∈ entry.values.map some ↔ value ∈ entry.values := by simp
                dsimp only
                rw [named, if_congr listed rfl rfl]
                split
                · rfl
                · rfl
          rw [turn, Option.some_inj]
          constructor
          · exact fun same => ⟨⟨name, value⟩, rfl, same⟩
          · rintro ⟨typed, same, collected⟩
            cases same
            exact collected

theorem foldlM_collect?_eq_some_iff {listed : List (Characteristic (Option Text))}
    {characteristics collected : Characteristics Text} :
    listed.foldlM collect? characteristics = some collected ↔
      ∃ typed : List (Characteristic Text), typed.map Characteristic.untyped = listed ∧
        typed.foldl collect characteristics = collected := by
  induction listed generalizing characteristics with
  | nil =>
      constructor
      · intro ended
        exact ⟨[], rfl, Option.some.inj ended⟩
      · rintro ⟨typed, same, rfl⟩
        rw [List.map_eq_nil_iff.mp same]
        rfl
  | cons characteristic rest ih =>
      rw [List.foldlM_cons, Option.bind_eq_bind, Option.bind_eq_some_iff]
      constructor
      · rintro ⟨next, turned, later⟩
        obtain ⟨first, rfl, rfl⟩ := collect?_eq_some_iff.mp turned
        obtain ⟨others, rfl, rfl⟩ := ih.mp later
        exact ⟨first :: others, rfl, rfl⟩
      · rintro ⟨typed, same, rfl⟩
        obtain ⟨first, others, rfl, rfl, rfl⟩ := List.map_eq_cons_iff.mp same
        exact ⟨_, collect?_eq_some_iff.mpr ⟨first, rfl, rfl⟩, ih.mpr ⟨others, rfl, rfl⟩⟩

/-- The two loops are one over all that is listed. -/
theorem foldlM_variants (variants : List (ProductVariant (Option Text)))
    (characteristics : Characteristics Text) :
    variants.foldlM (fun characteristics variant =>
        match variant.characteristics with
        | some listed => listed.foldlM collect? characteristics
        | none => some characteristics) characteristics =
      (listedBy variants).foldlM collect? characteristics := by
  induction variants generalizing characteristics with
  | nil => rfl
  | cons variant rest ih =>
      rw [List.foldlM_cons, listedBy_cons, List.foldlM_append]
      cases variant.characteristics with
      | none => exact ih characteristics
      | some listed => exact bind_congr fun middle => ih middle

/-- The options are listed exactly when all names and values are strings; they are then those of
the strings. -/
theorem getCharacteristics?_eq_some_iff {product : Product (Option Text)}
    {collected : Characteristics Text} :
    getCharacteristics? product = some collected ↔ ∃ variants, product.variants = some variants ∧
      ∃ typed : List (Characteristic Text), typed.map Characteristic.untyped = listedBy variants ∧
        typed.foldl collect Collection.empty = collected := by
  rw [getCharacteristics?, Option.bind_eq_bind, Option.bind_eq_some_iff]
  simp only [foldlM_variants, foldlM_collect?_eq_some_iff]

omit [DecidableEq Text] in
theorem listedBy_untyped (variants : List (ProductVariant Text)) :
    listedBy (variants.map ProductVariant.untyped) =
      (listedBy variants).map Characteristic.untyped := by
  induction variants with
  | nil => rfl
  | cons variant rest ih =>
      rw [List.map_cons, listedBy_cons, ih, listedBy_cons, List.map_append, ProductVariant.untyped]
      cases variant.characteristics with
      | none => rfl
      | some listed => rfl

theorem foldl_variants (variants : List (ProductVariant Text))
    (characteristics : Characteristics Text) :
    variants.foldl (fun characteristics variant =>
        match variant.characteristics with
        | some listed => listed.foldl collect characteristics
        | none => characteristics) characteristics =
      (listedBy variants).foldl collect characteristics := by
  induction variants generalizing characteristics with
  | nil => rfl
  | cons variant rest ih =>
      rw [List.foldl_cons, listedBy_cons, List.foldl_append]
      cases variant.characteristics with
      | none => exact ih characteristics
      | some listed => exact ih _

/-- On strings nothing throws. -/
theorem getCharacteristics?_untyped (product : Product Text) :
    getCharacteristics? product.untyped = getCharacteristics product := by
  cases sold : product.variants with
  | none =>
      rw [getCharacteristics?, Product.untyped, getCharacteristics, sold]
      rfl
  | some variants =>
      have listed : getCharacteristics product =
          some ((listedBy variants).foldl collect Collection.empty) := by
        rw [getCharacteristics, sold, Option.map_some]
        exact congrArg some (foldl_variants variants Collection.empty)
      rw [listed]
      refine getCharacteristics?_eq_some_iff.mpr ⟨variants.map ProductVariant.untyped, ?_, ?_⟩
      · rw [Product.untyped, sold]
        rfl
      · exact ⟨listedBy variants, (listedBy_untyped variants).symm, rfl⟩

/-! ## What is listed -/

theorem mem_addOnce {values : List Text} {value added : Text} :
    value ∈ addOnce values added ↔ value ∈ values ∨ value = added := by
  unfold addOnce
  split
  case isTrue known => exact ⟨Or.inl, Or.rec id fun same => same ▸ known⟩
  case isFalse => rw [List.mem_append, List.mem_singleton]

theorem nodup_addOnce {values : List Text} (once : values.Nodup) (added : Text) :
    (addOnce values added).Nodup := by
  unfold addOnce
  split
  case isTrue => exact once
  case isFalse fresh =>
    rw [← List.concat_eq_append]
    exact once.concat fresh

theorem mem_foldl_addOnce {values added : List Text} {value : Text} :
    value ∈ added.foldl addOnce values ↔ value ∈ values ∨ value ∈ added := by
  induction added generalizing values with
  | nil => rw [List.foldl_nil, or_iff_left List.not_mem_nil]
  | cons first rest ih => rw [List.foldl_cons, ih, mem_addOnce, or_assoc, List.mem_cons]

theorem nodup_foldl_addOnce {values : List Text} (once : values.Nodup) (added : List Text) :
    (added.foldl addOnce values).Nodup := by
  induction added generalizing values with
  | nil => exact once
  | cons first rest ih => exact ih (nodup_addOnce once first)

theorem mem_valuesOf {name value : Text} {listed : List (Characteristic Text)} :
    value ∈ valuesOf name listed ↔ ⟨name, value⟩ ∈ listed := by
  rw [valuesOf, List.mem_map]
  constructor
  · rintro ⟨characteristic, member, rfl⟩
    obtain ⟨there, named⟩ := List.mem_filter.mp member
    rw [← of_decide_eq_true named]
    exact there
  · exact fun member => ⟨_, List.mem_filter.mpr ⟨member, decide_eq_true rfl⟩, rfl⟩

/-- Under each name every value of it stands once. -/
theorem mem_foldl_collect {listed : List (Characteristic Text)} {entry : Values Text}
    (member : entry ∈ (listed.foldl collect Collection.empty).docs) :
    entry.values.Nodup ∧ ∀ value, value ∈ entry.values ↔ ⟨entry.name, value⟩ ∈ listed := by
  have found : (listed.foldl collect Collection.empty).findById? entry.name = some entry :=
    Collection.findById?_eq_some_iff.mpr ⟨member, rfl⟩
  rw [findById?_foldl_collect] at found
  split at found
  case isTrue =>
    have values : (valuesOf entry.name listed).foldl addOnce [] = entry.values :=
      congrArg Values.values (Option.some.inj found)
    rw [← values]
    refine ⟨nodup_foldl_addOnce List.nodup_nil _, fun value => ?_⟩
    rw [mem_foldl_addOnce, or_iff_right List.not_mem_nil, mem_valuesOf]
  case isFalse => cases found

/-! ## What is kept -/

/-- The chosen options, none of them without a map. -/
def chosen (selectedOptions : Option (SelectedOptions Text)) : List (MapEntry Text Text) :=
  (selectedOptions.map Collection.docs).getD []

/-- The option is among the variant's characteristics. -/
def ProductVariant.Offers (variant : ProductVariant (Option Text)) (option : MapEntry Text Text) :
    Prop :=
  ⟨some option.key, some option.value⟩ ∈ variant.characteristics.getD []

instance (variant : ProductVariant (Option Text)) (option : MapEntry Text Text) :
    Decidable (variant.Offers option) :=
  inferInstanceAs (Decidable (_ ∈ _))

theorem hasSelectedCharacteristic_iff {listed : List (Characteristic (Option Text))}
    {entry : MapEntry Text Text} :
    hasSelectedCharacteristic listed entry = true ↔
      ⟨some entry.key, some entry.value⟩ ∈ listed := by
  rw [hasSelectedCharacteristic, List.any_eq_true]
  constructor
  · rintro ⟨⟨name, value⟩, member, both⟩
    obtain ⟨named, valued⟩ := Bool.and_eq_true_iff.mp both
    cases of_decide_eq_true named
    cases of_decide_eq_true valued
    exact member
  · intro member
    exact ⟨_, member, Bool.and_eq_true_iff.mpr ⟨decide_eq_true rfl, decide_eq_true rfl⟩⟩

theorem hasAllSelected_iff {listed : List (Characteristic (Option Text))}
    {entries : List (MapEntry Text Text)} :
    hasAllSelected listed entries = true ↔
      ∀ entry ∈ entries, hasSelectedCharacteristic listed entry = true := by
  induction entries with
  | nil => exact iff_of_true rfl (List.forall_mem_nil _)
  | cons entry rest ih =>
      rw [hasAllSelected, List.forall_mem_cons, ← ih]
      cases hasSelectedCharacteristic listed entry with
      | false => exact iff_of_false Bool.false_ne_true fun both => Bool.false_ne_true both.1
      | true => exact (and_iff_right rfl).symm

theorem filterVariants_eq_filter (selectedOptions : Option (SelectedOptions Text))
    (variants : List (ProductVariant (Option Text))) :
    filterVariants selectedOptions variants = variants.filter fun variant =>
      decide (∀ option ∈ chosen selectedOptions, variant.Offers option) := by
  cases selectedOptions with
  | none => exact (List.filter_eq_self.mpr fun _ _ => decide_eq_true (List.forall_mem_nil _)).symm
  | some selectedOptions =>
      rw [filterVariants, chosen, Option.map_some, Option.getD_some]
      cases docs : selectedOptions.docs with
      | nil =>
          exact (List.filter_eq_self.mpr fun _ _ => decide_eq_true (List.forall_mem_nil _)).symm
      | cons first rest =>
          refine List.filter_congr fun variant _ => Bool.eq_iff_iff.mpr ?_
          rw [decide_eq_true_iff]
          unfold ProductVariant.Offers
          cases variant.characteristics with
          | none =>
              refine iff_of_false Bool.false_ne_true fun all => ?_
              exact absurd (all first List.mem_cons_self) List.not_mem_nil
          | some listed =>
              rw [Option.getD_some, hasAllSelected_iff]
              exact forall₂_congr fun entry _ => hasSelectedCharacteristic_iff

/-- More options keep fewer variants. -/
theorem filterVariants_sublist {fewer more : Option (SelectedOptions Text)}
    (added : chosen fewer ⊆ chosen more) (variants : List (ProductVariant (Option Text))) :
    (filterVariants more variants).Sublist (filterVariants fewer variants) := by
  rw [filterVariants_eq_filter, filterVariants_eq_filter]
  refine List.monotone_filter_right variants fun variant kept => decide_eq_true ?_
  exact fun option member => of_decide_eq_true kept option (added member)

theorem filterVariants_congr {first second : Option (SelectedOptions Text)}
    (same : ∀ option, option ∈ chosen first ↔ option ∈ chosen second)
    (variants : List (ProductVariant (Option Text))) :
    filterVariants first variants = filterVariants second variants := by
  rw [filterVariants_eq_filter, filterVariants_eq_filter]
  refine List.filter_congr fun variant _ => decide_eq_decide.mpr ?_
  exact forall_congr' fun option => by rw [same option]

/-- A further name only takes variants away. -/
theorem filterVariants_addFilter {key : Text} (value : Text)
    {selectedOptions : SelectedOptions Text} (fresh : selectedOptions.findById? key = none)
    (variants : List (ProductVariant (Option Text))) :
    (filterVariants (some (addFilter key value selectedOptions)) variants).Sublist
      (filterVariants (some selectedOptions) variants) := by
  refine filterVariants_sublist (fun option member => ?_) variants
  refine Collection.mem_put.mpr (Or.inl ⟨member, ?_⟩)
  exact Collection.findById?_eq_none_iff.mp fresh option member

theorem filterVariants_deleteFilter (key : Text) (selectedOptions : SelectedOptions Text)
    (variants : List (ProductVariant (Option Text))) :
    (filterVariants (some selectedOptions) variants).Sublist
      (filterVariants (some (deleteFilter key selectedOptions)) variants) :=
  filterVariants_sublist (fun _ member => (Collection.mem_delete.mp member).1) variants

/-! ## The filter and the options it is offered -/

/-- The filter keeps, in their order, the variants that offer all that is chosen. -/
structure Filters (variants : List (ProductVariant (Option Text))) : Prop where
  exact_filter : ∀ selectedOptions, filterVariants selectedOptions variants =
    variants.filter fun variant => decide (∀ option ∈ chosen selectedOptions, variant.Offers option)
  shrinks : ∀ fewer more, chosen fewer ⊆ chosen more →
    (filterVariants more variants).Sublist (filterVariants fewer variants)
  unordered : ∀ first second, (chosen first).Perm (chosen second) →
    filterVariants first variants = filterVariants second variants

/-- Each value stands once under its name, and some variant is left when it is chosen. -/
structure Selectable (variants : List (ProductVariant (Option Text)))
    (collected : Characteristics Text) : Prop where
  once : ∀ entry ∈ collected.docs, entry.values.Nodup
  keeps : ∀ entry ∈ collected.docs, ∀ value ∈ entry.values,
    filterVariants (some (addFilter entry.name value Collection.empty)) variants ≠ []

theorem filters (variants : List (ProductVariant (Option Text))) : Filters variants where
  exact_filter selectedOptions := filterVariants_eq_filter selectedOptions variants
  shrinks _ _ added := filterVariants_sublist added variants
  unordered _ _ permuted := filterVariants_congr (fun _ => permuted.mem_iff) variants

/-- A value that some variant lists leaves this variant. -/
theorem filterVariants_ne_nil {variants : List (ProductVariant (Option Text))} {name value : Text}
    (listed : (⟨some name, some value⟩ : Characteristic (Option Text)) ∈ listedBy variants) :
    filterVariants (some (addFilter name value Collection.empty)) variants ≠ [] := by
  obtain ⟨variant, sold, member⟩ := List.mem_flatMap.mp listed
  rw [filterVariants_eq_filter]
  refine List.ne_nil_of_mem (List.mem_filter.mpr ⟨sold, decide_eq_true ?_⟩)
  exact List.forall_mem_singleton.mpr member

theorem selectable {product : Product (Option Text)} {collected : Characteristics Text}
    (listed : getCharacteristics? product = some collected) :
    Selectable (product.variants.getD []) collected := by
  obtain ⟨variants, sold, typed, same, rfl⟩ := getCharacteristics?_eq_some_iff.mp listed
  rw [sold, Option.getD_some]
  constructor
  case once => exact fun entry member => (mem_foldl_collect member).1
  case keeps =>
    intro entry member value valued
    refine filterVariants_ne_nil ?_
    rw [← same]
    exact List.mem_map_of_mem (((mem_foldl_collect member).2 value).mp valued)

/-- The options that a product lists can be chosen, and the filter keeps what has them. -/
theorem filters_and_selectable (product : Product (Option Text)) :
    Filters (product.variants.getD []) ∧
      ∀ collected, getCharacteristics? product = some collected →
        Selectable (product.variants.getD []) collected :=
  ⟨filters _, fun _ listed => selectable listed⟩

/-- Three variants, one without options. -/
def shirts : Product (Option String) where
  name := some (some "shirt")
  variants := some [⟨some [⟨some "size", some "S"⟩, ⟨some "colour", some "red"⟩]⟩, ⟨none⟩,
    ⟨some [⟨some "size", some "M"⟩, ⟨some "colour", some "red"⟩]⟩]

/-- The sizes and the colour are listed, and some shirt is left for each of them. -/
theorem shirts_filters_and_selectable :
    (∃ collected, getCharacteristics? shirts = some collected ∧
      collected.docs = [⟨"size", ["S", "M"]⟩, ⟨"colour", ["red"]⟩] ∧
        Selectable (shirts.variants.getD []) collected) ∧
      Filters (shirts.variants.getD []) := by
  obtain ⟨filters, selectable⟩ := filters_and_selectable shirts
  exact ⟨⟨_, rfl, rfl, selectable _ rfl⟩, filters⟩

end Proximity.Apps.ProductOptions
