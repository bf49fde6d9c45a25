import Mathlib.Data.List.Flatten
import Proximity.Systems.Collection

/-!
# The options of a product in the two apps

Each variant of a product lists the name and the value of its options.  The client's app and
the merchant's collect the values of every name, each in its own way.
-/

namespace Proximity.Apps.ProductOptions

open Proximity.Systems

variable {Text : Type} [DecidableEq Text]

structure Characteristic (Text : Type) where
  name : Text
  value : Text
  deriving DecidableEq, Repr

structure ProductVariant (Text : Type) where
  characteristics : Option (List (Characteristic Text))
  deriving DecidableEq, Repr

structure Product (Text : Type) where
  name : Option Text
  variants : Option (List (ProductVariant Text))
  deriving DecidableEq, Repr

/-- The values of a name, as they were added. -/
structure Values (Text : Type) where
  name : Text
  values : List Text
  deriving DecidableEq, Repr

instance : Document (Values Text) Text := ⟨Values.name⟩

/-- A map from names to values, in the order the names came in. -/
abbrev Characteristics (Text : Type) [DecidableEq Text] := Collection (Values Text)

/-- `Set.add`, and the list of the client's app, which looks for the value first. -/
def addOnce (values : List Text) (value : Text) : List Text :=
  if value ∈ values then values else values ++ [value]

/-! ## The client's app -/

def collect (characteristics : Characteristics Text) (characteristic : Characteristic Text) :
    Characteristics Text :=
  match characteristics.findById? characteristic.name with
  | none => characteristics.put ⟨characteristic.name, [characteristic.value]⟩
  | some entry =>
      if characteristic.value ∈ entry.values then characteristics
      else characteristics.put ⟨characteristic.name, entry.values ++ [characteristic.value]⟩

/-- `none` when `variants!` throws. -/
def getCharacteristics (product : Product Text) : Option (Characteristics Text) :=
  product.variants.map fun variants =>
    variants.foldl (fun characteristics variant =>
      match variant.characteristics with
      | some listed => listed.foldl collect characteristics
      | none => characteristics) Collection.empty

/-! ## The merchant's app -/

/-- The part of the merchant's form that is made of the product's variants. -/
structure ProductCreationValidation (Text : Type) [DecidableEq Text] where
  characteristics : Characteristics Text
  hasVariants : Bool
  variants : List (ProductVariant Text)

def seed (characteristics : Characteristics Text) (characteristic : Characteristic Text) :
    Characteristics Text :=
  characteristics.put ⟨characteristic.name, []⟩

/-- `characteristics[name]!.add(value)` -/
def addValue? (characteristics : Characteristics Text) (characteristic : Characteristic Text) :
    Option (Characteristics Text) :=
  (characteristics.findById? characteristic.name).map fun entry =>
    characteristics.put ⟨characteristic.name, addOnce entry.values characteristic.value⟩

/-- The names are those of the first variant; without a variant, without a characteristic of
the first one, and on a name the first one lacks, the app throws. -/
def setProduct (product : Product Text) : Option (ProductCreationValidation Text) :=
  match product.variants with
  | none => some ⟨Collection.empty, false, []⟩
  | some variants => do
      let first ← variants.head?
      let names ← first.characteristics
      let characteristics ← variants.foldlM (fun characteristics variant => do
        let listed ← variant.characteristics
        listed.foldlM addValue? characteristics) (names.foldl seed Collection.empty)
      let option ← names.head?
      pure ⟨characteristics, decide (some option.value ≠ product.name), variants⟩

/-! ## A product of lists -/

/-- A product whose variants all list their characteristics. -/
def Product.ofLists (name : Option Text) (lists : List (List (Characteristic Text))) :
    Product Text :=
  ⟨name, some (lists.map fun list => ⟨some list⟩)⟩

theorem getCharacteristics_ofLists (name : Option Text)
    (lists : List (List (Characteristic Text))) :
    getCharacteristics (.ofLists name lists) =
      some (lists.flatten.foldl collect Collection.empty) := by
  rw [getCharacteristics, Product.ofLists, Option.map_some, List.foldl_map, List.foldl_flatten]

/-- The loop over the variants is one loop over their characteristics. -/
theorem foldlM_ofLists (lists : List (List (Characteristic Text)))
    (characteristics : Characteristics Text) :
    (lists.map fun list => (⟨some list⟩ : ProductVariant Text)).foldlM
        (fun characteristics variant => do
          let listed ← variant.characteristics
          listed.foldlM addValue? characteristics) characteristics =
      lists.flatten.foldlM addValue? characteristics := by
  induction lists generalizing characteristics with
  | nil => rfl
  | cons list rest ih =>
      rw [List.map_cons, List.foldlM_cons, List.flatten_cons, List.foldlM_append]
      exact bind_congr fun middle => ih middle

theorem setProduct_ofLists (name : Option Text) (lists : List (List (Characteristic Text))) :
    setProduct (.ofLists name lists) = (lists.head?.bind fun names =>
      (lists.flatten.foldlM addValue? (names.foldl seed Collection.empty)).bind fun filled =>
        names.head?.map fun option =>
          ⟨filled, decide (some option.value ≠ name), lists.map fun list => ⟨some list⟩⟩) := by
  cases lists with
  | nil => rfl
  | cons names rest =>
      rw [List.head?_cons, Option.bind_some, ← foldlM_ofLists]
      unfold setProduct Product.ofLists
      cases names with
      | nil => rfl
      | cons option others => rfl

/-! ## What the loops collect -/

/-- The values that some characteristics have under a name. -/
def valuesOf (name : Text) (listed : List (Characteristic Text)) : List Text :=
  (listed.filter fun characteristic => decide (characteristic.name = name)).map
    Characteristic.value

theorem valuesOf_eq_nil_iff {name : Text} {listed : List (Characteristic Text)} :
    valuesOf name listed = [] ↔ name ∉ listed.map Characteristic.name := by
  simp [valuesOf, List.filter_eq_nil_iff]

theorem valuesOf_cons_of_eq {name : Text} {characteristic : Characteristic Text}
    (same : characteristic.name = name) (listed : List (Characteristic Text)) :
    valuesOf name (characteristic :: listed) = characteristic.value :: valuesOf name listed := by
  simp [valuesOf, same]

theorem valuesOf_cons_of_ne {name : Text} {characteristic : Characteristic Text}
    (other : characteristic.name ≠ name) (listed : List (Characteristic Text)) :
    valuesOf name (characteristic :: listed) = valuesOf name listed := by
  simp [valuesOf, other]

/-- What is found under a name carries the name. -/
theorem eq_of_findById? {characteristics : Characteristics Text} {name : Text}
    {entry : Values Text} (found : characteristics.findById? name = some entry) :
    entry = ⟨name, entry.values⟩ := by
  obtain ⟨_, rfl⟩ := Collection.findById?_eq_some_iff.mp found
  rfl

/-- The values that are stored under a name, none without the name. -/
def stored (characteristics : Characteristics Text) (name : Text) : List Text :=
  ((characteristics.findById? name).map Values.values).getD []

theorem findById?_collect (characteristics : Characteristics Text)
    (characteristic : Characteristic Text) (name : Text) :
    (collect characteristics characteristic).findById? name =
      if name = characteristic.name then
        some ⟨name, addOnce (stored characteristics name) characteristic.value⟩
      else characteristics.findById? name := by
  unfold collect
  cases found : characteristics.findById? characteristic.name with
  | none =>
      rw [Collection.findById?_put]
      refine ite_congr rfl (fun same => ?_) fun _ => rfl
      rw [same, stored, found]
      rfl
  | some entry =>
      have kept := eq_of_findById? found
      by_cases known : characteristic.value ∈ entry.values
      · dsimp only
        rw [if_pos known]
        split
        case isTrue same =>
          rw [same, found, stored, found, Option.map_some, Option.getD_some, addOnce,
            if_pos known]
          exact congrArg some kept
        case isFalse => rfl
      · dsimp only
        rw [if_neg known, Collection.findById?_put]
        refine ite_congr rfl (fun same => ?_) fun _ => rfl
        rw [same, stored, found, Option.map_some, Option.getD_some, addOnce, if_neg known]

theorem findById?_foldl_collect (listed : List (Characteristic Text))
    (characteristics : Characteristics Text) (name : Text) :
    (listed.foldl collect characteristics).findById? name =
      if name ∈ listed.map Characteristic.name then
        some ⟨name, (valuesOf name listed).foldl addOnce (stored characteristics name)⟩
      else characteristics.findById? name := by
  induction listed generalizing characteristics with
  | nil => rfl
  | cons characteristic rest ih =>
      rw [List.foldl_cons, ih, List.map_cons]
      by_cases same : characteristic.name = name
      · have here : (collect characteristics characteristic).findById? name =
            some ⟨name, addOnce (stored characteristics name) characteristic.value⟩ :=
          (findById?_collect characteristics characteristic name).trans (if_pos same.symm)
        have next : stored (collect characteristics characteristic) name =
            addOnce (stored characteristics name) characteristic.value := by
          rw [stored, here]
          rfl
        rw [if_pos (List.mem_cons.mpr (Or.inl same.symm)), valuesOf_cons_of_eq same,
          List.foldl_cons, here, next]
        split
        case isTrue => rfl
        case isFalse absent => rw [valuesOf_eq_nil_iff.mpr absent, List.foldl_nil]
      · have here : (collect characteristics characteristic).findById? name =
            characteristics.findById? name :=
          (findById?_collect characteristics characteristic name).trans
            (if_neg fun equal => same equal.symm)
        rw [valuesOf_cons_of_ne same, stored, here]
        exact if_congr (by rw [List.mem_cons, or_iff_right fun equal => same equal.symm]) rfl rfl

theorem findById?_foldl_seed (names : List (Characteristic Text))
    (characteristics : Characteristics Text) (name : Text) :
    (names.foldl seed characteristics).findById? name =
      if name ∈ names.map Characteristic.name then some ⟨name, []⟩
      else characteristics.findById? name := by
  induction names generalizing characteristics with
  | nil => rfl
  | cons characteristic rest ih =>
      rw [List.foldl_cons, ih, seed, Collection.findById?_put, List.map_cons]
      by_cases later : name ∈ rest.map Characteristic.name
      · rw [if_pos later, if_pos (List.mem_cons_of_mem _ later)]
      · rw [if_neg later]
        refine ite_congr ?_ (fun same => ?_) fun _ => rfl
        · rw [List.mem_cons, or_iff_left later]
          rfl
        · rw [(List.mem_cons.mp same).resolve_right later]

theorem findById?_addValue? {characteristics next : Characteristics Text}
    {characteristic : Characteristic Text}
    (added : addValue? characteristics characteristic = some next) (name : Text) :
    next.findById? name = (characteristics.findById? name).map fun entry =>
      ⟨name, (valuesOf name [characteristic]).foldl addOnce entry.values⟩ := by
  obtain ⟨entry, found, rfl⟩ := Option.map_eq_some_iff.mp added
  rw [Collection.findById?_put]
  split
  case isTrue same =>
    have here : characteristics.findById? name = some entry := (congrArg _ same).trans found
    rw [here, Option.map_some, valuesOf_cons_of_eq (Eq.symm same)]
    exact congrArg (fun name => some (⟨name, _⟩ : Values Text)) (Eq.symm same)
  case isFalse other =>
    rw [valuesOf_cons_of_ne (Ne.symm other)]
    cases kept : characteristics.findById? name with
    | none => rfl
    | some before => exact congrArg some (eq_of_findById? kept)

/-- The values are added to the names that are there. -/
theorem findById?_foldlM_addValue? {listed : List (Characteristic Text)}
    {characteristics filled : Characteristics Text}
    (added : listed.foldlM addValue? characteristics = some filled) (name : Text) :
    filled.findById? name = (characteristics.findById? name).map fun entry =>
      ⟨name, (valuesOf name listed).foldl addOnce entry.values⟩ := by
  induction listed generalizing characteristics with
  | nil =>
      rw [← Option.some_inj.mp added]
      cases kept : characteristics.findById? name with
      | none => rfl
      | some before => exact congrArg some (eq_of_findById? kept)
  | cons characteristic rest ih =>
      rw [List.foldlM_cons] at added
      obtain ⟨next, first, later⟩ := Option.bind_eq_some_iff.mp added
      rw [ih later, findById?_addValue? first, Option.map_map]
      refine congrArg (fun change => Option.map change _) (funext fun entry => ?_)
      by_cases same : characteristic.name = name
      · rw [valuesOf_cons_of_eq same, Function.comp_apply, valuesOf_cons_of_eq same]
        rfl
      · rw [valuesOf_cons_of_ne same, Function.comp_apply, valuesOf_cons_of_ne same]
        rfl

/-- Every value is added exactly when every name is there. -/
theorem foldlM_addValue?_isSome_iff {listed : List (Characteristic Text)}
    {characteristics : Characteristics Text} :
    (listed.foldlM addValue? characteristics).isSome = true ↔
      ∀ characteristic ∈ listed,
        (characteristics.findById? characteristic.name).isSome = true := by
  induction listed generalizing characteristics with
  | nil => exact iff_of_true rfl (List.forall_mem_nil _)
  | cons characteristic rest ih =>
      rw [List.foldlM_cons, List.forall_mem_cons]
      cases added : addValue? characteristics characteristic with
      | none =>
          have missing := Option.map_eq_none_iff.mp added
          rw [missing]
          exact iff_of_false Bool.false_ne_true fun both => Bool.false_ne_true both.1
      | some next =>
          obtain ⟨entry, found, _⟩ := Option.map_eq_some_iff.mp added
          rw [Option.bind_eq_bind, Option.bind_some, ih, found, and_iff_right Option.isSome_some]
          refine forall₂_congr fun other _ => ?_
          rw [findById?_addValue? added, Option.isSome_map]

/-! ## Both apps on one product -/

/-- The merchant's app reads the product, and finds under every name the values that the
client's app lists. -/
def OptionsAgree (product : Product Text) : Prop :=
  ∃ form listed, setProduct product = some form ∧ getCharacteristics product = some listed ∧
    ∀ name, form.characteristics.findById? name = listed.findById? name

/-- There is a first variant, it has an option, and it has the names of all others. -/
def FirstNamesAll (lists : List (List (Characteristic Text))) : Prop :=
  ∃ names ∈ lists.head?, names ≠ [] ∧
    ∀ characteristic ∈ lists.flatten, characteristic.name ∈ names.map Characteristic.name

theorem seeded_isSome_iff (names : List (Characteristic Text)) (name : Text) :
    ((names.foldl seed Collection.empty).findById? name).isSome = true ↔
      name ∈ names.map Characteristic.name := by
  rw [findById?_foldl_seed]
  split
  case isTrue here => exact iff_of_true rfl here
  case isFalse absent => exact iff_of_false Bool.false_ne_true absent

/-- The form that a product is read into, and what it asks of the product. -/
theorem setProduct_ofLists_eq_some_iff {name : Option Text}
    {lists : List (List (Characteristic Text))} {form : ProductCreationValidation Text} :
    setProduct (.ofLists name lists) = some form ↔ ∃ names ∈ lists.head?,
      ∃ filled, lists.flatten.foldlM addValue? (names.foldl seed Collection.empty) = some filled ∧
        ∃ option ∈ names.head?, ⟨filled, decide (some option.value ≠ name),
          lists.map fun list => ⟨some list⟩⟩ = form := by
  rw [setProduct_ofLists]
  simp only [Option.bind_eq_some_iff, Option.map_eq_some_iff, Option.mem_def]

theorem setProduct_ofLists_isSome_iff (name : Option Text)
    (lists : List (List (Characteristic Text))) :
    (∃ form, setProduct (.ofLists name lists) = some form) ↔ FirstNamesAll lists := by
  simp only [setProduct_ofLists_eq_some_iff]
  constructor
  · rintro ⟨form, names, first, filled, added, option, here, rfl⟩
    refine ⟨names, first, List.ne_nil_of_mem (List.mem_of_mem_head? here), ?_⟩
    have found := foldlM_addValue?_isSome_iff.mp (Option.isSome_iff_exists.mpr ⟨filled, added⟩)
    exact fun characteristic member =>
      (seeded_isSome_iff names _).mp (found characteristic member)
  · rintro ⟨names, first, some_name, all⟩
    obtain ⟨filled, added⟩ : ∃ filled,
        lists.flatten.foldlM addValue? (names.foldl seed Collection.empty) = some filled :=
      Option.isSome_iff_exists.mp (foldlM_addValue?_isSome_iff.mpr fun characteristic member =>
        (seeded_isSome_iff names _).mpr (all characteristic member))
    obtain ⟨option, rest, rfl⟩ := List.exists_cons_of_ne_nil some_name
    exact ⟨_, _, first, filled, added, option, rfl, rfl⟩

/-- What the merchant's app finds under a name is what the client's app lists. -/
theorem characteristics_eq_of_setProduct {name : Option Text}
    {lists : List (List (Characteristic Text))} {form : ProductCreationValidation Text}
    (set : setProduct (.ofLists name lists) = some form) (key : Text) :
    form.characteristics.findById? key =
      (lists.flatten.foldl collect Collection.empty).findById? key := by
  obtain ⟨others, first', _, all⟩ := (setProduct_ofLists_isSome_iff name lists).mp ⟨form, set⟩
  obtain ⟨names, first, filled, added, option, _, rfl⟩ := setProduct_ofLists_eq_some_iff.mp set
  rw [Option.some.inj (first'.symm.trans first)] at all
  have listed_iff : key ∈ names.map Characteristic.name ↔
      key ∈ lists.flatten.map Characteristic.name := by
    constructor
    · intro member
      obtain ⟨characteristic, there, rfl⟩ := List.mem_map.mp member
      exact List.mem_map_of_mem
        (List.mem_flatten.mpr ⟨names, List.mem_of_mem_head? first, there⟩)
    · intro member
      obtain ⟨characteristic, there, rfl⟩ := List.mem_map.mp member
      exact all characteristic there
  rw [findById?_foldlM_addValue? added, findById?_foldl_seed, findById?_foldl_collect]
  refine Eq.trans ?_ (if_congr listed_iff rfl rfl)
  split <;> rfl

/-- The apps agree on a product exactly when its first variant has an option and has the names
of all variants. -/
theorem optionsAgree_iff (name : Option Text) (lists : List (List (Characteristic Text))) :
    OptionsAgree (.ofLists name lists) ↔ FirstNamesAll lists := by
  rw [← setProduct_ofLists_isSome_iff name lists]
  constructor
  · rintro ⟨form, _, set, _⟩
    exact ⟨form, set⟩
  · rintro ⟨form, set⟩
    exact ⟨form, _, set, getCharacteristics_ofLists name lists,
      characteristics_eq_of_setProduct set⟩

end Proximity.Apps.ProductOptions
