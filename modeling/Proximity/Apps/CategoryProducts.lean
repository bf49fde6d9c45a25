import Proximity.Apps.StoreForm
import Proximity.Systems.Run

/-!
# Categories with products

On the screen of a store's categories a category or a sub-category with products is not
deselected by itself.  The operations that change several selections at once do not all look
at the products of what they change.
-/

namespace Proximity.Apps.Commercant.StoreForm

open Proximity.Systems

def HasProducts (productCount : Option ℤ) : Prop := ∃ count, productCount = some count ∧ 0 < count

/-- What has products is selected. -/
structure ProductCategory.ProductsSelected (category : ProductCategory) : Prop where
  self : HasProducts category.productCount → category.selected = true
  subs : ∀ sub ∈ category.subCategories, HasProducts sub.productCount → sub.selected = true

/-- A category is selected when one of its sub-categories is. -/
def ProductCategory.Follows (category : ProductCategory) : Prop :=
  ∀ sub ∈ category.subCategories, sub.selected = true → category.selected = true

def ProductsSelected (form : StoreCreationSliderValidation) : Prop :=
  ∀ category ∈ form.productCategories, category.ProductsSelected

def Follow (form : StoreCreationSliderValidation) : Prop :=
  ∀ category ∈ form.productCategories, category.Follows

/-- What is to hold of the form throughout. -/
def Sound (form : StoreCreationSliderValidation) : Prop := ProductsSelected form ∧ Follow form

/-! ## Lists -/

theorem at?_eq_some_iff {α : Type} {items : List α} {index : ℤ} {item : α} :
    at? items index = some item ↔ 0 ≤ index ∧ items[index.toNat]? = some item := by
  unfold at?
  split
  case isTrue natural => simp [natural]
  case isFalse negative => simp [negative]

theorem forall_mem_set_iff {α : Type} {Holds : α → Prop} {items : List α} {index : ℕ}
    {before : α} (found : items[index]? = some before) (after : α) :
    (∀ item ∈ items.set index after, Holds item) ↔
      Holds after ∧ ∀ item ∈ items.eraseIdx index, Holds item := by
  induction items generalizing index with
  | nil => cases found
  | cons first rest ih =>
      cases index with
      | zero => rw [List.set_cons_zero, List.eraseIdx_cons_zero, List.forall_mem_cons]
      | succ index =>
          rw [List.set_cons_succ, List.eraseIdx_cons_succ, List.forall_mem_cons,
            List.forall_mem_cons, ih found]
          exact and_left_comm

theorem forall_mem_eraseIdx {α : Type} {Holds : α → Prop} {items : List α}
    (all : ∀ item ∈ items, Holds item) (index : ℕ) : ∀ item ∈ items.eraseIdx index, Holds item :=
  fun item member => all item (List.eraseIdx_subset member)

variable {form : StoreCreationSliderValidation} {index : ℤ} {category : ProductCategory}

theorem mem_of_at? (found : at? form.productCategories index = some category) :
    category ∈ form.productCategories :=
  List.mem_of_getElem? (at?_eq_some_iff.mp found).2

/-- A category that is changed is the only one to look at. -/
theorem sound_setCategory_iff (sound : Sound form)
    (found : at? form.productCategories index = some category) (after : ProductCategory) :
    Sound (form.setCategory index after) ↔ after.ProductsSelected ∧ after.Follows := by
  obtain ⟨_, here⟩ := at?_eq_some_iff.mp found
  have products : ProductsSelected (form.setCategory index after) ↔ after.ProductsSelected :=
    (forall_mem_set_iff here after).trans (and_iff_left (forall_mem_eraseIdx sound.1 _))
  have follow : Follow (form.setCategory index after) ↔ after.Follows :=
    (forall_mem_set_iff here after).trans (and_iff_left (forall_mem_eraseIdx sound.2 _))
  exact and_congr products follow

/-! ## Checked operations -/

/-- What a checked selection or deselection sets. -/
def permitted (value : Option Bool) (productCount : Option ℤ) : Option Bool :=
  match value with
  | none => none
  | some true => some true
  | some false =>
      productCount.bind fun count => if count ≤ 0 then some false else none

theorem not_hasProducts_of_permitted {value : Option Bool} {productCount : Option ℤ}
    (deselected : permitted value productCount = some false) : ¬HasProducts productCount := by
  cases value with
  | none => cases deselected
  | some selected =>
      cases selected with
      | true => cases deselected
      | false =>
          obtain ⟨count, rfl, least⟩ := Option.bind_eq_some_iff.mp deselected
          rintro ⟨other, same, positive⟩
          cases same
          rw [if_neg (by omega)] at least
          cases least

theorem checked_reply (value : Option Bool) (productCount : Option ℤ)
    (form : StoreCreationSliderValidation) (change : Bool → StoreCreationSliderValidation) :
    (((StoreCreationSliderValidation.allowed? value (some true) productCount).bind fun allowed =>
      if allowed = true then value.map fun selected => (change selected, (none : Option String))
      else some (form, some StoreCreationSliderValidation.mustMove)).map Prod.fst).getD form =
      ((permitted value productCount).map change).getD form := by
  unfold StoreCreationSliderValidation.allowed? permitted
  cases value with
  | none =>
      cases productCount with
      | none => rfl
      | some count => by_cases least : count ≤ 0 <;> simp [least]
  | some selected =>
      cases selected with
      | true => rfl
      | false =>
          cases productCount with
          | none => rfl
          | some count => by_cases least : count ≤ 0 <;> simp [least]

theorem apply_changeSelectProductCategorie (value : Option Bool) (index : ℤ) :
    Change.apply (some true) form (.changeSelectProductCategorie value index) =
      match at? form.productCategories index with
      | none => form
      | some category =>
          ((permitted value category.productCount).map fun selected =>
            form.setCategory index { category with selected := selected }).getD form := by
  rw [Change.apply, Change.reply?, StoreCreationSliderValidation.changeSelectProductCategorie]
  by_cases nowhere : index = -1
  · subst nowhere
    rfl
  · rw [if_neg nowhere]
    cases at? form.productCategories index with
    | none => rfl
    | some category => exact checked_reply value category.productCount form _

/-- The sub-category that is meant, with its category and its position there. -/
def subAt? (form : StoreCreationSliderValidation) (id : Option ℤ) (parentIndex : ℤ) :
    Option (ProductCategory × ℕ × ProductSubCategory) := do
  let category ← at? form.productCategories parentIndex
  let position ← category.subCategories.findIdx? fun element => decide (element.id = id)
  let sub ← category.subCategories[position]?
  some (category, position, sub)

theorem subAt?_spec {id : Option ℤ} {position : ℕ} {sub : ProductSubCategory}
    (found : subAt? form id index = some (category, position, sub)) :
    at? form.productCategories index = some category ∧
      category.subCategories[position]? = some sub := by
  obtain ⟨other, there, later⟩ := Option.bind_eq_some_iff.mp found
  obtain ⟨first, _, later⟩ := Option.bind_eq_some_iff.mp later
  obtain ⟨one, placed, made⟩ := Option.bind_eq_some_iff.mp later
  cases made
  exact ⟨there, placed⟩

theorem apply_changeSelectProductSubCategorie (value : Option Bool) (id : Option ℤ)
    (parentIndex : ℤ) :
    Change.apply (some true) form (.changeSelectProductSubCategorie value id parentIndex) =
      match subAt? form id parentIndex with
      | none => form
      | some (category, position, sub) =>
          ((permitted value sub.productCount).map fun selected =>
            form.setCategory parentIndex
              (StoreCreationSliderValidation.followed category position sub selected)).getD
                form := by
  rw [Change.apply, Change.reply?, StoreCreationSliderValidation.changeSelectProductSubCategorie,
    subAt?, Option.bind_eq_bind]
  cases at? form.productCategories parentIndex with
  | none => rfl
  | some category =>
      rw [Option.bind_some, Option.bind_some, Option.bind_eq_bind]
      cases category.subCategories.findIdx? fun element => decide (element.id = id) with
      | none => rfl
      | some position =>
          rw [Option.bind_some, Option.bind_eq_bind]
          dsimp only
          cases category.subCategories[position]? with
          | none => rfl
          | some sub => exact checked_reply value sub.productCount form _

/-! ## Single steps -/

/-- When a change keeps what is to hold: the last selected sub-category stays if the category
has products, and all sub-categories are selected or deselected at once only where that is
what the category allows. -/
def Change.Keeps (form : StoreCreationSliderValidation) : Change → Prop
  | .changeSelectProductCategorie value index =>
      ∀ category, at? form.productCategories index = some category →
        permitted value category.productCount = some false →
          ∀ sub ∈ category.subCategories, sub.selected = false
  | .changeSelectProductSubCategorie value id parentIndex =>
      ∀ category position sub, subAt? form id parentIndex = some (category, position, sub) →
        permitted value sub.productCount = some false →
          (∀ other ∈ category.subCategories.eraseIdx position, other.selected = false) →
            ¬HasProducts category.productCount
  | .selectAllSubCategories categoryIndex =>
      ∀ category, at? form.productCategories categoryIndex = some category →
        category.subCategories ≠ [] → category.selected = true
  | .deselectAllSubCategories categoryIndex =>
      ∀ category, at? form.productCategories categoryIndex = some category →
        ∀ sub ∈ category.subCategories, ¬HasProducts sub.productCount
  | .addProductCategorie _ => True
  | .addProductSubCategorie _ _ => True

theorem sound_select (sound : Sound form)
    (found : at? form.productCategories index = some category) :
    Sound (form.setCategory index { category with selected := true }) := by
  rw [sound_setCategory_iff sound found]
  exact ⟨⟨fun _ => rfl, (sound.1 category (mem_of_at? found)).subs⟩, fun _ _ _ => rfl⟩

theorem sound_deselect_iff (sound : Sound form)
    (found : at? form.productCategories index = some category)
    (without : ¬HasProducts category.productCount) :
    Sound (form.setCategory index { category with selected := false }) ↔
      ∀ sub ∈ category.subCategories, sub.selected = false := by
  rw [sound_setCategory_iff sound found]
  constructor
  · rintro ⟨_, follows⟩ sub member
    exact Bool.eq_false_iff.mpr fun selected => Bool.false_ne_true (follows sub member selected)
  · intro unselected
    refine ⟨⟨fun has => absurd has without, (sound.1 category (mem_of_at? found)).subs⟩, ?_⟩
    intro sub member selected
    rw [unselected sub member] at selected
    cases selected

theorem changeSelectProductCategorie_sound_iff (sound : Sound form) (value : Option Bool)
    (index : ℤ) :
    Sound (Change.apply (some true) form (.changeSelectProductCategorie value index)) ↔
      (Change.changeSelectProductCategorie value index).Keeps form := by
  rw [apply_changeSelectProductCategorie, Change.Keeps]
  cases found : at? form.productCategories index with
  | none => exact iff_of_true sound nofun
  | some category =>
      simp only [Option.some.injEq, forall_eq']
      cases set : permitted value category.productCount with
      | none => exact iff_of_true sound nofun
      | some selected =>
          cases selected with
          | true => exact iff_of_true (sound_select sound found) nofun
          | false =>
              have without := not_hasProducts_of_permitted set
              exact (sound_deselect_iff sound found without).trans (imp_iff_right rfl).symm

section SubCategories

open StoreCreationSliderValidation (followed)

variable {position : ℕ} {sub : ProductSubCategory}

theorem followed_subCategories (selected : Bool) :
    (followed category position sub selected).subCategories =
      category.subCategories.set position { sub with selected := selected } := rfl

theorem followed_productCount (selected : Bool) :
    (followed category position sub selected).productCount = category.productCount := rfl

theorem followed_selected (selected : Bool) :
    (followed category position sub selected).selected =
      if ((category.subCategories.set position { sub with selected := selected }).filter
        ProductSubCategory.selected).isEmpty = true then false
      else if selected = true ∧ category.selected = false then true else category.selected := rfl

theorem followed_selected_true (placed : category.subCategories[position]? = some sub) :
    (followed category position sub true).selected = true := by
  obtain ⟨there, _⟩ := List.getElem?_eq_some_iff.mp placed
  have member : { sub with selected := true } ∈
      (category.subCategories.set position { sub with selected := true }).filter
        ProductSubCategory.selected :=
    List.mem_filter.mpr ⟨List.mem_set there _, rfl⟩
  rw [followed_selected, if_neg (mt List.isEmpty_iff.mp (List.ne_nil_of_mem member))]
  cases category.selected <;> rfl

theorem followed_true_sound (sound : category.ProductsSelected)
    (placed : category.subCategories[position]? = some sub) :
    (followed category position sub true).ProductsSelected ∧
      (followed category position sub true).Follows := by
  have selected := followed_selected_true placed
  refine ⟨⟨fun _ => selected, ?_⟩, fun _ _ _ => selected⟩
  rw [followed_subCategories, forall_mem_set_iff placed]
  exact ⟨fun _ => rfl, forall_mem_eraseIdx sound.subs position⟩

/-- The category stays selected as long as another sub-category is. -/
theorem followed_selected_false (placed : category.subCategories[position]? = some sub) :
    (followed category position sub false).selected = true ↔
      category.selected = true ∧
        ¬∀ other ∈ category.subCategories.eraseIdx position, other.selected = false := by
  have none_selected : ((category.subCategories.set position
      { sub with selected := false }).filter ProductSubCategory.selected).isEmpty = true ↔
        ∀ other ∈ category.subCategories.eraseIdx position, other.selected = false := by
    rw [List.isEmpty_iff, List.filter_eq_nil_iff, forall_mem_set_iff placed]
    simp
  rw [followed_selected, ← none_selected]
  split
  case isTrue unselected => simp [unselected]
  case isFalse selected => simp [selected]

theorem followed_false_sound_iff (sound : category.ProductsSelected) (follows : category.Follows)
    (placed : category.subCategories[position]? = some sub)
    (without : ¬HasProducts sub.productCount) :
    (followed category position sub false).ProductsSelected ∧
        (followed category position sub false).Follows ↔
      ((∀ other ∈ category.subCategories.eraseIdx position, other.selected = false) →
        ¬HasProducts category.productCount) := by
  have selected := followed_selected_false placed
  have subs : ∀ other ∈ (followed category position sub false).subCategories,
      HasProducts other.productCount → other.selected = true := by
    rw [followed_subCategories, forall_mem_set_iff placed]
    exact ⟨fun has => absurd has without, forall_mem_eraseIdx sound.subs position⟩
  have among : ∀ other ∈ (followed category position sub false).subCategories,
      other.selected = true → other ∈ category.subCategories.eraseIdx position := by
    rw [followed_subCategories, forall_mem_set_iff placed]
    exact ⟨nofun, fun other member _ => member⟩
  constructor
  · rintro ⟨products, _⟩ none_selected has
    rw [← followed_productCount false] at has
    exact (selected.mp (products.self has)).2 none_selected
  · intro last
    refine ⟨⟨fun has => ?_, subs⟩, fun other member chosen => ?_⟩
    · rw [followed_productCount] at has
      exact selected.mpr ⟨sound.self has, fun none_selected => last none_selected has⟩
    · have there := among other member chosen
      refine selected.mpr ⟨follows other (List.eraseIdx_subset there) chosen, ?_⟩
      intro none_selected
      rw [none_selected other there] at chosen
      cases chosen

theorem changeSelectProductSubCategorie_sound_iff (sound : Sound form) (value : Option Bool)
    (id : Option ℤ) (parentIndex : ℤ) :
    Sound (Change.apply (some true) form
        (.changeSelectProductSubCategorie value id parentIndex)) ↔
      (Change.changeSelectProductSubCategorie value id parentIndex).Keeps form := by
  rw [apply_changeSelectProductSubCategorie, Change.Keeps]
  cases found : subAt? form id parentIndex with
  | none =>
      refine iff_of_true sound fun other place one same => ?_
      cases same
  | some place =>
      obtain ⟨category, position, sub⟩ := place
      obtain ⟨there, placed⟩ := subAt?_spec found
      have products := sound.1 category (mem_of_at? there)
      have follows := sound.2 category (mem_of_at? there)
      dsimp only
      cases set : permitted value sub.productCount with
      | none =>
          refine iff_of_true sound fun other place one same deselected => ?_
          cases same
          rw [set] at deselected
          cases deselected
      | some selected =>
          rw [Option.map_some, Option.getD_some, sound_setCategory_iff sound there]
          cases selected with
          | true =>
              refine iff_of_true (followed_true_sound products placed) ?_
              intro other place one same deselected
              cases same
              rw [set] at deselected
              cases deselected
          | false =>
              have without := not_hasProducts_of_permitted set
              rw [followed_false_sound_iff products follows placed without]
              constructor
              · intro last other place one same _
                cases same
                exact last
              · exact fun keeps => keeps category position sub rfl set

end SubCategories

theorem apply_setAllSubCategories (selected : Bool) (categoryIndex : ℤ) :
    (((form.setAllSubCategories selected categoryIndex).map Prod.fst).getD form) =
      match at? form.productCategories categoryIndex with
      | none => form
      | some category =>
          form.setCategory categoryIndex { category with
            subCategories := category.subCategories.map fun sub =>
              { sub with selected := selected } } := by
  rw [StoreCreationSliderValidation.setAllSubCategories]
  cases at? form.productCategories categoryIndex with
  | none => rfl
  | some category => rfl

theorem selectAllSubCategories_sound_iff (sound : Sound form) (categoryIndex : ℤ) :
    Sound (Change.apply (some true) form (.selectAllSubCategories categoryIndex)) ↔
      (Change.selectAllSubCategories categoryIndex).Keeps form := by
  rw [Change.apply, Change.reply?, StoreCreationSliderValidation.selectAllSubCategories,
    apply_setAllSubCategories, Change.Keeps]
  cases found : at? form.productCategories categoryIndex with
  | none =>
      refine iff_of_true sound fun other same => ?_
      cases same
  | some category =>
      dsimp only
      have products := sound.1 category (mem_of_at? found)
      rw [sound_setCategory_iff sound found]
      constructor
      · rintro ⟨_, follows⟩ other same there
        cases same
        obtain ⟨sub, member⟩ := List.exists_mem_of_ne_nil _ there
        exact follows _ (List.mem_map_of_mem member) rfl
      · intro keeps
        refine ⟨⟨products.self, List.forall_mem_map.mpr fun _ _ _ => rfl⟩, ?_⟩
        refine List.forall_mem_map.mpr fun sub member _ => ?_
        exact keeps category rfl (List.ne_nil_of_mem member)

theorem deselectAllSubCategories_sound_iff (sound : Sound form) (categoryIndex : ℤ) :
    Sound (Change.apply (some true) form (.deselectAllSubCategories categoryIndex)) ↔
      (Change.deselectAllSubCategories categoryIndex).Keeps form := by
  rw [Change.apply, Change.reply?, StoreCreationSliderValidation.deselectAllSubCategories,
    apply_setAllSubCategories, Change.Keeps]
  cases found : at? form.productCategories categoryIndex with
  | none =>
      refine iff_of_true sound fun other same => ?_
      cases same
  | some category =>
      dsimp only
      have products := sound.1 category (mem_of_at? found)
      rw [sound_setCategory_iff sound found]
      constructor
      · rintro ⟨after, _⟩ other same sub member has
        cases same
        exact Bool.false_ne_true (after.subs _ (List.mem_map_of_mem member) has)
      · intro keeps
        refine ⟨⟨products.self, List.forall_mem_map.mpr fun sub member has => ?_⟩,
          List.forall_mem_map.mpr fun _ _ chosen => absurd chosen Bool.false_ne_true⟩
        exact absurd has (keeps category rfl sub member)

theorem not_hasProducts_zero : ¬HasProducts (some 0) := by
  rintro ⟨count, same, positive⟩
  cases same
  exact lt_irrefl 0 positive

/-- A category that is added has no products. -/
theorem addProductCategorie_sound (sound : Sound form) (name : String) :
    Sound (Change.apply (some true) form (.addProductCategorie name)) := by
  rw [Change.apply, Change.reply?, StoreCreationSliderValidation.addProductCategorie]
  cases form.selectedStoreCategorie with
  | none => exact sound
  | some storeCategory =>
      dsimp only
      split
      case isTrue =>
        refine ⟨List.forall_mem_append.mpr ⟨sound.1, List.forall_mem_singleton.mpr ?_⟩,
          List.forall_mem_append.mpr ⟨sound.2, List.forall_mem_singleton.mpr ?_⟩⟩
        · exact ⟨fun has => absurd has not_hasProducts_zero, List.forall_mem_nil _⟩
        · exact List.forall_mem_nil _
      case isFalse => exact sound

theorem addProductSubCategorie_sound (sound : Sound form) (name : String) (parentIndex : ℤ) :
    Sound (Change.apply (some true) form (.addProductSubCategorie name parentIndex)) := by
  rw [Change.apply, Change.reply?, StoreCreationSliderValidation.addProductSubCategorie]
  cases found : at? form.productCategories parentIndex with
  | none => exact sound
  | some category =>
      have products := sound.1 category (mem_of_at? found)
      have follows := sound.2 category (mem_of_at? found)
      rw [Option.map_some, Option.map_some, Option.getD_some, sound_setCategory_iff sound found]
      refine ⟨⟨products.self, List.forall_mem_append.mpr ⟨products.subs, ?_⟩⟩,
        List.forall_mem_append.mpr ⟨follows, List.forall_mem_singleton.mpr nofun⟩⟩
      exact List.forall_mem_singleton.mpr fun has => absurd has not_hasProducts_zero

theorem apply_sound_iff (sound : Sound form) (change : Change) :
    Sound (change.apply (some true) form) ↔ change.Keeps form := by
  cases change with
  | changeSelectProductCategorie value index =>
      exact changeSelectProductCategorie_sound_iff sound value index
  | changeSelectProductSubCategorie value id parentIndex =>
      exact changeSelectProductSubCategorie_sound_iff sound value id parentIndex
  | selectAllSubCategories categoryIndex =>
      exact selectAllSubCategories_sound_iff sound categoryIndex
  | deselectAllSubCategories categoryIndex =>
      exact deselectAllSubCategories_sound_iff sound categoryIndex
  | addProductCategorie name => exact iff_of_true (addProductCategorie_sound sound name) trivial
  | addProductSubCategorie name parentIndex =>
      exact iff_of_true (addProductSubCategorie_sound sound name parentIndex) trivial

/-! ## Runs -/

/-- The screen of the store's categories, where deselections are checked. -/
def edited? (form : StoreCreationSliderValidation) (change : Change) :
    Option StoreCreationSliderValidation :=
  some (change.apply (some true) form)

/-- From categories in which everything with products is selected, that stays so, and every
category with a selected sub-category is selected, exactly when the latter holds at first and
every change of the run keeps it. -/
theorem always_sound_iff (initial : ProductsSelected form) (changes : List Change) :
    Always edited? Sound form changes ↔
      Follow form ∧ EveryStep edited? (fun form change _ => change.Keeps form) form changes := by
  have exact_step : ∀ source change target, Sound source → edited? source change = some target →
      (Sound target ↔ change.Keeps source) := by
    intro source change target sound stepped
    cases stepped
    exact apply_sound_iff sound change
  constructor
  · intro always
    have sound := always.source
    exact ⟨sound.2, (always_iff_everyStep exact_step sound).mp always⟩
  · rintro ⟨follow, keeps⟩
    exact (always_iff_everyStep exact_step ⟨initial, follow⟩).mpr keeps

/-- Three books, none of them among the old ones. -/
def books : ProductCategory where
  id := some 1
  name := "Books"
  selected := true
  subCategories := [⟨some 1, "Old books", true, some "old", some 0⟩]
  dbId := some "books"
  storeCategoryId := none
  storeCategoryDBId := some "culture"
  productCount := some 3

def bookshop : StoreCreationSliderValidation :=
  { StoreCreationSliderValidation.new with productCategories := [books] }

theorem bookshop_productsSelected : ProductsSelected bookshop :=
  List.forall_mem_singleton.mpr ⟨fun _ => rfl, List.forall_mem_singleton.mpr fun _ => rfl⟩

theorem bookshop_follow : Follow bookshop := List.forall_mem_singleton.mpr fun _ _ _ => rfl

theorem bookshop_always_sound_iff :
    Always edited? Sound bookshop [.selectAllSubCategories 0, .addProductSubCategorie "Maps" 0,
        .changeSelectProductSubCategorie (some true) (some 2) 0,
        .changeSelectProductSubCategorie (some false) (some 1) 0] ↔
      Follow bookshop ∧ EveryStep edited? (fun form change _ => change.Keeps form) bookshop
        [.selectAllSubCategories 0, .addProductSubCategorie "Maps" 0,
          .changeSelectProductSubCategorie (some true) (some 2) 0,
          .changeSelectProductSubCategorie (some false) (some 1) 0] :=
  always_sound_iff bookshop_productsSelected _

/-- The old books are deselected, and the books with them. -/
theorem oldBooks_not_sound : ProductsSelected bookshop ∧ Follow bookshop ∧
    ¬Always edited? Sound bookshop
      [.changeSelectProductSubCategorie (some false) (some 1) 0] := by
  refine ⟨bookshop_productsSelected, bookshop_follow, fun always => ?_⟩
  have after := (always.2 _ rfl).source.1
  have selected := (after _ List.mem_cons_self).self ⟨3, rfl, by decide⟩
  exact Bool.false_ne_true selected

end Proximity.Apps.Commercant.StoreForm
