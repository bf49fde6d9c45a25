import Proximity.Categories.Creation

/-!
# The selected sub-categories of a store

A sub-category is marked when the search through the ids of the store finds something.  The
callback of the search finds a null for every sub-category.
-/

namespace Proximity.Categories

open Proximity.Systems Proximity.Models

/-! ## What should be returned -/

/-- The category with its sub-categories, of which those of the store are selected. -/
structure Marks (store : Store) (category : Category) (returned : ReturnedCategory) : Prop where
  id : returned.id = category.id
  subCategories : List.Forall₂ (fun (sub : SubCategory) (marked : ReturnedSubCategory) =>
    marked.toSubCategory = sub ∧ (marked.selected = true ↔ some sub.id ∈ store.subCategoryIds))
    category.subCategories returned.subCategories

/-- Every chosen category that is stored is returned once, with its marks, and no other. -/
structure ReturnsEach (shelf : Shelf) (store : Store) (selection : StoreSelection) : Prop where
  once : (selection.productCategories.map ReturnedCategory.id).Nodup
  chosen : ∀ returned ∈ selection.productCategories, ∃ category ∈ shelf.categories.docs,
    some category.id ∈ store.categoryIds ∧ Marks store category returned
  every : ∀ category ∈ shelf.categories.docs, some category.id ∈ store.categoryIds →
    ∃ returned ∈ selection.productCategories, returned.id = category.id

/-- The products of every chosen category and of its sub-categories can be counted, and in a
store with a null among its ids all these sub-categories are its own. -/
structure Selectable (count : CountFilter → Option Nat) (shelf : Shelf) (store : Store) :
    Prop where
  categories : ∀ category ∈ shelf.categories.docs, some category.id ∈ store.categoryIds →
    ∃ number, count (.category category.id store.id) = some number
  subCategories : ∀ category ∈ shelf.categories.docs, some category.id ∈ store.categoryIds →
    ∀ sub ∈ category.subCategories, ∃ number, count (.subCategory sub.id store.id) = some number
  noNull : none ∈ store.subCategoryIds →
    ∀ category ∈ shelf.categories.docs, some category.id ∈ store.categoryIds →
      ∀ sub ∈ category.subCategories, some sub.id ∈ store.subCategoryIds

/-! ## The maps -/

theorem mem_findIn_iff {collection : Collection Category} {ids : List (Option ObjectId)}
    {category : Category} :
    category ∈ findIn collection ids ↔ category ∈ collection.docs ∧ some category.id ∈ ids := by
  simp [findIn]

/-- The search finds the id of the sub-category or any null. -/
theorem findIdx?_selects_iff (values : List (Option ObjectId)) (sub : SubCategory) :
    (values.findIdx? (selects sub)).isSome = true ↔ none ∈ values ∨ some sub.id ∈ values := by
  rw [List.findIdx?_isSome, List.any_eq_true]
  constructor
  · rintro ⟨value, member, selected⟩
    cases value with
    | none => exact Or.inl member
    | some id => exact Or.inr (of_decide_eq_true selected ▸ member)
  · rintro (null | own)
    · exact ⟨none, null, rfl⟩
    · exact ⟨some sub.id, own, decide_eq_true rfl⟩

section Counted

variable {count : CountFilter → Option Nat} {values : List (Option ObjectId)}
  {storeId : ObjectId}

theorem subCategory_eq_ok_iff {sub : SubCategory} {marked : ReturnedSubCategory} :
    myAsyncFuncProductSubCategoriesForStore count values storeId sub = .ok marked ↔
      ∃ number, count (.subCategory sub.id storeId) = some number ∧
        marked = ⟨sub, number, (values.findIdx? (selects sub)).isSome⟩ := by
  simp only [myAsyncFuncProductSubCategoriesForStore, bind_eq_ok_iff, found_eq_ok_iff,
    pure_eq_ok_iff]
  exact exists_congr fun number => and_congr_right fun _ => eq_comm

theorem category_eq_ok_iff {el : Category} {returned : ReturnedCategory} :
    myAsyncFuncProductCategoriesForStore count values storeId el = .ok returned ↔
      ∃ number subCategories, count (.category el.id storeId) = some number ∧
        List.Forall₂ (fun sub marked =>
          myAsyncFuncProductSubCategoriesForStore count values storeId sub = .ok marked)
          el.subCategories subCategories ∧
        returned = ⟨el.id, el.storeCategoryId, el.name, el.confirmed, subCategories, true,
          number⟩ := by
  simp only [myAsyncFuncProductCategoriesForStore, bind_eq_ok_iff, found_eq_ok_iff,
    mapM_eq_ok_iff, pure_eq_ok_iff]
  constructor
  · rintro ⟨number, counted, subCategories, mapped, rfl⟩
    exact ⟨number, subCategories, counted, mapped, rfl⟩
  · rintro ⟨number, subCategories, counted, mapped, rfl⟩
    exact ⟨number, counted, subCategories, mapped, rfl⟩

/-- A category is returned as long as everything of it can be counted. -/
theorem exists_category_iff {el : Category} :
    (∃ returned, myAsyncFuncProductCategoriesForStore count values storeId el = .ok returned) ↔
      (∃ number, count (.category el.id storeId) = some number) ∧
        ∀ sub ∈ el.subCategories, ∃ number, count (.subCategory sub.id storeId) = some number := by
  simp only [category_eq_ok_iff]
  constructor
  · rintro ⟨_, number, subCategories, counted, mapped, rfl⟩
    refine ⟨⟨number, counted⟩, fun sub member => ?_⟩
    obtain ⟨marked, answered⟩ := exists_forall₂_iff.mp ⟨subCategories, mapped⟩ sub member
    obtain ⟨count_of, counted, -⟩ := subCategory_eq_ok_iff.mp answered
    exact ⟨count_of, counted⟩
  · rintro ⟨⟨number, counted⟩, all⟩
    have each : ∀ sub ∈ el.subCategories, ∃ marked,
        myAsyncFuncProductSubCategoriesForStore count values storeId sub = .ok marked := by
      intro sub member
      obtain ⟨count_of, counted⟩ := all sub member
      exact ⟨_, subCategory_eq_ok_iff.mpr ⟨count_of, counted, rfl⟩⟩
    obtain ⟨subCategories, mapped⟩ := exists_forall₂_iff.mpr each
    exact ⟨_, number, subCategories, counted, mapped, rfl⟩

/-- A returned category has its marks exactly when no null selects a sub-category that is not
one of the store. -/
theorem marks_iff {store : Store} {category : Category} {returned : ReturnedCategory}
    (answered : myAsyncFuncProductCategoriesForStore count store.subCategoryIds storeId category =
      .ok returned) :
    Marks store category returned ↔
      (none ∈ store.subCategoryIds →
        ∀ sub ∈ category.subCategories, some sub.id ∈ store.subCategoryIds) := by
  obtain ⟨number, subCategories, -, mapped, rfl⟩ := category_eq_ok_iff.mp answered
  have marked_iff : List.Forall₂ (fun (sub : SubCategory) (marked : ReturnedSubCategory) =>
      marked.toSubCategory = sub ∧ (marked.selected = true ↔ some sub.id ∈ store.subCategoryIds))
      category.subCategories subCategories ↔
        ∀ sub ∈ category.subCategories,
          none ∈ store.subCategoryIds → some sub.id ∈ store.subCategoryIds := by
    refine forall₂_iff_forall mapped fun sub _ marked _ answered => ?_
    obtain ⟨count_of, -, rfl⟩ := subCategory_eq_ok_iff.mp answered
    rw [findIdx?_selects_iff, and_iff_right rfl]
    exact or_iff_right_iff_imp
  constructor
  · intro marks null sub member
    exact marked_iff.mp marks.subCategories sub member null
  · intro own
    exact ⟨rfl, marked_iff.mpr fun sub member null => own null sub member⟩

theorem category_id {el : Category} {returned : ReturnedCategory}
    (answered : myAsyncFuncProductCategoriesForStore count values storeId el = .ok returned) :
    returned.id = el.id := by
  obtain ⟨number, subCategories, -, -, rfl⟩ := category_eq_ok_iff.mp answered
  rfl

theorem getCategoryByStoreId_eq_ok_iff {shelf : Shelf} {store : Store}
    {selection : StoreSelection} (stored : shelf.stores.findById? store.id = some store) :
    getCategoryByStoreId count shelf store.id = .ok selection ↔
      List.Forall₂ (fun el returned => myAsyncFuncProductCategoriesForStore count
          store.subCategoryIds store.id el = .ok returned)
        (findIn shelf.categories store.categoryIds) selection.productCategories ∧
      selection.storeCategories = (findIn shelf.storeCategories store.storeCategorieIds).map
        fun el => { toStoreCategory := el, selected := true } := by
  simp only [getCategoryByStoreId, bind_eq_ok_iff, found_eq_ok_iff, stored, Option.some.injEq,
    exists_eq_left', mapM_eq_ok_iff, pure_eq_ok_iff]
  constructor
  · rintro ⟨returned, mapped, rfl⟩
    exact ⟨mapped, rfl⟩
  · rintro ⟨mapped, same⟩
    exact ⟨_, mapped, by rw [← same]⟩

/-- The chosen categories are returned under their own ids, in natural order. -/
theorem returned_nodup {shelf : Shelf} {ids : List (Option ObjectId)}
    {returned : List ReturnedCategory}
    (mapped : List.Forall₂ (fun el returned =>
      myAsyncFuncProductCategoriesForStore count values storeId el = .ok returned)
      (findIn shelf.categories ids) returned) :
    (returned.map ReturnedCategory.id).Nodup := by
  have same : (findIn shelf.categories ids).map Category.id =
      returned.map ReturnedCategory.id := by
    rw [← List.forall₂_eq_eq_eq, List.forall₂_map_left_iff, List.forall₂_map_right_iff]
    exact mapped.imp fun _ _ answered => (category_id answered).symm
  rw [← same]
  exact shelf.categories.distinct.sublist (List.filter_sublist.map Category.id)

/-- The categories of a store are returned with the marks of their sub-categories exactly when
everything can be counted and no null among the ids selects a foreign sub-category. -/
theorem returnsEach_iff {shelf : Shelf} {store : Store}
    (stored : shelf.stores.findById? store.id = some store) :
    (∃ selection, getCategoryByStoreId count shelf store.id = .ok selection ∧
        ReturnsEach shelf store selection) ↔ Selectable count shelf store := by
  simp only [getCategoryByStoreId_eq_ok_iff stored]
  constructor
  · rintro ⟨selection, ⟨mapped, -⟩, returns⟩
    have counted := fun category there chosen => exists_category_iff.mp
      (exists_forall₂_iff.mp ⟨_, mapped⟩ category (mem_findIn_iff.mpr ⟨there, chosen⟩))
    refine ⟨fun category there chosen => (counted category there chosen).1,
      fun category there chosen => (counted category there chosen).2,
      fun null category there chosen => ?_⟩
    obtain ⟨returned, member, answered⟩ :=
      exists_mem_of_forall₂ mapped (mem_findIn_iff.mpr ⟨there, chosen⟩)
    obtain ⟨other, stored_other, -, marks⟩ := returns.chosen returned member
    cases Collection.eq_of_id_eq there stored_other
      ((category_id answered).symm.trans marks.id)
    exact (marks_iff answered).mp marks null
  · intro selectable
    have each : ∀ category ∈ findIn shelf.categories store.categoryIds, ∃ returned,
        myAsyncFuncProductCategoriesForStore count store.subCategoryIds store.id category =
          .ok returned := by
      intro category member
      obtain ⟨there, chosen⟩ := mem_findIn_iff.mp member
      exact exists_category_iff.mpr ⟨selectable.categories category there chosen,
        selectable.subCategories category there chosen⟩
    obtain ⟨returned, mapped⟩ := exists_forall₂_iff.mpr each
    refine ⟨⟨returned, _⟩, ⟨mapped, rfl⟩, returned_nodup mapped, ?_, ?_⟩
    · intro element member
      obtain ⟨category, among, answered⟩ := exists_mem_of_forall₂_right mapped member
      obtain ⟨there, chosen⟩ := mem_findIn_iff.mp among
      exact ⟨category, there, chosen,
        (marks_iff answered).mpr fun null => selectable.noNull null category there chosen⟩
    · intro category there chosen
      obtain ⟨element, member, answered⟩ :=
        exists_mem_of_forall₂ mapped (mem_findIn_iff.mpr ⟨there, chosen⟩)
      exact ⟨element, member, category_id answered⟩

end Counted

/-! ## A bakery that is changed -/

/-- The stored bakery of seller 2, with the sub-category ids of the stored category. -/
def ownBakery (subCategories : List (Option ObjectId)) : Store :=
  ⟨1000, 2, [some 100], [⟨some 200, subCategories⟩]⟩

def withBakery (subCategories : List (Option ObjectId)) : Shelf :=
  { stocked with stores := ⟨[ownBakery subCategories], List.nodup_singleton 1000⟩ }

theorem bread_returnsEach_iff :
    (∃ selection, getCategoryByStoreId (fun _ => some 0) (withBakery [some 300])
          (ownBakery [some 300]).id = .ok selection ∧
        ReturnsEach (withBakery [some 300]) (ownBakery [some 300]) selection) ↔
      Selectable (fun _ => some 0) (withBakery [some 300]) (ownBakery [some 300]) := by
  have found : (withBakery [some 300]).stores.findById? (ownBakery [some 300]).id =
      some (ownBakery [some 300]) := rfl
  exact returnsEach_iff found

/-- The seller chooses a new sub-category instead, which is stored as a null.  The null selects
the stored one that is not chosen; when nothing can be counted, nothing is returned at all. -/
theorem cakes_not_returnsEach :
    updateStore openingIds (withBakery [some 300]) ⟨2, .seller⟩ 1000
          ⟨none, some [chosenBakery [⟨none, "Cakes"⟩]]⟩ = .ok (withBakery [none]) ∧
      getCategoryByStoreId (fun _ => some 0) (withBakery [none]) 1000 =
        .ok ⟨[⟨200, some 100, "Bakery", true, [⟨⟨300, "Bread", true⟩, 0, true⟩], true, 0⟩],
          [⟨⟨100, "Food", true⟩, true⟩]⟩ ∧
      getCategoryByStoreId (fun _ => none) (withBakery [none]) 1000 = .error .typeError ∧
      ¬ ∃ selection, getCategoryByStoreId (fun _ => some 0) (withBakery [none]) 1000 =
          .ok selection ∧ ReturnsEach (withBakery [none]) (ownBakery [none]) selection := by
  have answered : getCategoryByStoreId (fun _ => some 0) (withBakery [none]) 1000 =
      .ok ⟨[⟨200, some 100, "Bakery", true, [⟨⟨300, "Bread", true⟩, 0, true⟩], true, 0⟩],
        [⟨⟨100, "Food", true⟩, true⟩]⟩ := by decide
  refine ⟨rfl, answered, by decide, ?_⟩
  rintro ⟨selection, returned, returns⟩
  cases answered.symm.trans returned
  obtain ⟨category, there, -, marks⟩ := returns.chosen _ List.mem_cons_self
  cases List.mem_singleton.mp there
  obtain ⟨⟨-, marked⟩, -⟩ := List.forall₂_cons.mp marks.subCategories
  have own := marked.mp rfl
  revert own
  decide

end Proximity.Categories
