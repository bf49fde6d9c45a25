import Proximity.Categories.Service
import Proximity.Systems.Pointwise

/-!
# The categories of a new store

New categories are saved with their sub-categories, and every chosen one gets the id it is
saved under.  Nothing is looked up for a category that is stored: its sub-categories go into
the store under the ids they were sent with, a new one under none.
-/

namespace Proximity.Categories

open Proximity.Systems Proximity.Models

/-- The ids of new documents are nowhere yet. -/
structure NewIds.Fresh (ids : NewIds) (shelf : Shelf) (request : NewStore) : Prop where
  distinct : Function.Injective ids.category
  unused : ∀ index, shelf.categories.findById? (ids.category index) = none
  unsent : ∀ index, ∀ element ∈ request.productCategories,
    element.id ≠ some (ids.category index)
  unattached : ∀ index, ∀ category ∈ shelf.categories.docs,
    category.storeCategoryId ≠ some (ids.storeCategory index)

/-! ## What should be stored -/

/-- The chosen category asks for the store category at this place, or for none in particular. -/
def ChosenCategory.AsksFor (category : ChosenCategory) (chosen : ChosenStoreCategory) : Prop :=
  category.storeCategoryId = none ∨ category.storeCategoryId = chosen.eid

/-- The store category that the chosen category is sent with, or else the one that the store
has for the chosen store category it asks for. -/
def RightStoreCategory (request : NewStore) (store : Store) (category : ChosenCategory)
    (storeCategoryId : Option ObjectId) : Prop :=
  match category.storeCategoryDBId with
  | some id => storeCategoryId = some id
  | none => ∃ (index : Nat) (chosen : ChosenStoreCategory),
      request.storeCategories[index]? = some chosen ∧
      category.AsksFor chosen ∧ store.storeCategorieIds[index]? = some storeCategoryId

/-- The id is that of a sub-category of the category with the chosen name. -/
def KeepsSub (category : Category) (chosen : ChosenSubCategory) (id : Option ObjectId) : Prop :=
  ∃ sub ∈ category.subCategories, id = some sub.id ∧ sub.name = chosen.name

/-- The entry names a stored category of the right store category, the chosen one if that was
stored, and a sub-category of it for each chosen one. -/
def Keeps (after : Shelf) (request : NewStore) (store : Store) (chosen : ChosenCategory)
    (entry : CategoryEntry) : Prop :=
  ∃ category, entry.categoryId = some category.id ∧
    after.categories.findById? category.id = some category ∧
    (∀ id, chosen.id = some id → category.id = id) ∧
    RightStoreCategory request store chosen category.storeCategoryId ∧
    List.Forall₂ (KeepsSub category) chosen.subCategories entry.subCategories

/-- The store has one entry for each chosen product category, and each of them keeps it. -/
def KeepsEvery (after : Shelf) (request : NewStore) (store : Store) : Prop :=
  List.Forall₂ (Keeps after request store) request.productCategories store.productCategorieIds

/-- The request stores a store, which keeps every chosen category. -/
def CreatesKeeping (ids : NewIds) (shelf : Shelf) (request : NewStore) : Prop :=
  ∃ after store, createStore ids shelf request = .ok (after, store) ∧
    KeepsEvery after request store

/-- The store category that a stored category has is the one it is sent with, or else a stored
one that it asks for. -/
def SentWith (request : NewStore) (category : ChosenCategory)
    (storeCategoryId : Option ObjectId) : Prop :=
  match category.storeCategoryDBId with
  | some id => storeCategoryId = some id
  | none => ∃ chosen ∈ request.storeCategories, category.AsksFor chosen ∧
      ∃ id, chosen.id = some id ∧ storeCategoryId = some id

/-- The chosen category is a new one, or its id is that of a stored one that has the store
category it is sent with, and every chosen sub-category under the id it is sent with. -/
def Resolves (shelf : Shelf) (request : NewStore) (chosen : ChosenCategory) : Prop :=
  ∀ id, chosen.id = some id →
    ∃ category, shelf.categories.findById? id = some category ∧
      SentWith request chosen category.storeCategoryId ∧
      ∀ sub ∈ chosen.subCategories, KeepsSub category sub sub.id

/-- The place that a chosen store category is found by: a stored one is found by none. -/
def ChosenStoreCategory.place? (chosen : ChosenStoreCategory) : Option Int :=
  if chosen.id = none then chosen.eid else none

/-- What the service asks of a request, its user aside: an image, names for what is new, a
chosen store category for each product category that is sent without one, and a rest of the body
that can be read and saved. -/
structure Complete (request : NewStore) : Prop where
  image : request.image.isSome = true
  storeCategories : ∀ chosen ∈ request.storeCategories, chosen.id = none → chosen.name ≠ ""
  placed : ∀ chosen ∈ request.productCategories, chosen.storeCategoryDBId = none →
    ∃ asked ∈ request.storeCategories, asked.place? = chosen.storeCategoryId
  names : ∀ chosen ∈ request.productCategories, chosen.id = none →
    chosen.name ≠ "" ∧ ∀ e ∈ chosen.subCategories, e.name ≠ ""
  restSaves : request.restSaves = true

/-! ## The maps -/

theorem asyncMap_eq_ok_iff {α β : Type} {asyncFunc : Nat → α → Except Failure β}
    {array : List α} {results : List β} :
    asyncMap asyncFunc array = .ok results ↔
      List.Forall₂ (fun pair result => asyncFunc pair.2 pair.1 = .ok result) array.zipIdx results :=
  mapM_eq_ok_iff

/-- Every element of an array is mapped at some place. -/
theorem asyncMap_forall₂ {α β : Type} {asyncFunc : Nat → α → Except Failure β}
    {array : List α} {results : List β} (mapped : asyncMap asyncFunc array = .ok results) :
    List.Forall₂ (fun element result => ∃ index, asyncFunc index element = .ok result)
      array results := by
  have paired := asyncMap_eq_ok_iff.mp mapped
  have elements : array.zipIdx.map Prod.fst = array := by simp
  rw [← elements, List.forall₂_map_left_iff]
  exact paired.imp fun pair result same => ⟨pair.2, same⟩

/-- A stored store category keeps its id, a new one gets an id and is found by its place. -/
def Named (ids : NewIds) (chosen : ChosenStoreCategory) (named : NamedStoreCategory) : Prop :=
  (chosen.id = some named.id ∧ named.oldeid = none) ∨
    (chosen.id = none ∧ named.oldeid = chosen.eid ∧ ∃ index, named.id = ids.storeCategory index)

theorem myAsyncStoreCategoryFunc_named {ids : NewIds} {index : Nat}
    {chosen : ChosenStoreCategory} {named : NamedStoreCategory}
    (mapped : myAsyncStoreCategoryFunc (ids.storeCategory index) chosen = .ok named) :
    Named ids chosen named := by
  unfold myAsyncStoreCategoryFunc at mapped
  cases known : chosen.id with
  | some id =>
      rw [known] at mapped
      cases mapped
      exact Or.inl ⟨known, rfl⟩
  | none =>
      simp only [known, bind_eq_ok_iff, require_eq_ok_iff, pure_eq_ok_iff] at mapped
      obtain ⟨-, -, rfl⟩ := mapped
      exact Or.inr ⟨known, rfl, index, rfl⟩

/-- Where a map succeeds at an element whatever its place, it succeeds on the array when all
elements allow it. -/
theorem exists_asyncMap_iff {α β : Type} {asyncFunc : Nat → α → Except Failure β}
    {Allows : α → Prop}
    (each : ∀ index element, (∃ result, asyncFunc index element = .ok result) ↔ Allows element)
    (array : List α) :
    (∃ results, asyncMap asyncFunc array = .ok results) ↔ ∀ element ∈ array, Allows element := by
  simp only [asyncMap_eq_ok_iff, exists_forall₂_iff, each]
  constructor
  · intro all element member
    obtain ⟨index, here⟩ := List.getElem?_of_mem member
    have paired : (element, index) ∈ array.zipIdx := List.mk_mem_zipIdx_iff_getElem?.mpr here
    exact all (element, index) paired
  · intro all pair member
    exact all pair.1 (List.fst_mem_of_mem_zipIdx member)

theorem exists_myAsyncStoreCategoryFunc_iff (newId : ObjectId) (chosen : ChosenStoreCategory) :
    (∃ named, myAsyncStoreCategoryFunc newId chosen = .ok named) ↔
      (chosen.id = none → chosen.name ≠ "") := by
  unfold myAsyncStoreCategoryFunc
  cases chosen.id with
  | some id => simp
  | none => simp [require_eq_ok_iff]

theorem exists_myAsyncProductCategoryFunc_iff (newId : ObjectId) (newSubId : Nat → ObjectId)
    (element : ChosenCategory) :
    (∃ result, myAsyncProductCategoryFunc newId newSubId element = .ok result) ↔
      (element.id = none → element.name ≠ "" ∧ ∀ e ∈ element.subCategories, e.name ≠ "") := by
  unfold myAsyncProductCategoryFunc
  cases element.id with
  | some id => simp
  | none => simp [require_eq_ok_iff]

/-- A missing store category is filled in when one is found by the asked place. -/
theorem exists_backFill_iff {ids : NewIds} {requested : List ChosenStoreCategory}
    {storeCategories : List NamedStoreCategory}
    (named : List.Forall₂ (Named ids) requested storeCategories) (chosen : ChosenCategory) :
    (∃ element, backFill storeCategories chosen = .ok element) ↔
      (chosen.storeCategoryDBId = none →
        ∃ asked ∈ requested, asked.place? = chosen.storeCategoryId) := by
  have placed {asked : ChosenStoreCategory} {name : NamedStoreCategory}
      (names : Named ids asked name) : name.oldeid = asked.place? := by
    rcases names with ⟨known, old⟩ | ⟨unknown, old, -⟩
    · rw [old, ChosenStoreCategory.place?, known]
      rfl
    · rw [old, ChosenStoreCategory.place?, if_pos unknown]
  unfold backFill
  cases chosen.storeCategoryDBId with
  | some id => simp
  | none =>
      simp only [bind_eq_ok_iff, found_eq_ok_iff, pure_eq_ok_iff, forall_const]
      constructor
      · rintro ⟨_, name, first, -⟩
        obtain ⟨member, same⟩ := List.mem_filter.mp (List.mem_of_head? first)
        obtain ⟨asked, requested_there, names⟩ := exists_mem_of_forall₂_right named member
        exact ⟨asked, requested_there, (placed names).symm.trans (of_decide_eq_true same)⟩
      · rintro ⟨asked, requested_there, same⟩
        obtain ⟨name, member, names⟩ := exists_mem_of_forall₂ named requested_there
        have among : name ∈ storeCategories.filter fun el =>
            decide (el.oldeid = chosen.storeCategoryId) :=
          List.mem_filter.mpr ⟨member, decide_eq_true ((placed names).trans same)⟩
        cases listed : storeCategories.filter fun el =>
            decide (el.oldeid = chosen.storeCategoryId) with
        | nil =>
            rw [listed] at among
            cases among
        | cons first rest => exact ⟨_, first, rfl, rfl⟩

theorem asyncMap_named {ids : NewIds} {requested : List ChosenStoreCategory}
    {storeCategories : List NamedStoreCategory}
    (mapped : asyncMap (fun index => myAsyncStoreCategoryFunc (ids.storeCategory index)) requested =
      .ok storeCategories) : List.Forall₂ (Named ids) requested storeCategories := by
  refine (asyncMap_forall₂ mapped).imp fun chosen name answered => ?_
  obtain ⟨index, here⟩ := answered
  exact myAsyncStoreCategoryFunc_named here

/-- Only the store category is filled in. -/
theorem backFill_spec {storeCategories : List NamedStoreCategory} {chosen element : ChosenCategory}
    (filled_in : backFill storeCategories chosen = .ok element) :
    element = { chosen with storeCategoryDBId := element.storeCategoryDBId } := by
  unfold backFill at filled_in
  split at filled_in
  case h_1 id sent =>
      cases filled_in
      rfl
  case h_2 =>
      simp only [bind_eq_ok_iff, pure_eq_ok_iff] at filled_in
      obtain ⟨named, -, rfl⟩ := filled_in
      rfl

/-- The service stores a store for a user with a complete request, and for no other. -/
theorem exists_createStore_iff (ids : NewIds) (shelf : Shelf) (request : NewStore) :
    (∃ after store, createStore ids shelf request = .ok (after, store)) ↔
      request.user.isSome = true ∧ Complete request := by
  have storeCategories_iff := exists_asyncMap_iff
    (fun index => exists_myAsyncStoreCategoryFunc_iff (ids.storeCategory index))
    request.storeCategories
  have productCategories_iff := exists_asyncMap_iff fun index =>
    exists_myAsyncProductCategoryFunc_iff (ids.category index) (ids.subCategory index)
  have same_names {storeCategories : List NamedStoreCategory} {chosen element : ChosenCategory}
      (filled_in : backFill storeCategories chosen = .ok element) :
      element.id = chosen.id ∧ element.name = chosen.name ∧
        element.subCategories = chosen.subCategories := by
    rw [backFill_spec filled_in]
    exact ⟨rfl, rfl, rfl⟩
  simp only [createStore, bind_eq_ok_iff, found_eq_ok_iff, require_eq_ok_iff, pure_eq_ok_iff]
  constructor
  · rintro ⟨after, store, storeCategories, named, filled, filled_in, productCategories, mapped,
      image, given, user, authenticated, -, rest, -⟩
    have filled_each := mapM_eq_ok_iff.mp filled_in
    refine ⟨Option.isSome_iff_exists.mpr ⟨user, authenticated⟩,
      Option.isSome_iff_exists.mpr ⟨image, given⟩, storeCategories_iff.mp ⟨_, named⟩, ?_, ?_, rest⟩
    · intro chosen member
      exact (exists_backFill_iff (asyncMap_named named) chosen).mp
        (exists_forall₂_iff.mp ⟨_, filled_each⟩ chosen member)
    · intro chosen member
      obtain ⟨element, there, fills⟩ := exists_mem_of_forall₂ filled_each member
      obtain ⟨id, name, subCategories⟩ := same_names fills
      rw [← id, ← name, ← subCategories]
      exact (productCategories_iff filled).mp ⟨_, mapped⟩ element there
  · rintro ⟨authenticated, complete⟩
    obtain ⟨user, set⟩ := Option.isSome_iff_exists.mp authenticated
    obtain ⟨image, given⟩ := Option.isSome_iff_exists.mp complete.image
    obtain ⟨storeCategories, named⟩ := storeCategories_iff.mpr complete.storeCategories
    have each (chosen : ChosenCategory) (member : chosen ∈ request.productCategories) :
        ∃ element, backFill storeCategories chosen = .ok element :=
      (exists_backFill_iff (asyncMap_named named) chosen).mpr (complete.placed chosen member)
    obtain ⟨filled, filled_each⟩ := exists_forall₂_iff.mpr each
    have names : ∀ element ∈ filled, element.id = none →
        element.name ≠ "" ∧ ∀ e ∈ element.subCategories, e.name ≠ "" := by
      intro element there
      obtain ⟨chosen, member, fills⟩ := exists_mem_of_forall₂_right filled_each there
      obtain ⟨id, name, subCategories⟩ := same_names fills
      rw [id, name, subCategories]
      exact complete.names chosen member
    obtain ⟨productCategories, mapped⟩ := (productCategories_iff filled).mpr names
    exact ⟨_, _, storeCategories, named, filled, mapM_eq_ok_iff.mpr filled_each, productCategories,
      mapped, image, given, user, set, (), complete.restSaves, rfl⟩

/-- What `createStore` has done when it ends. -/
structure Created (ids : NewIds) (shelf : Shelf) (request : NewStore) (after : Shelf)
    (store : Store) (storeCategories : List NamedStoreCategory) (filled : List ChosenCategory)
    (productCategories : List NamedCategory) : Prop where
  named : List.Forall₂ (Named ids) request.storeCategories storeCategories
  storeIds : store.storeCategorieIds = storeCategories.map fun e => some e.id
  filledIn : List.Forall₂ (fun chosen element => backFill storeCategories chosen = .ok element)
    request.productCategories filled
  mapped : asyncMap (fun index =>
    myAsyncProductCategoryFunc (ids.category index) (ids.subCategory index)) filled =
      .ok productCategories
  entries : store.productCategorieIds = productCategories.map NamedCategory.entry
  saved : after.categories =
    shelf.categories.insertAll (productCategories.filterMap NamedCategory.saved)

theorem exists_created {ids : NewIds} {shelf after : Shelf} {request : NewStore} {store : Store}
    (ended : createStore ids shelf request = .ok (after, store)) :
    ∃ storeCategories filled productCategories,
      Created ids shelf request after store storeCategories filled productCategories := by
  simp only [createStore, bind_eq_ok_iff, found_eq_ok_iff, require_eq_ok_iff, pure_eq_ok_iff,
    Prod.mk.injEq] at ended
  obtain ⟨storeCategories, named, filled, filled_in, productCategories, mapped, -, -, -, -, -, -,
    rfl, rfl⟩ := ended
  exact ⟨storeCategories, filled, productCategories, {
    named := asyncMap_named named
    storeIds := rfl
    filledIn := mapM_eq_ok_iff.mp filled_in
    mapped := mapped
    entries := rfl
    saved := rfl }⟩

/-! ## Product categories -/

/-- A stored category stays as it is sent, a new one is saved with all its sub-categories. -/
theorem myAsyncProductCategoryFunc_spec {newId : ObjectId} {newSubId : Nat → ObjectId}
    {element : ChosenCategory} {result : NamedCategory}
    (mapped : myAsyncProductCategoryFunc newId newSubId element = .ok result) :
    (∃ id, element.id = some id ∧ result = ⟨id, element.subCategories, none⟩) ∨
      (element.id = none ∧ result =
        ⟨newId, element.subCategories.map
          (withSavedId (newCategory newId newSubId element).subCategories),
          some (newCategory newId newSubId element)⟩) := by
  unfold myAsyncProductCategoryFunc at mapped
  cases known : element.id with
  | some id =>
      rw [known] at mapped
      cases mapped
      exact Or.inl ⟨id, rfl, rfl⟩
  | none =>
      simp only [known, bind_eq_ok_iff, require_eq_ok_iff, pure_eq_ok_iff] at mapped
      obtain ⟨-, -, rfl⟩ := mapped
      exact Or.inr ⟨rfl, rfl⟩

/-- Each chosen sub-category of a new category has a saved one of its name. -/
theorem keepsSub_new {newId : ObjectId} {newSubId : Nat → ObjectId} {element : ChosenCategory}
    {e : ChosenSubCategory} (member : e ∈ element.subCategories) :
    KeepsSub (newCategory newId newSubId element) e
      (withSavedId (newCategory newId newSubId element).subCategories e).id := by
  obtain ⟨index, here⟩ := List.getElem?_of_mem member
  have there : (⟨newSubId index, e.name, false⟩ : SubCategory) ∈
      (newCategory newId newSubId element).subCategories := by
    refine List.mem_of_getElem? (i := index) ?_
    rw [newCategory, List.getElem?_mapIdx, here]
    rfl
  unfold withSavedId
  split
  case h_1 missing =>
      have other := List.find?_eq_none.mp missing _ there
      simp at other
  case h_2 sub found =>
      exact ⟨sub, List.mem_of_find?_eq_some found, rfl, by simpa using List.find?_some found⟩

/-- The ids of the saved categories are among those of the places. -/
theorem saved_sublist {ids : NewIds} {elements : List (ChosenCategory × Nat)}
    {results : List NamedCategory}
    (mapped : List.Forall₂ (fun pair result =>
      myAsyncProductCategoryFunc (ids.category pair.2) (ids.subCategory pair.2) pair.1 =
        .ok result) elements results) :
    ((results.filterMap NamedCategory.saved).map Document.id).Sublist
      (elements.map fun pair => ids.category pair.2) := by
  induction mapped with
  | nil => exact List.Sublist.refl _
  | cons here _ ih =>
      rcases myAsyncProductCategoryFunc_spec here with ⟨id, -, rfl⟩ | ⟨-, rfl⟩
      · exact ih.cons _
      · exact ih.cons_cons _

section Created

variable {ids : NewIds} {shelf after : Shelf} {request : NewStore} {store : Store}
  {storeCategories : List NamedStoreCategory} {filled : List ChosenCategory}
  {productCategories : List NamedCategory}

theorem Created.saved_nodup (created : Created ids shelf request after store storeCategories
    filled productCategories) (distinct : Function.Injective ids.category) :
    ((productCategories.filterMap NamedCategory.saved).map Document.id).Nodup := by
  refine (saved_sublist (asyncMap_eq_ok_iff.mp created.mapped)).nodup ?_
  have places : (filled.zipIdx.map Prod.snd).Nodup := by
    rw [List.zipIdx_map_snd]
    exact List.nodup_range'
  have numbered := places.map distinct
  rwa [List.map_map] at numbered

theorem Created.saved_id (created : Created ids shelf request after store storeCategories
    filled productCategories) {category : Category}
    (member : category ∈ productCategories.filterMap NamedCategory.saved) :
    ∃ index, category.id = ids.category index := by
  have among := (saved_sublist (asyncMap_eq_ok_iff.mp created.mapped)).subset
    (List.mem_map_of_mem member)
  obtain ⟨pair, -, same⟩ := List.mem_map.mp among
  exact ⟨pair.2, same.symm⟩

/-- A saved category is found under its id. -/
theorem Created.finds_new (created : Created ids shelf request after store storeCategories
    filled productCategories) (fresh : ids.Fresh shelf request) {result : NamedCategory}
    {category : Category} (member : result ∈ productCategories)
    (saved : result.saved = some category) :
    after.categories.findById? category.id = some category := by
  rw [created.saved]
  refine Collection.findById?_insertAll_of_mem (created.saved_nodup fresh.distinct) ?_
    (List.mem_filterMap.mpr ⟨result, member, saved⟩)
  intro other among
  obtain ⟨index, same⟩ := created.saved_id among
  rw [Category.document_id, same]
  exact fresh.unused index

/-- Under an id that was sent, the same category is found as before. -/
theorem Created.finds_old (created : Created ids shelf request after store storeCategories
    filled productCategories) (fresh : ids.Fresh shelf request) {chosen : ChosenCategory}
    {id : ObjectId} (member : chosen ∈ request.productCategories) (sent : chosen.id = some id) :
    after.categories.findById? id = shelf.categories.findById? id := by
  rw [created.saved]
  cases stored : shelf.categories.findById? id with
  | some category => exact Collection.findById?_insertAll_of_some stored _
  | none =>
      refine Collection.findById?_insertAll_of_none stored fun category among same => ?_
      obtain ⟨index, numbered⟩ := created.saved_id among
      refine fresh.unsent index chosen member ?_
      rw [sent, ← numbered, ← same]
      rfl

/-- The filled-in store category is the right one. -/
theorem Created.fills_right (created : Created ids shelf request after store storeCategories
    filled productCategories) {chosen element : ChosenCategory}
    (filled_in : backFill storeCategories chosen = .ok element) :
    RightStoreCategory request store chosen element.storeCategoryDBId := by
  unfold backFill at filled_in
  unfold RightStoreCategory
  cases sent : chosen.storeCategoryDBId with
  | some id =>
      rw [sent] at filled_in
      cases filled_in
      exact sent
  | none =>
      simp only [sent, bind_eq_ok_iff, found_eq_ok_iff, pure_eq_ok_iff] at filled_in
      obtain ⟨named, first, rfl⟩ := filled_in
      obtain ⟨member, matches_place⟩ := List.mem_filter.mp (List.mem_of_head? first)
      have same := of_decide_eq_true matches_place
      obtain ⟨index, there⟩ := List.getElem?_of_mem member
      obtain ⟨asked, here, name⟩ := exists_getElem?_of_forall₂_right created.named there
      refine ⟨index, asked, here, ?_, ?_⟩
      · rcases name with ⟨-, none_old⟩ | ⟨-, old, -⟩
        · exact Or.inl (same.symm.trans none_old)
        · exact Or.inr (same.symm.trans old)
      · rw [created.storeIds, List.getElem?_map, there]
        rfl

/-- A category that was stored before has the right store category exactly when it is sent
with it. -/
theorem Created.right_iff_sentWith (created : Created ids shelf request after store
    storeCategories filled productCategories) (fresh : ids.Fresh shelf request)
    (chosen : ChosenCategory) {category : Category} (stored : category ∈ shelf.categories.docs) :
    RightStoreCategory request store chosen category.storeCategoryId ↔
      SentWith request chosen category.storeCategoryId := by
  unfold RightStoreCategory SentWith
  cases chosen.storeCategoryDBId with
  | some id => exact Iff.rfl
  | none =>
      simp only [created.storeIds, List.getElem?_map]
      constructor
      · rintro ⟨index, asked, here, asks, there⟩
        obtain ⟨named, at_index, name⟩ := exists_getElem?_of_forall₂ created.named here
        rw [at_index, Option.map_some, Option.some.injEq] at there
        rcases name with ⟨known, -⟩ | ⟨-, -, numbered, new⟩
        · exact ⟨asked, List.mem_of_getElem? here, asks, named.id, known, there.symm⟩
        · -- a stored category cannot have a store category that is new
          refine absurd ?_ (fresh.unattached numbered category stored)
          rw [← there, new]
      · rintro ⟨asked, member, asks, id, sent, attached⟩
        obtain ⟨index, here⟩ := List.getElem?_of_mem member
        obtain ⟨named, at_index, name⟩ := exists_getElem?_of_forall₂ created.named here
        refine ⟨index, asked, here, asks, ?_⟩
        rcases name with ⟨known, -⟩ | ⟨unknown, -⟩
        · rw [at_index, attached, ← sent, known]
          rfl
        · rw [unknown] at sent
          cases sent

/-- A chosen category is kept exactly when it resolves. -/
theorem Created.keeps_iff_resolves (created : Created ids shelf request after store
    storeCategories filled productCategories) (fresh : ids.Fresh shelf request)
    {chosen element : ChosenCategory} {result : NamedCategory} {index : Nat}
    (requested : chosen ∈ request.productCategories) (member : result ∈ productCategories)
    (filled_in : backFill storeCategories chosen = .ok element)
    (mapped : myAsyncProductCategoryFunc (ids.category index) (ids.subCategory index) element =
      .ok result) :
    Keeps after request store chosen result.entry ↔ Resolves shelf request chosen := by
  have right := created.fills_right filled_in
  have unchanged := backFill_spec filled_in
  have same_id : element.id = chosen.id := by rw [unchanged]
  have same_subs : element.subCategories = chosen.subCategories := by rw [unchanged]
  rcases myAsyncProductCategoryFunc_spec mapped with ⟨id, known, rfl⟩ | ⟨unknown, rfl⟩
  · have sent : chosen.id = some id := same_id.symm.trans known
    have found := created.finds_old fresh requested sent
    have subs_iff (category : Category) :
        List.Forall₂ (KeepsSub category) chosen.subCategories
            (element.subCategories.map ChosenSubCategory.id) ↔
          ∀ sub ∈ chosen.subCategories, KeepsSub category sub sub.id := by
      rw [same_subs, List.forall₂_map_right_iff, List.forall₂_same]
    constructor
    · rintro ⟨category, named, stored, -, attached, subs⟩ other again
      cases Option.some.inj named
      cases sent.symm.trans again
      rw [found] at stored
      exact ⟨category, stored, (created.right_iff_sentWith fresh chosen
        (Collection.findById?_eq_some_iff.mp stored).1).mp attached, (subs_iff category).mp subs⟩
    · intro resolves
      obtain ⟨category, stored, attached, subs⟩ := resolves id sent
      obtain ⟨there, same⟩ := Collection.findById?_eq_some_iff.mp stored
      rw [Category.document_id] at same
      refine ⟨category, congrArg some same.symm, ?_, ?_,
        (created.right_iff_sentWith fresh chosen there).mpr attached, (subs_iff category).mpr subs⟩
      · rw [same, found]
        exact stored
      · intro other again
        cases sent.symm.trans again
        exact same
  · have new : chosen.id = none := same_id.symm.trans unknown
    refine iff_of_true ⟨newCategory (ids.category index) (ids.subCategory index) element, rfl,
      created.finds_new fresh member rfl, fun id known => ?_, right, ?_⟩ fun id known => ?_
    · rw [new] at known
      cases known
    · simp only [NamedCategory.entry]
      rw [← same_subs, List.forall₂_map_right_iff, List.forall₂_map_right_iff, List.forall₂_same]
      exact fun e among => keepsSub_new among
    · rw [new] at known
      cases known

end Created

/-- A stored store keeps every chosen category exactly when all of them resolve. -/
theorem keepsEvery_iff_resolves {ids : NewIds} {shelf after : Shelf} {request : NewStore}
    {store : Store} (fresh : ids.Fresh shelf request)
    (ended : createStore ids shelf request = .ok (after, store)) :
    KeepsEvery after request store ↔
      ∀ chosen ∈ request.productCategories, Resolves shelf request chosen := by
  obtain ⟨storeCategories, filled, productCategories, created⟩ := exists_created ended
  have matched := forall₂_comp created.filledIn (asyncMap_forall₂ created.mapped)
  rw [KeepsEvery, created.entries, List.forall₂_map_right_iff]
  refine forall₂_iff_forall matched fun chosen requested result member steps => ?_
  obtain ⟨element, filled_in, index, mapped⟩ := steps
  exact created.keeps_iff_resolves fresh requested member filled_in mapped

/-- A request stores a store that keeps every chosen category exactly when it has a user, which
no request of the route has, is complete, and all of its categories resolve. -/
theorem createsKeeping_iff {ids : NewIds} {shelf : Shelf} {request : NewStore}
    (fresh : ids.Fresh shelf request) :
    CreatesKeeping ids shelf request ↔ request.user.isSome = true ∧ Complete request ∧
      ∀ chosen ∈ request.productCategories, Resolves shelf request chosen := by
  rw [← and_assoc, ← exists_createStore_iff ids shelf]
  constructor
  · rintro ⟨after, store, ended, keeps⟩
    exact ⟨⟨after, store, ended⟩, (keepsEvery_iff_resolves fresh ended).mp keeps⟩
  · rintro ⟨⟨after, store, ended⟩, resolves⟩
    exact ⟨after, store, ended, (keepsEvery_iff_resolves fresh ended).mpr resolves⟩

/-! ## A bakery -/

def bakery : Category := ⟨200, some 100, "Bakery", true, [⟨300, "Bread", true⟩]⟩

def stocked : Shelf :=
  ⟨⟨[⟨100, "Food", true⟩], List.nodup_singleton _⟩, ⟨[bakery], List.nodup_singleton _⟩,
    Collection.empty⟩

/-- The stored bakery, chosen with the sub-categories. -/
def chosenBakery (subCategories : List ChosenSubCategory) : ChosenCategory :=
  ⟨some 200, "Bakery", some 100, some 1, subCategories⟩

/-- A new category of the second chosen store category, with a sub-category chosen twice. -/
def juices : ChosenCategory :=
  ⟨none, "Juices", none, some 2, [⟨none, "Orange"⟩, ⟨none, "Orange"⟩, ⟨none, "Apple"⟩]⟩

/-- A new store of a stored and a new store category. -/
def opening (user : Option Token) (productCategories : List ChosenCategory) : NewStore :=
  ⟨user, some "images/stores/bakery.png", [⟨some 100, some 1, "Food"⟩, ⟨none, some 2, "Drinks"⟩],
    productCategories, true⟩

def openingIds : NewIds where
  store := 1000
  storeCategory index := 2000 + index
  category index := 3000 + index
  subCategory index place := 4000 + index + place

/-- The stored category chosen twice, and a new one twice. -/
def mixed : List ChosenCategory :=
  [chosenBakery [⟨some 300, "Bread"⟩], juices, chosenBakery [⟨some 300, "Bread"⟩], juices]

theorem openingIds_fresh (user : Option Token) : openingIds.Fresh stocked (opening user mixed) where
  distinct first second same := Nat.add_left_cancel same
  unused index := by
    refine Collection.findById?_eq_none_iff.mpr fun category member same => ?_
    cases List.mem_singleton.mp member
    have equal : 200 = 3000 + index := same
    omega
  unsent index element member same := by
    have sent : ∀ element ∈ mixed, element.id = none ∨ element.id = some 200 := by decide
    rcases sent element member with new | old
    · rw [new] at same
      cases same
    · rw [old] at same
      have equal : 200 = 3000 + index := Option.some.inj same
      omega
  unattached index category member same := by
    cases List.mem_singleton.mp member
    have equal : 100 = 2000 + index := Option.some.inj same
    omega

theorem mixed_complete (user : Option Token) : Complete (opening user mixed) :=
  have complete : Complete (opening none mixed) := ⟨rfl, by decide, by decide, by decide, rfl⟩
  ⟨complete.image, complete.storeCategories, complete.placed, complete.names, complete.restSaves⟩

theorem mixed_resolves (user : Option Token) :
    ∀ chosen ∈ mixed, Resolves stocked (opening user mixed) chosen := by
  have stored : Resolves stocked (opening user mixed) (chosenBakery [⟨some 300, "Bread"⟩]) := by
    rintro id ⟨⟩
    refine ⟨bakery, rfl, rfl, ?_⟩
    intro sub member
    cases List.mem_singleton.mp member
    exact ⟨⟨300, "Bread", true⟩, List.mem_singleton.mpr rfl, rfl, rfl⟩
  have new : Resolves stocked (opening user mixed) juices := nofun
  simp only [mixed, List.forall_mem_cons]
  exact ⟨stored, new, stored, new, nofun⟩

/-- With a user the store would be stored, with all its categories. -/
theorem mixed_createsKeeping :
    CreatesKeeping openingIds stocked (opening (some ⟨2, .seller⟩) mixed) :=
  (createsKeeping_iff (openingIds_fresh _)).mpr ⟨rfl, mixed_complete _, mixed_resolves _⟩

/-- The route sets no user, and the same request throws. -/
theorem mixed_not_createsKeeping :
    Complete (opening none mixed) ∧
      (∀ chosen ∈ mixed, Resolves stocked (opening none mixed) chosen) ∧
      createStore openingIds stocked (opening none mixed) = .error .typeError ∧
      ¬ CreatesKeeping openingIds stocked (opening none mixed) := by
  have thrown : createStore openingIds stocked (opening none mixed) = .error .typeError := rfl
  refine ⟨mixed_complete none, mixed_resolves none, thrown, ?_⟩
  rintro ⟨after, store, ended, -⟩
  cases thrown.symm.trans ended

end Proximity.Categories
