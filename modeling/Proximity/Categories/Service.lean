import Proximity.Models.Account
import Proximity.Systems.Checks

/-!
# The categories of a store

A new store chooses store categories, product categories and sub-categories, each a stored one
by its id or a new one by its name.  What is read back marks the sub-categories it has chosen.
-/

namespace Proximity.Categories

open Proximity.Systems Proximity.Models

/-! ## What is stored -/

structure SubCategory where
  id : ObjectId
  name : String
  confirmed : Bool
  deriving DecidableEq, Repr

structure Category where
  id : ObjectId
  storeCategoryId : Option ObjectId
  name : String
  confirmed : Bool
  subCategories : List SubCategory
  deriving DecidableEq, Repr

instance : Document Category ObjectId := ⟨Category.id⟩

@[simp] theorem Category.document_id (category : Category) :
    Document.id category = category.id := rfl

structure StoreCategory where
  id : ObjectId
  name : String
  confirmed : Bool
  deriving DecidableEq, Repr

instance : Document StoreCategory ObjectId := ⟨StoreCategory.id⟩

/-- An entry of `productCategorieIds`; the schema takes `null` for any id of it. -/
structure CategoryEntry where
  categoryId : Option ObjectId
  subCategories : List (Option ObjectId)
  deriving DecidableEq, Repr

/-- A stored store, of which only what is about categories is kept here. -/
structure Store where
  id : ObjectId
  sellerId : ObjectId
  storeCategorieIds : List (Option ObjectId)
  productCategorieIds : List CategoryEntry
  deriving DecidableEq, Repr

instance : Document Store ObjectId := ⟨Store.id⟩

structure Shelf where
  storeCategories : Collection StoreCategory
  categories : Collection Category
  stores : Collection Store

inductive Failure where
  | storeNotFound
  | notAuthorized
  | noFiles
  | typeError
  | notSaved
  deriving DecidableEq, Repr

/-! ## `createStore` -/

/-- Without an `id` (absent, null or `"null"`) it is a new one; `eid` is its place in the list
of the app. -/
structure ChosenStoreCategory where
  id : Option ObjectId
  eid : Option Int
  name : String
  deriving DecidableEq, Repr

structure ChosenSubCategory where
  id : Option ObjectId
  name : String
  deriving DecidableEq, Repr

/-- `storeCategoryId` is the place of a chosen store category, `storeCategoryDBId` the id of a
stored one. -/
structure ChosenCategory where
  id : Option ObjectId
  name : String
  storeCategoryDBId : Option ObjectId
  storeCategoryId : Option Int
  subCategories : List ChosenSubCategory
  deriving DecidableEq, Repr

/-- A request, its texts parsed; an absent text is an empty list.  `user` is `req.user`, which
the one route of the service leaves out, and `restSaves` says whether the rest of the body can be
read and passes the schema of the new store. -/
structure NewStore where
  user : Option Token
  image : Option String
  storeCategories : List ChosenStoreCategory
  productCategories : List ChosenCategory
  restSaves : Bool

/-- The ids that new documents get, by the places of what they are made of. -/
structure NewIds where
  store : ObjectId
  storeCategory : Nat → ObjectId
  category : Nat → ObjectId
  subCategory : Nat → Nat → ObjectId

/-- A store category of the request once it has an id; only a new one has an `Oldeid`. -/
structure NamedStoreCategory where
  id : ObjectId
  oldeid : Option Int
  saved : Option StoreCategory
  deriving DecidableEq, Repr

/-- The schema requires a name that is not empty. -/
def myAsyncStoreCategoryFunc (newId : ObjectId) (element : ChosenStoreCategory) :
    Except Failure NamedStoreCategory :=
  match element.id with
  | some id => .ok ⟨id, none, none⟩
  | none => do
      require .notSaved (element.name ≠ "")
      return ⟨newId, element.eid, some ⟨newId, element.name, false⟩⟩

/-- Without a match, `[0].id` throws; a missing `Oldeid` equals a missing `storeCategoryId`. -/
def backFill (storeCategories : List NamedStoreCategory) (element : ChosenCategory) :
    Except Failure ChosenCategory :=
  match element.storeCategoryDBId with
  | some _ => .ok element
  | none => do
      let newStoreCategorie ← found .typeError
        (storeCategories.filter fun el => decide (el.oldeid = element.storeCategoryId)).head?
      return { element with storeCategoryDBId := some newStoreCategorie.id }

/-- The sub-category with the id of the first saved one of its name. -/
def withSavedId (saved : List SubCategory) (e : ChosenSubCategory) : ChosenSubCategory :=
  match saved.find? fun el => decide (el.name = e.name) with
  | none => e
  | some el => { e with id := some el.id }

def newCategory (newId : ObjectId) (newSubId : Nat → ObjectId) (element : ChosenCategory) :
    Category where
  id := newId
  storeCategoryId := element.storeCategoryDBId
  name := element.name
  confirmed := false
  subCategories := element.subCategories.mapIdx fun index e => ⟨newSubId index, e.name, false⟩

/-- A product category of the request once it has an id. -/
structure NamedCategory where
  id : ObjectId
  subCategories : List ChosenSubCategory
  saved : Option Category
  deriving DecidableEq, Repr

/-- Nothing is looked up for a category with an id, and nothing of it is changed. -/
def myAsyncProductCategoryFunc (newId : ObjectId) (newSubId : Nat → ObjectId)
    (element : ChosenCategory) : Except Failure NamedCategory :=
  match element.id with
  | some id => .ok ⟨id, element.subCategories, none⟩
  | none => do
      require .notSaved (element.name ≠ "" ∧ ∀ e ∈ element.subCategories, e.name ≠ "")
      let newCategory := newCategory newId newSubId element
      return {
        id := newCategory.id
        subCategories := element.subCategories.map (withSavedId newCategory.subCategories)
        saved := some newCategory }

def NamedCategory.entry (e : NamedCategory) : CategoryEntry :=
  ⟨some e.id, e.subCategories.map ChosenSubCategory.id⟩

/-- `asyncMap`; the saves may end in any order, of which nothing here depends. -/
def asyncMap {α β : Type} (asyncFunc : Nat → α → Except Failure β) (array : List α) :
    Except Failure (List β) :=
  array.zipIdx.mapM fun pair => asyncFunc pair.2 pair.1

def createStore (ids : NewIds) (shelf : Shelf) (request : NewStore) :
    Except Failure (Shelf × Store) := do
  let storeCategories ← asyncMap (fun index => myAsyncStoreCategoryFunc (ids.storeCategory index))
    request.storeCategories
  let filled ← request.productCategories.mapM (backFill storeCategories)
  let productCategories ← asyncMap
    (fun index => myAsyncProductCategoryFunc (ids.category index) (ids.subCategory index)) filled
  let _ ← found .noFiles request.image
  let user ← found .typeError request.user
  require .notSaved (request.restSaves = true)
  let store : Store := {
    id := ids.store
    sellerId := user.id
    storeCategorieIds := storeCategories.map fun e => some e.id
    productCategorieIds := productCategories.map NamedCategory.entry }
  return (
    { storeCategories := shelf.storeCategories.insertAll
        (storeCategories.filterMap NamedStoreCategory.saved)
      categories := shelf.categories.insertAll (productCategories.filterMap NamedCategory.saved)
      stores := shelf.stores.insert store },
    store)

/-! ## `updateStore` -/

/-- The categories of an update, its texts parsed; an absent text changes nothing. -/
structure StoreChange where
  storeCategories : Option (List ChosenStoreCategory)
  productCategories : Option (List ChosenCategory)

def changeCategories (storeCategorieIds : Option (List (Option ObjectId)))
    (productCategorieIds : Option (List CategoryEntry)) : Update Store where
  apply store := { store with
    storeCategorieIds := storeCategorieIds.getD store.storeCategorieIds
    productCategorieIds := productCategorieIds.getD store.productCategorieIds }
  keepsId _ := rfl

/-- The lists are mapped as in `createStore`, but no store category is filled in. -/
def updateStore (ids : NewIds) (shelf : Shelf) (user : Token) (id : ObjectId)
    (change : StoreChange) : Except Failure Shelf := do
  let storeCategories ← asyncMap (fun index => myAsyncStoreCategoryFunc (ids.storeCategory index))
    (change.storeCategories.getD [])
  let productCategories ← asyncMap
    (fun index => myAsyncProductCategoryFunc (ids.category index) (ids.subCategory index))
    (change.productCategories.getD [])
  let store ← found .typeError (shelf.stores.findById? id)
  require .notAuthorized (store.sellerId = user.id)
  return {
    storeCategories := shelf.storeCategories.insertAll
      (storeCategories.filterMap NamedStoreCategory.saved)
    categories := shelf.categories.insertAll (productCategories.filterMap NamedCategory.saved)
    stores := shelf.stores.update id (changeCategories
      (change.storeCategories.map fun _ => storeCategories.map fun e => some e.id)
      (change.productCategories.map fun _ => productCategories.map NamedCategory.entry)) }

/-! ## `getCategoryByStoreId` -/

/-- The filters that the products of a store are counted with. -/
inductive CountFilter where
  | category (categoryId storeId : ObjectId)
  | subCategory (subCategoryId storeId : ObjectId)
  deriving DecidableEq

structure ReturnedSubCategory extends SubCategory where
  product_count : Nat
  selected : Bool
  deriving DecidableEq, Repr

structure ReturnedCategory where
  id : ObjectId
  storeCategoryId : Option ObjectId
  name : String
  confirmed : Bool
  subCategories : List ReturnedSubCategory
  selected : Bool
  product_count : Nat
  deriving DecidableEq, Repr

structure ReturnedStoreCategory extends StoreCategory where
  selected : Bool
  deriving DecidableEq, Repr

structure StoreSelection where
  productCategories : List ReturnedCategory
  storeCategories : List ReturnedStoreCategory
  deriving DecidableEq, Repr

/-- The callback of `findIndex`: for a null it answers `-1`, which counts as true. -/
def selects (sub : SubCategory) : Option ObjectId → Bool
  | some p_cat => decide (p_cat = sub.id)
  | none => true

section Counted

/- `Product.count`, of the library; it throws where it answers `none`. -/
variable (count : CountFilter → Option Nat)

def myAsyncFuncProductSubCategoriesForStore (values : List (Option ObjectId))
    (storeId : ObjectId) (sub : SubCategory) : Except Failure ReturnedSubCategory := do
  let product_number ← found .typeError (count (.subCategory sub.id storeId))
  return {
    toSubCategory := sub
    product_count := product_number
    selected := (values.findIdx? (selects sub)).isSome }

def myAsyncFuncProductCategoriesForStore (values : List (Option ObjectId))
    (storeId : ObjectId) (el : Category) : Except Failure ReturnedCategory := do
  let product_number ← found .typeError (count (.category el.id storeId))
  let subCategories ← el.subCategories.mapM
    (myAsyncFuncProductSubCategoriesForStore count values storeId)
  return {
    id := el.id
    storeCategoryId := el.storeCategoryId
    name := el.name
    confirmed := el.confirmed
    subCategories := subCategories
    selected := true
    product_count := product_number }

def Store.categoryIds (store : Store) : List (Option ObjectId) :=
  store.productCategorieIds.map CategoryEntry.categoryId

def Store.subCategoryIds (store : Store) : List (Option ObjectId) :=
  store.productCategorieIds.flatMap CategoryEntry.subCategories

/-- `find({_id: {$in: ids}})`, in natural order. -/
def findIn {Doc : Type} [Document Doc ObjectId] (collection : Collection Doc)
    (ids : List (Option ObjectId)) : List Doc :=
  collection.docs.filter fun doc => decide (some (Document.id doc) ∈ ids)

def getCategoryByStoreId (shelf : Shelf) (id : ObjectId) : Except Failure StoreSelection := do
  let store ← found .storeNotFound (shelf.stores.findById? id)
  let returned_categories ← (findIn shelf.categories store.categoryIds).mapM
    (myAsyncFuncProductCategoriesForStore count store.subCategoryIds store.id)
  return {
    productCategories := returned_categories
    storeCategories := (findIn shelf.storeCategories store.storeCategorieIds).map
      fun el => { toStoreCategory := el, selected := true } }

end Counted

end Proximity.Categories
