import Proximity.Apps.PolicyForm
import Proximity.Apps.WorkingTime

/-!
# The merchant's app: the form of a store

The categories of the form are selected and encoded in place.  An operation that throws has
not changed the form yet, except where an encoder catches what it has thrown itself.
-/

namespace Proximity.Apps.Commercant.StoreForm

open Proximity.Systems Proximity.Systems.JsonText
open Proximity.Apps.Commercant.ProductForm (Address)
open Proximity.Apps.Commercant.StorePolicy (Policy)

/-! ## The form -/

structure StoreCategory where
  id : Option ℤ
  name : String
  selected : Bool
  dbId : Option String
  productCount : Option ℤ
  deriving DecidableEq, Repr

structure ProductSubCategory where
  id : Option ℤ
  name : String
  selected : Bool
  dbId : Option String
  productCount : Option ℤ
  deriving DecidableEq, Repr

structure ProductCategory where
  id : Option ℤ
  name : String
  selected : Bool
  subCategories : List ProductSubCategory
  dbId : Option String
  storeCategoryId : Option ℤ
  storeCategoryDBId : Option String
  productCount : Option ℤ
  deriving DecidableEq, Repr

structure StoreAddress extends Address where
  lat : Option Binary64
  lng : Option Binary64

/-- What the screens fill in; of the first image, the path if it is a file. -/
structure StoreCreationSliderValidation where
  storeName : Option String
  storeDescription : Option String
  storeAddress : StoreAddress
  storeImage : Option String
  workingTimeOption : Option String
  fixedWorkingHours : Option (List TimeRange)
  customizedWorkingHours : Option (Collection (MapEntry String (List TimeRange)))
  storeCategories : List StoreCategory
  selectedStoreCategorie : Option StoreCategory
  storeRayons : List StoreCategory
  productCategories : List ProductCategory
  templates : List StoreCategory

/-- The form of a new store. -/
def StoreCreationSliderValidation.new : StoreCreationSliderValidation where
  storeName := none
  storeDescription := none
  storeAddress := ⟨⟨none, none, none, none, none, none, none⟩, none, none⟩
  storeImage := none
  workingTimeOption := none
  fixedWorkingHours := some []
  customizedWorkingHours := none
  storeCategories := []
  selectedStoreCategorie := some ⟨none, "", true, none, none⟩
  storeRayons := []
  productCategories := []
  templates := [⟨some 1, "Template 1", true, none, none⟩, ⟨some 2, "Template 2", false, none, none⟩]

/-- An element of a list; another index throws. -/
def at? {α : Type} (items : List α) (index : ℤ) : Option α :=
  if 0 ≤ index then items[index.toNat]? else none

/-- The form after an operation, and the message that is shown. -/
abbrev Reply := StoreCreationSliderValidation × Option String

namespace StoreCreationSliderValidation

variable (form : StoreCreationSliderValidation)

def setCategory (index : ℤ) (category : ProductCategory) : StoreCreationSliderValidation :=
  { form with productCategories := form.productCategories.set index.toNat category }

/-! ## Selections -/

/-- A selection always goes through, a deselection that is checked only without products. -/
def allowed? (value checkDeselect : Option Bool) (productCount : Option ℤ) : Option Bool :=
  if value = some true ∨ checkDeselect ≠ some true then some true
  else productCount.map fun count => decide (count ≤ 0)

def mustMove : String := "you must first move its products to another category"

def changeSelectProductCategorie (value : Option Bool) (index : ℤ) (checkDeselect : Option Bool) :
    Option Reply :=
  if index = -1 then some (form, none)
  else
    (at? form.productCategories index).bind fun category =>
      (allowed? value checkDeselect category.productCount).bind fun allowed =>
        if allowed = true then
          value.map fun selected =>
            (form.setCategory index { category with selected := selected }, none)
        else some (form, some mustMove)

def addProductCategorie (name : String) : Reply :=
  match form.selectedStoreCategorie with
  | some storeCategory =>
      if storeCategory.name ≠ "" then
        ({ form with
          productCategories := form.productCategories ++ [{
            id := some (form.productCategories.length + 1), name := name, selected := false,
            subCategories := [], dbId := none, storeCategoryDBId := storeCategory.dbId,
            storeCategoryId := storeCategory.id, productCount := some 0 }] }, none)
      else (form, some "You must select a store category firstly")
  | none => (form, some "You must select a store category firstly")

def addProductSubCategorie (name : String) (parentIndex : ℤ) : Option Reply :=
  (at? form.productCategories parentIndex).map fun category =>
    (form.setCategory parentIndex { category with
      subCategories := category.subCategories ++ [{
        id := some (category.subCategories.length + 1), name := name, selected := false,
        dbId := none, productCount := some 0 }] }, none)

/-- The category with one of its sub-categories selected or deselected, which it follows. -/
def followed (category : ProductCategory) (index : ℕ) (sub : ProductSubCategory)
    (selected : Bool) : ProductCategory :=
  let subCategories := category.subCategories.set index { sub with selected := selected }
  let parent := if selected = true ∧ category.selected = false then true else category.selected
  { category with
    subCategories := subCategories
    selected :=
      if (subCategories.filter ProductSubCategory.selected).isEmpty = true then false else parent }

def changeSelectProductSubCategorie (value : Option Bool) (id : Option ℤ) (parentIndex : ℤ)
    (checkDeselect : Option Bool) : Option Reply :=
  (at? form.productCategories parentIndex).bind fun category =>
    match category.subCategories.findIdx? fun element => decide (element.id = id) with
    | none => some (form, none)
    | some index =>
        category.subCategories[index]?.bind fun sub =>
          (allowed? value checkDeselect sub.productCount).bind fun allowed =>
            if allowed = true then
              value.map fun selected =>
                (form.setCategory parentIndex (followed category index sub selected), none)
            else some (form, some mustMove)

/-- `forEach` sub-category of a category. -/
def setAllSubCategories (selected : Bool) (categoryIndex : ℤ) : Option Reply :=
  (at? form.productCategories categoryIndex).map fun category =>
    (form.setCategory categoryIndex { category with
      subCategories := category.subCategories.map fun sub => { sub with selected := selected } },
      none)

def selectAllSubCategories (categoryIndex : ℤ) : Option Reply :=
  form.setAllSubCategories true categoryIndex

def deselectAllSubCategories (categoryIndex : ℤ) : Option Reply :=
  form.setAllSubCategories false categoryIndex

end StoreCreationSliderValidation

/-- What is done to the product categories on a screen. -/
inductive Change where
  | changeSelectProductCategorie (value : Option Bool) (index : ℤ)
  | changeSelectProductSubCategorie (value : Option Bool) (id : Option ℤ) (parentIndex : ℤ)
  | selectAllSubCategories (categoryIndex : ℤ)
  | deselectAllSubCategories (categoryIndex : ℤ)
  | addProductCategorie (name : String)
  | addProductSubCategorie (name : String) (parentIndex : ℤ)

/-- A screen checks all deselections or none. -/
def Change.reply? (checkDeselect : Option Bool) (form : StoreCreationSliderValidation) :
    Change → Option Reply
  | .changeSelectProductCategorie value index =>
      form.changeSelectProductCategorie value index checkDeselect
  | .changeSelectProductSubCategorie value id parentIndex =>
      form.changeSelectProductSubCategorie value id parentIndex checkDeselect
  | .selectAllSubCategories categoryIndex => form.selectAllSubCategories categoryIndex
  | .deselectAllSubCategories categoryIndex => form.deselectAllSubCategories categoryIndex
  | .addProductCategorie name => some (form.addProductCategorie name)
  | .addProductSubCategorie name parentIndex => form.addProductSubCategorie name parentIndex

/-- What throws leaves the form as it is. -/
def Change.apply (checkDeselect : Option Bool) (form : StoreCreationSliderValidation)
    (change : Change) : StoreCreationSliderValidation :=
  ((change.reply? checkDeselect form).map Prod.fst).getD form

/-! ## Encoders -/

def ofText : Option String → Datum
  | none => .scalar .null
  | some text => .string text

def ofInt : Option ℤ → Datum
  | none => .scalar .null
  | some number => .scalar (.int number)

def encodeSubCategory (sub : ProductSubCategory) : Datum :=
  .object [("id", ofText sub.dbId), ("name", .string sub.name)]

def encodeSubCategories (category : ProductCategory) : String :=
  (Datum.array (category.subCategories.map encodeSubCategory)).encode

/-- A category of `toFormData`. -/
def encodeCategory (category : ProductCategory) : Datum :=
  .object [("id", ofText category.dbId), ("name", .string category.name),
    ("storeCategoryDBId", ofText category.storeCategoryDBId),
    ("storeCategoryId", ofInt category.storeCategoryId),
    ("subCategories", .string (encodeSubCategories category))]

/-- A category of `UpdateProductCategoriesFormData`. -/
def encodeUpdatedCategory (category : ProductCategory) : Datum :=
  .object [("id", ofText category.dbId), ("name", .string category.name),
    ("subCategories", .string (encodeSubCategories category))]

def encodeStoreCategory (category : StoreCategory) : Datum :=
  .object [("id", ofText category.dbId), ("eid", ofInt category.id),
    ("name", .string category.name)]

def encodeStoreRayon (rayon : StoreCategory) : Datum := .object [("name", .string rayon.name)]

/-- The selected elements of a list, encoded. -/
def encodeSelected (encode : StoreCategory → Datum) (categories : List StoreCategory) : String :=
  (Datum.array ((categories.filter StoreCategory.selected).map encode)).encode

/-- `0.0` stands for a missing coordinate. -/
def coordinate (number : Option Binary64) : String :=
  (number.map fun number => String.ofList number.datum.text).getD "0.0"

def StoreAddress.location (address : StoreAddress) : String :=
  "\x7b\n        \"type\": \"Point\",\n        \"coordinates\": [" ++ coordinate address.lat ++
    ", " ++ coordinate address.lng ++ "]\n      \x7d"

/-- The `policy` is what its text encodes, the `image` the path of the file. -/
structure FormData where
  name : Option String
  description : Option String
  location : String
  address : String
  policy : Json
  workingTime : String
  storeCategories : String
  productCategories : String
  storeRayons : String
  template : Option ℤ
  image : Option String

/-- The category keeps its selected sub-categories only. -/
def ProductCategory.withSelected (category : ProductCategory) : ProductCategory :=
  { category with subCategories := category.subCategories.filter ProductSubCategory.selected }

/-- The selected categories of the form are changed, not copies of them. -/
def prune (categories : List ProductCategory) : List ProductCategory :=
  categories.map fun category =>
    if category.selected = true then category.withSelected else category

namespace StoreCreationSliderValidation

variable (form : StoreCreationSliderValidation)

def pruned : StoreCreationSliderValidation :=
  { form with productCategories := prune form.productCategories }

def selectedCategories : List ProductCategory :=
  form.productCategories.filter ProductCategory.selected

/-- What is put together after the product categories; it may throw. -/
def formData? (policy : Policy) (workingTime : WorkingTime) (productCategories : String) :
    Option FormData := do
  let policy ← policy.toJson.decoded?
  let workingTime ← workingTime.toJson
  some {
    name := form.storeName
    description := form.storeDescription
    location := form.storeAddress.location
    address := form.storeAddress.text
    policy := policy
    workingTime := workingTime
    storeCategories := encodeSelected encodeStoreCategory form.storeCategories
    productCategories := productCategories
    storeRayons := encodeSelected encodeStoreRayon form.storeRayons
    template := ((form.templates.filter StoreCategory.selected).head?).bind StoreCategory.id
    image := form.storeImage }

/-- The form and its data, which stays empty when something throws. -/
def toFormData (policy : Policy) : StoreCreationSliderValidation × Option FormData :=
  match form.workingTimeOption with
  | none => (form, none)
  | some option =>
      let workingTime : WorkingTime :=
        ⟨option, form.fixedWorkingHours, form.customizedWorkingHours⟩
      let after := form.pruned
      (after, after.formData? policy workingTime
        (Datum.array (after.selectedCategories.map encodeCategory)).encode)

def updateProductCategoriesFormData : StoreCreationSliderValidation × String :=
  let after := form.pruned
  (after, (Datum.array (after.selectedCategories.map encodeUpdatedCategory)).encode)

end StoreCreationSliderValidation

end Proximity.Apps.Commercant.StoreForm
