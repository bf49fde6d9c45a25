import Proximity.Catalogue.Housing
import Proximity.Systems.Files

/-!
# Images and the paths that documents hold

Three services store uploaded images.  Each moves and unlinks files before the save that gives
the document its new path.
-/

namespace Proximity.Catalogue.Images

open Proximity.Systems Proximity.Models

/-- The image of a stored user. -/
structure ImagedUser where
  id : ObjectId
  profileImage : Option String
  deriving DecidableEq, Repr

instance : Document ImagedUser ObjectId := ⟨ImagedUser.id⟩

/-- The documents, and the paths below the public directory that are there. -/
structure Storage where
  database : Database
  users : Collection ImagedUser
  files : Finset String

def Storage.withFiles (storage : Storage) (files : Finset String) : Storage :=
  { storage with files := files }

section

variable (storage : Storage) (files : Finset String)

@[simp] theorem withFiles_database : (storage.withFiles files).database = storage.database := rfl
@[simp] theorem withFiles_users : (storage.withFiles files).users = storage.users := rfl
@[simp] theorem withFiles_files : (storage.withFiles files).files = files := rfl

end

/-- What a call learns from outside: which moves land, and whether its save succeeds. -/
structure Outside where
  moves : String → Bool
  saves : Bool

def imagePaths (product : Product) : List String :=
  product.images ++ product.variants.filterMap Variant.img

/-- Every image path that is stored is there. -/
structure Kept (storage : Storage) : Prop where
  products : ∀ product ∈ storage.database.products.docs,
    Present storage.files (imagePaths product)
  stores : ∀ store ∈ storage.database.stores.docs, Present storage.files [store.image]
  users : ∀ user ∈ storage.users.docs, Present storage.files user.profileImage.toList

/-! ## `updateProduct` -/

/-- The checks before anything is moved. -/
def checkedProduct (database : Database) (user : Token) (id : ObjectId) (body : ProductBody) :
    Except Failure Product := do
  let product ← found .productNotFound (database.products.findById? id)
  require .notAuthorized (product.sellerId = user.id)
  require .categoryNotFound (database.hasCategory body.categoryId = true)
  let _ ← found .storeNotFound (database.stores.findById? body.storeId)
  return product

/-- The uploaded images that are moved, up to the first that is missing.  The old images are
unlinked outside the public directory, and an old variant without one throws. -/
def movedImages (product : Product) (body : ProductBody) : List String :=
  match body.variantes, body.varientsImages with
  | some variants, some images =>
      if product.variants.all fun variant => variant.img.isSome then images.take variants.length
      else []
  | _, _ => []

def updateProduct (storage : Storage) (outside : Outside) (user : Token) (id : ObjectId)
    (body : ProductBody) : Storage :=
  match checkedProduct storage.database user id body with
  | .error _ => storage
  | .ok product =>
      let moved := storage.withFiles
        (landAll outside.moves (movedImages product body) storage.files)
      match Housing.changedProduct product body with
      | .error _ => moved
      | .ok changed =>
          if outside.saves then
            { moved with database := { storage.database with
              products := storage.database.products.update id (Collection.become changed) } }
          else moved

/-! ## `updateStore` -/

/-- The files of a store's update: none, some but no `image`, or an image with the path it is
stored under. -/
inductive StoreUpload where
  | noFiles
  | noImage
  | image (path : String)
  deriving DecidableEq, Repr

/-- The fields of a store's body that are parsed when they are texts: none when it is no text,
else whether the service can read it, the ids in it included. -/
structure StoreTexts where
  location : Option Bool
  address : Option Bool
  storeCategories : Option Bool
  productCategories : Option Bool
  storeRayons : Option Bool
  deriving DecidableEq, Repr

def StoreTexts.readable (texts : StoreTexts) : Bool :=
  texts.location.getD true && texts.address.getD true && texts.storeCategories.getD true &&
    texts.productCategories.getD true && texts.storeRayons.getD true

def setStore (storage : Storage) (id : ObjectId) (body : StoreBody) : Storage :=
  { storage with database := { storage.database with
    stores := storage.database.stores.update id (storeUpdate body) } }

/-- The old image is unlinked while the move of the new one is under way. -/
def saveStore (storage : Storage) (outside : Outside) (user : Token) (id : ObjectId)
    (body : StoreBody) (upload : StoreUpload) : Storage :=
  match storage.database.stores.findById? id with
  | none => storage
  | some store =>
      if store.sellerId = user.id then
        match upload with
        | .noFiles => if outside.saves then setStore storage id body else storage
        | .noImage => storage
        | .image path =>
            if store.image ≠ "" then
              if store.image ∈ storage.files then
                let replaced := storage.withFiles
                  (land (outside.moves path) path (storage.files.erase store.image))
                if outside.saves then setStore replaced id { body with image := some path }
                else replaced
              else storage.withFiles (land (outside.moves path) path storage.files)
            else
              let moved := storage.withFiles (land (outside.moves path) path storage.files)
              if outside.saves then setStore moved id { body with image := some path } else moved
      else storage

/-- A text that cannot be read throws before anything is moved. -/
def updateStore (storage : Storage) (outside : Outside) (user : Token) (id : ObjectId)
    (texts : StoreTexts) (body : StoreBody) (upload : StoreUpload) : Storage :=
  if texts.readable then saveStore storage outside user id body upload else storage

/-! ## `updateUserImage` -/

def setProfileImage (path : String) : Update ImagedUser :=
  ⟨fun user => { user with profileImage := some path }, fun _ => rfl⟩

def setUser (storage : Storage) (id : ObjectId) (path : String) : Storage :=
  { storage with users := storage.users.update id (setProfileImage path) }

/-- `user.profileImage`, when it is a path. -/
def oldImage? (storage : Storage) (id : ObjectId) : Option String :=
  (storage.users.findById? id).bind fun user => user.profileImage.filter fun path => path ≠ ""

/-- The old image is unlinked before the upload is looked at; without one the call throws. -/
def updateUserImage (storage : Storage) (outside : Outside) (id : ObjectId)
    (upload : Option String) : Storage :=
  let cleared := match oldImage? storage id with
    | some old => storage.withFiles (storage.files.erase old)
    | none => storage
  match upload with
  | none => cleared
  | some path =>
      let moved := cleared.withFiles (land (outside.moves path) path cleared.files)
      if outside.saves then setUser moved id path else moved

/-! ## Calls -/

inductive Call where
  | updateProduct (user : Token) (id : ObjectId) (body : ProductBody)
  | updateStore (user : Token) (id : ObjectId) (texts : StoreTexts) (body : StoreBody)
      (upload : StoreUpload)
  | updateUserImage (id : ObjectId) (upload : Option String)

def perform (storage : Storage) (outside : Outside) : Call → Storage
  | .updateProduct user id body => updateProduct storage outside user id body
  | .updateStore user id texts body upload =>
      updateStore storage outside user id texts body upload
  | .updateUserImage id upload => updateUserImage storage outside id upload

/-- The path that a new image of a store or a user is stored under. -/
def Call.path? : Call → Option String
  | .updateStore _ _ _ _ (.image path) => some path
  | .updateUserImage _ upload => upload
  | _ => none

/-- The file name of an upload begins with a new identifier. -/
def Fresh (storage : Storage) (call : Call) : Prop :=
  ∀ path, call.path? = some path → path ≠ "" ∧ path ∉ storage.files

/-! ## The documents are those of the services -/

/-- What a service's answer makes of the database. -/
def served (database : Database) : Except Failure Effect → Database
  | .ok effect => database.apply effect
  | .error _ => database

theorem updateProduct_eq (database : Database) (user : Token) (id : ObjectId)
    (body : ProductBody) :
    Catalogue.updateProduct database user id body = (do
      let product ← checkedProduct database user id body
      let variants ← updatedVariants product body
      return { Effect.nothing with
        products := [.update id (productUpdate body variants)] }) := by
  unfold Catalogue.updateProduct checkedProduct
  simp only [bind_assoc, pure_bind]

theorem checkedProduct_spec {database : Database} {user : Token} {id : ObjectId}
    {body : ProductBody} {product : Product}
    (checked : checkedProduct database user id body = .ok product) :
    database.products.findById? id = some product := by
  simp only [checkedProduct, bind_eq_ok_iff, found_eq_ok_iff, pure_eq_ok_iff] at checked
  obtain ⟨_, there, -, -, -, -, -, -, rfl⟩ := checked
  exact there

theorem become_changed {product changed : Product} {body : ProductBody}
    (changes : Housing.changedProduct product body = .ok changed) :
    (Collection.become changed).apply product = changed := by
  simp only [Housing.changedProduct, bind_eq_ok_iff, pure_eq_ok_iff] at changes
  obtain ⟨variants, -, rfl⟩ := changes
  exact if_pos rfl

theorem updateProduct_database {storage : Storage} {outside : Outside}
    (saves : outside.saves = true) (user : Token) (id : ObjectId) (body : ProductBody) :
    (updateProduct storage outside user id body).database =
      served storage.database (Catalogue.updateProduct storage.database user id body) := by
  rw [updateProduct_eq, updateProduct]
  cases checked : checkedProduct storage.database user id body with
  | error failure => rfl
  | ok product =>
      have there := checkedProduct_spec checked
      cases updates : updatedVariants product body with
      | error failure =>
          simp only [Housing.changedProduct, updates, bind, Except.bind]
          rfl
      | ok variants =>
          have changes : Housing.changedProduct product body =
              .ok ((productUpdate body variants).apply product) := by
            simp only [Housing.changedProduct, updates, bind, Except.bind, pure, Except.pure]
          have same : storage.database.products.update id
              (Collection.become ((productUpdate body variants).apply product)) =
                storage.database.products.update id (productUpdate body variants) := by
            refine Collection.update_congr fun stored stored_there => ?_
            cases there.symm.trans stored_there
            exact become_changed changes
          simp only [changes, saves, if_true, updates, bind, Except.bind, pure, Except.pure, same]
          rfl

/-- What `$set` is given. -/
def storedBody (body : StoreBody) : StoreUpload → StoreBody
  | .image path => { body with image := some path }
  | _ => body

theorem updateStore_database {storage : Storage} {outside : Outside} (kept : Kept storage)
    (saves : outside.saves = true) (user : Token) (id : ObjectId) {texts : StoreTexts}
    (readable : texts.readable = true) (body : StoreBody) {upload : StoreUpload}
    (image : upload ≠ .noImage) :
    (updateStore storage outside user id texts body upload).database =
      served storage.database
        (Catalogue.updateStore storage.database user id (storedBody body upload)) := by
  rw [updateStore, if_pos readable]
  unfold saveStore Catalogue.updateStore
  cases shop : storage.database.stores.findById? id with
  | none => rfl
  | some store =>
      by_cases owner : store.sellerId = user.id
      · simp only [if_pos owner, found, require, bind, Except.bind, saves, if_true]
        cases upload with
        | noFiles => rfl
        | noImage => exact absurd rfl image
        | image path =>
            dsimp only
            split
            case isTrue filled =>
                have there : store.image ∈ storage.files :=
                  kept.stores store (Collection.findById?_eq_some_iff.mp shop).1 store.image
                    List.mem_cons_self filled
                rw [if_pos there]
                rfl
            case isFalse => rfl
      · simp only [if_neg owner, found, require, bind, Except.bind]
        rfl

/-! ## What the calls should leave alone -/

/-- A single variant that is named as the product. -/
def standsAlone (body : ProductBody) : List VariantBody → Bool
  | [given] => decide (standsForProduct body given = .ok true)
  | _ => false

/-- The images that variants bring in: their own, or the uploaded ones. -/
def broughtImages (variants : List VariantBody) : Option (List String) → List String
  | none => variants.filterMap VariantBody.img
  | some images => images.take variants.length

def givenVariantImages (body : ProductBody) : List String :=
  match body.variantes with
  | none => []
  | some variants =>
      if standsAlone body variants then [] else broughtImages variants body.varientsImages

def givenImages (body : ProductBody) : List String :=
  body.images.getD [] ++ givenVariantImages body

/-- No document but the given store or user holds the path. -/
structure Unshared (storage : Storage) (path : String) (ofStore ofUser : Option ObjectId) :
    Prop where
  products : ∀ product ∈ storage.database.products.docs, path ∉ imagePaths product
  stores : ∀ store ∈ storage.database.stores.docs, some store.id ≠ ofStore → store.image ≠ path
  users : ∀ user ∈ storage.users.docs, some user.id ≠ ofUser → user.profileImage ≠ some path

/-- The owner's update of the store leaves every path there. -/
def SparesStoreImages (storage : Storage) (outside : Outside) (store : Store) (body : StoreBody) :
    StoreUpload → Prop
  | .noFiles => outside.saves = true → Present storage.files body.image.toList
  | .noImage => True
  | .image path =>
      if store.image = "" then outside.saves = true → outside.moves path = true
      else outside.saves = true ∧ outside.moves path = true ∧
        Unshared storage store.image (some store.id) none

/-- The same for a user's image: the old one, and the upload. -/
def SparesUserImages (storage : Storage) (outside : Outside) (id : ObjectId) :
    Option String → Option String → Prop
  | none, none => True
  | none, some path => (storage.users.findById? id).isSome = true →
      outside.saves = true → outside.moves path = true
  | some _, none => False
  | some old, some path => outside.saves = true ∧ outside.moves path = true ∧
      Unshared storage old none (some id)

def SparesImages (storage : Storage) (outside : Outside) : Call → Prop
  | .updateProduct user id body =>
      ∀ product, checkedProduct storage.database user id body = .ok product →
        ∀ changed, Housing.changedProduct product body = .ok changed → outside.saves = true →
          Present (landAll outside.moves (movedImages product body) storage.files)
            (givenImages body)
  | .updateStore user id texts body upload =>
      texts.readable = true → ∀ store, storage.database.stores.findById? id = some store →
        store.sellerId = user.id → SparesStoreImages storage outside store body upload
  | .updateUserImage id upload =>
      SparesUserImages storage outside id (oldImage? storage id) upload

/-! ## The images of a changed product -/

section Product

variable {product changed : Product} {body : ProductBody} {files : Finset String}

theorem variantImages_images {uploads : Option (List String)} {variants : List VariantBody}
    {images : List (Option String)}
    (placed : variantImages product uploads variants = .ok images) :
    images.filterMap id = broughtImages variants uploads := by
  unfold variantImages at placed
  split at placed
  case h_1 =>
      cases placed
      rw [List.filterMap_map]
      rfl
  case h_2 given =>
      simp only [bind_eq_ok_iff, require_eq_ok_iff, pure_eq_ok_iff] at placed
      obtain ⟨-, -, -, -, rfl⟩ := placed
      rw [List.filterMap_map]
      exact List.filterMap_some

/-- The single variant that stands for the product takes the product's first image. -/
theorem updatedVariants_images {given : List VariantBody} {variants : List Variant}
    (asked : body.variantes = some given)
    (updated : updatedVariants product body = .ok variants) :
    variants.filterMap Variant.img =
      if standsAlone body given then product.images.head?.toList
      else broughtImages given body.varientsImages := by
  rcases updatedVariants_cases asked updated with
    ⟨alone, variant, rfl, stands, made, rfl⟩ | ⟨images, placed, cast, several⟩
  · simp only [productVariant, bind_eq_ok_iff, found_eq_ok_iff, pure_eq_ok_iff] at made
    obtain ⟨price, -, quantity, -, characterstics, -, rfl⟩ := made
    have yes : standsAlone body [alone] = true := decide_eq_true stands
    rw [if_pos yes]
    cases product.images.head? <;> rfl
  · have no : ¬standsAlone body given = true := by
      unfold standsAlone
      split
      case h_1 alone => exact fun yes => several alone rfl (of_decide_eq_true yes)
      case h_2 => exact Bool.false_ne_true
    rw [if_neg no, ← variantImages_images placed,
      ← castVariants_images (variantImages_length placed) cast, List.filterMap_map]
    rfl

theorem present_head (present : Present files product.images) :
    Present files product.images.head?.toList := by
  refine present.of_subset fun path member => ?_
  exact List.mem_of_head? (Option.mem_toList.mp member)

/-- The images of the saved copy are there exactly when those that the body brings in are. -/
theorem present_changed_iff (changes : Housing.changedProduct product body = .ok changed)
    (present : Present files (imagePaths product)) :
    Present files (imagePaths changed) ↔ Present files (givenImages body) := by
  simp only [Housing.changedProduct, bind_eq_ok_iff, pure_eq_ok_iff] at changes
  obtain ⟨variants, updated, rfl⟩ := changes
  have old_images : Present files product.images := (present_append.mp present).1
  have images : Present files (body.images.getD product.images) ↔
      Present files (body.images.getD []) := by
    cases body.images with
    | none => exact iff_of_true old_images present_nil
    | some images => exact Iff.rfl
  have of_variants : Present files (variants.filterMap Variant.img) ↔
      Present files (givenVariantImages body) := by
    unfold givenVariantImages
    cases asked : body.variantes with
    | none =>
        rw [updatedVariants, asked] at updated
        cases updated
        exact Iff.rfl
    | some given =>
        rw [updatedVariants_images asked updated]
        dsimp only
        split
        · exact iff_of_true (present_head old_images) present_nil
        · exact Iff.rfl
  simp only [imagePaths, givenImages, present_append, productUpdate, images, of_variants]

end Product

/-! ## One call -/

section Calls

variable {storage : Storage} {outside : Outside} {user : Token} {id : ObjectId}

theorem Kept.mono {files : Finset String} (kept : Kept storage) (grows : storage.files ⊆ files) :
    Kept (storage.withFiles files) where
  products product stored := (kept.products product stored).mono grows
  stores store stored := (kept.stores store stored).mono grows
  users user stored := (kept.users user stored).mono grows

theorem updateProduct_kept_iff (kept : Kept storage) (body : ProductBody) :
    Kept (updateProduct storage outside user id body) ↔
      SparesImages storage outside (.updateProduct user id body) := by
  unfold updateProduct
  cases checked : checkedProduct storage.database user id body with
  | error failure =>
      refine iff_of_true kept fun product passed => ?_
      cases checked.symm.trans passed
  | ok product =>
      have grows : storage.files ⊆
          landAll outside.moves (movedImages product body) storage.files :=
        fun path there => mem_landAll.mpr (Or.inl there)
      have moved := kept.mono grows
      dsimp only
      cases changes : Housing.changedProduct product body with
      | error failure =>
          refine iff_of_true moved fun other passed copy copied => ?_
          cases checked.symm.trans passed
          cases changes.symm.trans copied
      | ok changed =>
          dsimp only
          split
          case isTrue saves =>
              have there := checkedProduct_spec checked
              have present : Present
                  (landAll outside.moves (movedImages product body) storage.files)
                  (imagePaths product) :=
                moved.products product (Collection.findById?_eq_some_iff.mp there).1
              have own : (∀ doc ∈
                  (storage.database.products.update id (Collection.become changed)).docs,
                    Present (landAll outside.moves (movedImages product body) storage.files)
                      (imagePaths doc)) ↔
                  Present (landAll outside.moves (movedImages product body) storage.files)
                    (imagePaths ((Collection.become changed).apply product)) :=
                Collection.forall_update_iff (fun other member _ => moved.products other member)
                  there
              rw [become_changed changes, present_changed_iff changes present] at own
              constructor
              · intro after other passed copy copied _
                cases checked.symm.trans passed
                exact own.mp after.products
              · intro spares
                exact ⟨own.mpr (spares product checked changed changes saves), moved.stores,
                  moved.users⟩
          case isFalse unsaved =>
              exact iff_of_true moved fun _ _ _ _ saves => absurd saves unsaved

/-- After a store's update every path is there exactly when those of the others and its own are. -/
theorem setStore_kept_iff {store : Store}
    (found : storage.database.stores.findById? id = some store) (body : StoreBody) :
    Kept (setStore storage id body) ↔
      (∀ product ∈ storage.database.products.docs, Present storage.files (imagePaths product)) ∧
      (∀ other ∈ storage.database.stores.docs, other.id ≠ id →
        Present storage.files [other.image]) ∧
      Present storage.files [body.image.getD store.image] ∧
      (∀ user ∈ storage.users.docs, Present storage.files user.profileImage.toList) := by
  have stores : (∀ other ∈ (storage.database.stores.update id (storeUpdate body)).docs,
      Present storage.files [other.image]) ↔
        (∀ other ∈ storage.database.stores.docs, other.id ≠ id →
          Present storage.files [other.image]) ∧
        Present storage.files [body.image.getD store.image] :=
    Collection.forall_update_iff_and found
  constructor
  · intro after
    exact ⟨after.products, (stores.mp after.stores).1, (stores.mp after.stores).2, after.users⟩
  · rintro ⟨products, others, own, users⟩
    exact ⟨products, stores.mpr ⟨others, own⟩, users⟩

/-- What the others hold is there after the old path has given way to a new one exactly when
they do not hold the old one. -/
theorem others_replaced_iff (kept : Kept storage) {old path : String} (filled : old ≠ "")
    (fresh : path ∉ storage.files) (moves : Bool) (ofStore ofUser : Option ObjectId) :
    ((∀ product ∈ storage.database.products.docs,
        Present (land moves path (storage.files.erase old)) (imagePaths product)) ∧
      (∀ store ∈ storage.database.stores.docs, some store.id ≠ ofStore →
        Present (land moves path (storage.files.erase old)) [store.image]) ∧
      (∀ user ∈ storage.users.docs, some user.id ≠ ofUser →
        Present (land moves path (storage.files.erase old)) user.profileImage.toList)) ↔
      Unshared storage old ofStore ofUser := by
  have products : ∀ product ∈ storage.database.products.docs,
      (Present (land moves path (storage.files.erase old)) (imagePaths product) ↔
        old ∉ imagePaths product) :=
    fun product stored => present_replaced_iff (kept.products product stored) filled fresh moves
  have stores : ∀ store ∈ storage.database.stores.docs,
      (Present (land moves path (storage.files.erase old)) [store.image] ↔
        store.image ≠ old) := by
    intro store stored
    rw [present_replaced_iff (kept.stores store stored) filled fresh moves, List.mem_singleton,
      eq_comm]
  have users : ∀ user ∈ storage.users.docs,
      (Present (land moves path (storage.files.erase old)) user.profileImage.toList ↔
        user.profileImage ≠ some old) := by
    intro user stored
    rw [present_replaced_iff (kept.users user stored) filled fresh moves, Option.mem_toList]
  constructor
  · rintro ⟨of_products, of_stores, of_users⟩
    exact ⟨fun product stored => (products product stored).mp (of_products product stored),
      fun store stored other => (stores store stored).mp (of_stores store stored other),
      fun user stored other => (users user stored).mp (of_users user stored other)⟩
  · intro unshared
    exact ⟨fun product stored => (products product stored).mpr (unshared.products product stored),
      fun store stored other => (stores store stored).mpr (unshared.stores store stored other),
      fun user stored other => (users user stored).mpr (unshared.users user stored other)⟩

theorem replaceStore_kept_iff (kept : Kept storage) {store : Store}
    (found : storage.database.stores.findById? id = some store) (filled : store.image ≠ "")
    {path : String} (new : path ≠ "" ∧ path ∉ storage.files) (moves : Bool) (body : StoreBody) :
    Kept (setStore (storage.withFiles (land moves path (storage.files.erase store.image))) id
        { body with image := some path }) ↔
      moves = true ∧ Unshared storage store.image (some id) none := by
  have own : Present (land moves path (storage.files.erase store.image)) [path] ↔ moves = true :=
    present_landed_iff new.1 (fun there => new.2 (Finset.mem_of_mem_erase there)) moves
  have others := others_replaced_iff kept filled new.2 moves (some id) none
  have there : (storage.withFiles
      (land moves path (storage.files.erase store.image))).database.stores.findById? id =
        some store := found
  rw [setStore_kept_iff there, ← others]
  simp only [withFiles_database, withFiles_users, withFiles_files, Option.getD_some, own, ne_eq,
    Option.some.injEq, reduceCtorEq, not_false_eq_true, forall_const]
  tauto

/-- Without an upload the path of the body has to be there, if it has one. -/
theorem sameImage_kept_iff (kept : Kept storage) {store : Store}
    (found : storage.database.stores.findById? id = some store) (body : StoreBody) :
    Kept (setStore storage id body) ↔ Present storage.files body.image.toList := by
  have stored := (Collection.findById?_eq_some_iff.mp found).1
  rw [setStore_kept_iff found]
  constructor
  · intro after path given filled
    rw [Option.mem_toList.mp given] at after
    exact after.2.2.1 path List.mem_cons_self filled
  · intro present
    refine ⟨kept.products, fun other there _ => kept.stores other there, ?_, kept.users⟩
    cases given : body.image with
    | none => exact kept.stores store stored
    | some path =>
        rw [given] at present
        exact present

/-- A first image only has to land. -/
theorem firstImage_kept_iff (kept : Kept storage) {store : Store}
    (found : storage.database.stores.findById? id = some store)
    {path : String} (new : path ≠ "" ∧ path ∉ storage.files) (moves : Bool) (body : StoreBody) :
    Kept (setStore (storage.withFiles (land moves path storage.files)) id
        { body with image := some path }) ↔ moves = true := by
  have moved := kept.mono (subset_land moves path storage.files)
  have there : (storage.withFiles (land moves path storage.files)).database.stores.findById? id =
      some store := found
  rw [setStore_kept_iff there, ← present_landed_iff new.1 new.2 moves]
  exact ⟨fun after => after.2.2.1, fun own =>
    ⟨moved.products, fun other stored _ => moved.stores other stored, own, moved.users⟩⟩

/-- A store's image that has gone is missing. -/
theorem not_kept_of_store {store : Store} (stored : store ∈ storage.database.stores.docs)
    (filled : store.image ≠ "") {files : Finset String} (gone : store.image ∉ files) :
    ¬ Kept (storage.withFiles files) :=
  fun after => gone (after.stores store stored store.image List.mem_cons_self filled)

theorem saveStore_kept_iff (kept : Kept storage) (body : StoreBody) (upload : StoreUpload)
    (fresh : ∀ path, upload = .image path → path ≠ "" ∧ path ∉ storage.files) :
    Kept (saveStore storage outside user id body upload) ↔
      ∀ store, storage.database.stores.findById? id = some store → store.sellerId = user.id →
        SparesStoreImages storage outside store body upload := by
  unfold saveStore
  cases found : storage.database.stores.findById? id with
  | none => exact iff_of_true kept nofun
  | some store =>
      obtain ⟨stored, named⟩ := Collection.findById?_eq_some_iff.mp found
      dsimp only
      split
      case isFalse stranger =>
          refine iff_of_true kept fun other there owner => ?_
          cases there
          exact absurd owner stranger
      case isTrue owner =>
          have condition : (∀ other, some store = some other → other.sellerId = user.id →
              SparesStoreImages storage outside other body upload) ↔
                SparesStoreImages storage outside store body upload :=
            ⟨fun spares => spares store rfl owner, fun spares other there _ => by
              cases there
              exact spares⟩
          rw [condition]
          cases upload with
          | noImage => exact iff_of_true kept trivial
          | noFiles =>
              dsimp only [SparesStoreImages]
              split
              case isFalse unsaved => exact iff_of_true kept fun saves => absurd saves unsaved
              case isTrue saves =>
                  rw [sameImage_kept_iff kept found body]
                  exact ⟨fun present _ => present, fun present => present saves⟩
          | image path =>
              have new : path ≠ "" ∧ path ∉ storage.files := fresh path rfl
              dsimp only [SparesStoreImages]
              by_cases first : store.image = ""
              · rw [if_neg (not_not.mpr first), if_pos first]
                split
                case isTrue saves =>
                    rw [firstImage_kept_iff kept found new]
                    exact ⟨fun landed _ => landed, fun lands => lands saves⟩
                case isFalse unsaved =>
                    exact iff_of_true (kept.mono (subset_land _ _ _))
                      fun saves => absurd saves unsaved
              · have there : store.image ∈ storage.files :=
                  kept.stores store stored store.image List.mem_cons_self first
                rw [if_pos first, if_pos there, if_neg first]
                split
                case isTrue saves =>
                    rw [replaceStore_kept_iff kept found first new, ← named]
                    exact (and_iff_right saves).symm
                case isFalse unsaved =>
                    exact iff_of_false
                      (not_kept_of_store stored first (replaced_gone there new.2 _))
                      fun spares => unsaved spares.1

theorem updateStore_kept_iff (kept : Kept storage) (texts : StoreTexts) (body : StoreBody)
    (upload : StoreUpload) (fresh : Fresh storage (.updateStore user id texts body upload)) :
    Kept (updateStore storage outside user id texts body upload) ↔
      SparesImages storage outside (.updateStore user id texts body upload) := by
  unfold updateStore
  split
  case isTrue readable =>
      have new : ∀ path, upload = .image path → path ≠ "" ∧ path ∉ storage.files := by
        rintro path rfl
        exact fresh path rfl
      rw [saveStore_kept_iff kept body upload new, SparesImages, forall_prop_of_true readable]
  case isFalse unreadable => exact iff_of_true kept fun readable => absurd readable unreadable

theorem oldImage?_eq_some_iff {old : String} :
    oldImage? storage id = some old ↔ old ≠ "" ∧
      ∃ imaged, storage.users.findById? id = some imaged ∧ imaged.profileImage = some old := by
  simp only [oldImage?, Option.bind_eq_some_iff, Option.filter_eq_some_iff, decide_eq_true_eq]
  constructor
  · rintro ⟨imaged, there, holds, filled⟩
    exact ⟨filled, imaged, there, holds⟩
  · rintro ⟨filled, imaged, there, holds⟩
    exact ⟨imaged, there, holds, filled⟩

theorem setUser_kept_iff {imaged : ImagedUser}
    (found : storage.users.findById? id = some imaged) (path : String) :
    Kept (setUser storage id path) ↔
      (∀ product ∈ storage.database.products.docs, Present storage.files (imagePaths product)) ∧
      (∀ store ∈ storage.database.stores.docs, Present storage.files [store.image]) ∧
      (∀ other ∈ storage.users.docs, other.id ≠ id →
        Present storage.files other.profileImage.toList) ∧
      Present storage.files [path] := by
  have users : (∀ other ∈ (storage.users.update id (setProfileImage path)).docs,
      Present storage.files other.profileImage.toList) ↔
        (∀ other ∈ storage.users.docs, other.id ≠ id →
          Present storage.files other.profileImage.toList) ∧ Present storage.files [path] :=
    Collection.forall_update_iff_and found
  constructor
  · intro after
    exact ⟨after.products, after.stores, (users.mp after.users).1, (users.mp after.users).2⟩
  · rintro ⟨products, stores, others, own⟩
    exact ⟨products, stores, users.mpr ⟨others, own⟩⟩

/-- The new image of a user without an old one only has to land, if there is such a user. -/
theorem firstUserImage_kept_iff (kept : Kept storage) {path : String}
    (new : path ≠ "" ∧ path ∉ storage.files) (moves : Bool) :
    Kept (setUser (storage.withFiles (land moves path storage.files)) id path) ↔
      ((storage.users.findById? id).isSome = true → moves = true) := by
  have moved := kept.mono (subset_land moves path storage.files)
  cases found : storage.users.findById? id with
  | none =>
      refine iff_of_true ⟨moved.products, moved.stores, fun user stored => ?_⟩ nofun
      rcases Collection.mem_update.mp stored with ⟨old, -⟩ | ⟨before, there, -⟩
      · exact moved.users user old
      · cases found.symm.trans there
  | some imaged =>
      have there : (storage.withFiles (land moves path storage.files)).users.findById? id =
          some imaged := found
      rw [setUser_kept_iff there]
      have own := present_landed_iff new.1 new.2 moves
      constructor
      · exact fun after _ => own.mp after.2.2.2
      · exact fun lands => ⟨moved.products, moved.stores,
          fun other stored _ => moved.users other stored, own.mpr (lands rfl)⟩

theorem replaceUserImage_kept_iff (kept : Kept storage) {old path : String}
    (held : oldImage? storage id = some old) (new : path ≠ "" ∧ path ∉ storage.files)
    (moves : Bool) :
    Kept (setUser (storage.withFiles (land moves path (storage.files.erase old))) id path) ↔
      moves = true ∧ Unshared storage old none (some id) := by
  obtain ⟨filled, imaged, found, -⟩ := oldImage?_eq_some_iff.mp held
  have own : Present (land moves path (storage.files.erase old)) [path] ↔ moves = true :=
    present_landed_iff new.1 (fun there => new.2 (Finset.mem_of_mem_erase there)) moves
  have others := others_replaced_iff kept filled new.2 moves none (some id)
  have there : (storage.withFiles
      (land moves path (storage.files.erase old))).users.findById? id = some imaged := found
  rw [setUser_kept_iff there, ← others]
  simp only [withFiles_database, withFiles_users, withFiles_files, own, ne_eq, Option.some.injEq,
    reduceCtorEq, not_false_eq_true, forall_const]
  tauto

theorem not_kept_of_user {old : String} (held : oldImage? storage id = some old)
    {files : Finset String} (gone : old ∉ files) : ¬ Kept (storage.withFiles files) := by
  obtain ⟨filled, imaged, found, holds⟩ := oldImage?_eq_some_iff.mp held
  intro after
  exact gone (after.users imaged (Collection.findById?_eq_some_iff.mp found).1 old
    (Option.mem_toList.mpr holds) filled)

theorem oldImage?_mem (kept : Kept storage) {old : String}
    (held : oldImage? storage id = some old) : old ∈ storage.files := by
  obtain ⟨filled, imaged, found, holds⟩ := oldImage?_eq_some_iff.mp held
  exact kept.users imaged (Collection.findById?_eq_some_iff.mp found).1 old
    (Option.mem_toList.mpr holds) filled

theorem updateUserImage_kept_iff (kept : Kept storage) (upload : Option String)
    (fresh : Fresh storage (.updateUserImage id upload)) :
    Kept (updateUserImage storage outside id upload) ↔
      SparesImages storage outside (.updateUserImage id upload) := by
  rw [SparesImages]
  unfold updateUserImage
  cases held : oldImage? storage id with
  | none =>
      cases upload with
      | none => exact iff_of_true kept trivial
      | some path =>
          dsimp only
          split
          case isTrue saves =>
              refine (firstUserImage_kept_iff kept (fresh path rfl) _).trans ?_
              exact ⟨fun lands there _ => lands there, fun lands there => lands there saves⟩
          case isFalse unsaved =>
              exact iff_of_true (kept.mono (subset_land _ _ _))
                fun _ saves => absurd saves unsaved
  | some old =>
      cases upload with
      | none =>
          exact iff_of_false (not_kept_of_user held (Finset.notMem_erase old storage.files))
            not_false
      | some path =>
          dsimp only
          split
          case isTrue saves =>
              refine (replaceUserImage_kept_iff kept held (fresh path rfl) _).trans ?_
              exact (and_iff_right saves).symm
          case isFalse unsaved =>
              refine iff_of_false (not_kept_of_user held ?_) fun spares => unsaved spares.1
              exact replaced_gone (oldImage?_mem kept held) (fresh path rfl).2 _

end Calls

/-! ## Every call -/

/-- User 7 has a profile image. -/
def portrait : Storage where
  database := ⟨Collection.empty, Collection.empty, Collection.empty, []⟩
  users := ⟨[⟨7, some "images/users/a.png"⟩], List.nodup_singleton 7⟩
  files := {"images/users/a.png"}

theorem portrait_kept : Kept portrait where
  products _ stored := absurd stored List.not_mem_nil
  stores _ stored := absurd stored List.not_mem_nil
  users user stored := by
    cases List.mem_singleton.mp stored
    intro path member _
    cases Option.mem_toList.mp member
    exact Finset.mem_singleton_self _

end Proximity.Catalogue.Images
