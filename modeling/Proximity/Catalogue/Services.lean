import Proximity.Models.Catalogue
import Proximity.Models.Joi
import Proximity.Systems.Checks

/-!
# The product, store and offer services behind their routes

A request is answered with the writes it makes or with the error it throws before
any write.  The counters of a product are written apart from the rest.
-/

namespace Proximity.Catalogue

open Proximity.Systems Proximity.Models

/-- The collections, and the ids of the stored categories. -/
structure Database where
  products : Collection Product
  stores : Collection Store
  offers : Collection Offer
  categories : List ObjectId

def Database.hasCategory (database : Database) (id : Option ObjectId) : Bool :=
  id.any fun category => decide (category ∈ database.categories)

inductive Failure where
  | productNotFound
  | productMissing
  | categoryNotFound
  | storeNotFound
  | storeMissing
  | notAuthorized
  | notYourProduct
  | noFiles
  | productDoesNotExist
  | alreadyOffered
  | offerNotFound
  | offerNotAuthorized
  | storeNotAuthorized
  | typeError
  | notSaved
  | noToken
  | forbidden
  deriving DecidableEq, Repr

/-- A change of a product's counters alone. -/
structure Count where
  id : ObjectId
  change : ProductCounters → ProductCounters

structure Effect where
  products : List (Write Product)
  stores : List (Write Store)
  offers : List (Write Offer)
  counts : List Count

def Effect.nothing : Effect := ⟨[], [], [], []⟩

def Count.update (count : Count) : Update Product :=
  ⟨fun product => { product with counters := count.change product.counters }, fun _ => rfl⟩

def Database.apply (database : Database) (effect : Effect) : Database where
  products := Write.applyAll (Write.applyAll database.products effect.products)
    (effect.counts.map fun count => .update count.id count.update)
  stores := Write.applyAll database.stores effect.stores
  offers := Write.applyAll database.offers effect.offers
  categories := database.categories

/-! ## Products -/

/-- A variant of a body; `newId` is the id that mongoose draws for one without. -/
structure VariantBody where
  id : Option String
  newId : String
  price : Option JoiNumber
  quantity : Option JoiNumber
  characterstics : Option (List Characteristic)
  img : Option String
  available : Option Bool
  deriving DecidableEq, Repr

/-- The body of an update, whose policy may be given as `null`; `varientsImages` are the paths
the uploaded images are stored under. -/
structure ProductBody where
  name : Option String
  price : Option JoiNumber
  description : Option String
  tags : Option (List String)
  discount : Option JoiNumber
  images : Option (List String)
  storeId : ObjectId
  policy : Option (Option Policy)
  categoryId : Option ObjectId
  subCategoryId : Option ObjectId
  storeCategoryId : Option ObjectId
  rayonId : Option ObjectId
  variantes : Option (List VariantBody)
  varientsImages : Option (List String)
  deriving DecidableEq, Repr

/-- The image of each variant: the one it is given with, or the new one.  The old images are
unlinked first, which throws when a variant has none, and so does an image that is missing from
the upload. -/
def variantImages (product : Product) (uploads : Option (List String))
    (variants : List VariantBody) : Except Failure (List (Option String)) :=
  match uploads with
  | none => .ok (variants.map VariantBody.img)
  | some images => do
      require .typeError (product.variants.all fun variant => variant.img.isSome)
      require .typeError (variants.length ≤ images.length)
      return (images.take variants.length).map some

/-- A variant as mongoose casts and validates it. -/
def castVariant (given : VariantBody) (img : Option String) : Except Failure Variant := do
  let price ← found .notSaved given.price
  let characterstics ← found .notSaved given.characterstics
  return ⟨given.id.getD given.newId, characterstics, price.value,
    (given.quantity.map JoiNumber.value).getD 1, img, given.available.getD true⟩

def castVariants : List VariantBody → List (Option String) → Except Failure (List Variant)
  | given :: rest, img :: images => do
      let variant ← castVariant given img
      let variants ← castVariants rest images
      return variant :: variants
  | _, _ => .ok []

theorem variantImages_length {product : Product} {uploads : Option (List String)}
    {variants : List VariantBody} {images : List (Option String)}
    (placed : variantImages product uploads variants = .ok images) :
    images.length = variants.length := by
  unfold variantImages at placed
  split at placed
  case h_1 =>
      cases placed
      exact List.length_map _
  case h_2 given =>
      simp only [bind_eq_ok_iff, require_eq_ok_iff, pure_eq_ok_iff] at placed
      obtain ⟨-, -, -, enough, rfl⟩ := placed
      rw [List.length_map, List.length_take, Nat.min_eq_left enough]

/-- The variants are cast one by one. -/
theorem castVariants_cons {given : VariantBody} {rest : List VariantBody} {img : Option String}
    {images : List (Option String)} {stored : List Variant}
    (cast : castVariants (given :: rest) (img :: images) = .ok stored) :
    ∃ variant variants, castVariant given img = .ok variant ∧
      castVariants rest images = .ok variants ∧ stored = variant :: variants := by
  simp only [castVariants, bind_eq_ok_iff, pure_eq_ok_iff] at cast
  obtain ⟨variant, cast_head, variants, cast_rest, rfl⟩ := cast
  exact ⟨variant, variants, cast_head, cast_rest, rfl⟩

/-- A cast variant has what it was given. -/
theorem castVariant_spec {given : VariantBody} {img : Option String} {stored : Variant}
    (cast : castVariant given img = .ok stored) :
    stored.id = given.id.getD given.newId ∧ some stored.characterstics = given.characterstics ∧
      some stored.price = given.price.map JoiNumber.value ∧
      stored.quantity = (given.quantity.map JoiNumber.value).getD 1 ∧ stored.img = img ∧
      stored.available = given.available.getD true := by
  simp only [castVariant, bind_eq_ok_iff, found_eq_ok_iff, pure_eq_ok_iff] at cast
  obtain ⟨price, priced, characterstics, described, rfl⟩ := cast
  exact ⟨rfl, described.symm, by rw [priced]; rfl, rfl, rfl, rfl⟩

theorem castVariants_images {given : List VariantBody} {images : List (Option String)}
    {stored : List Variant} (same : images.length = given.length)
    (cast : castVariants given images = .ok stored) : stored.map Variant.img = images := by
  induction given generalizing images stored with
  | nil =>
      cases cast
      exact (List.length_eq_zero_iff.mp same).symm
  | cons head rest ih =>
      cases images with
      | nil => cases same
      | cons img images =>
          obtain ⟨variant, variants, cast_head, cast_rest, rfl⟩ := castVariants_cons cast
          obtain ⟨-, -, -, -, pictured, -⟩ := castVariant_spec cast_head
          rw [List.map_cons, pictured, ih (Nat.succ.inj same) cast_rest]

/-- `variantes[0].characterstics[0].value == name`. -/
def standsForProduct (body : ProductBody) (given : VariantBody) : Except Failure Bool :=
  match given.characterstics with
  | some (characteristic :: _) => .ok (decide (characteristic.value = body.name))
  | _ => .error .typeError

/-- The single variant that stands for the product takes the product's price and first image,
and its quantity is written again. -/
def productVariant (product : Product) (body : ProductBody) (given : VariantBody) :
    Except Failure Variant := do
  let price ← found .notSaved body.price
  let quantity ← found .notSaved given.quantity
  let characterstics ← found .notSaved given.characterstics
  return ⟨given.id.getD given.newId, characterstics, price.value, quantity.value,
    product.images.head?, given.available.getD true⟩

/-- The variants that the product gets; a body without any takes the old ones away. -/
def updatedVariants (product : Product) (body : ProductBody) : Except Failure (List Variant) :=
  match body.variantes with
  | none => .ok []
  | some variants => do
      let images ← variantImages product body.varientsImages variants
      match variants with
      | [given] => do
          let stands ← standsForProduct body given
          if stands then do
            let variant ← productVariant product body given
            return [variant]
          else castVariants [given] images
      | _ => castVariants variants images

/-- Given variants are cast as they are, or a single one stands for the product. -/
theorem updatedVariants_cases {product : Product} {body : ProductBody}
    {variants : List VariantBody} {stored : List Variant}
    (given : body.variantes = some variants)
    (updated : updatedVariants product body = .ok stored) :
    (∃ alone variant, variants = [alone] ∧ standsForProduct body alone = .ok true ∧
      productVariant product body alone = .ok variant ∧ stored = [variant]) ∨
    ∃ images, variantImages product body.varientsImages variants = .ok images ∧
      castVariants variants images = .ok stored ∧
      ∀ alone, variants = [alone] → standsForProduct body alone ≠ .ok true := by
  unfold updatedVariants at updated
  simp only [given, bind_eq_ok_iff] at updated
  obtain ⟨images, placed, updated⟩ := updated
  split at updated
  case h_1 alone =>
      simp only [bind_eq_ok_iff] at updated
      obtain ⟨stands, judged, updated⟩ := updated
      split at updated
      case isTrue yes =>
          simp only [bind_eq_ok_iff, pure_eq_ok_iff] at updated
          obtain ⟨variant, made, rfl⟩ := updated
          exact Or.inl ⟨alone, variant, rfl, yes ▸ judged, made, rfl⟩
      case isFalse no =>
          refine Or.inr ⟨images, placed, updated, fun other same => ?_⟩
          cases same
          rw [judged]
          exact fun stands_too => no (Except.ok.inj stands_too)
  case h_2 several =>
      exact Or.inr ⟨images, placed, updated, fun other same => absurd same (several other)⟩

/-- `body.price || product.price`. -/
def orKept (given : Option JoiNumber) (kept : ℚ) : ℚ :=
  ((given.filter JoiNumber.truthy).map JoiNumber.value).getD kept

theorem orKept_of_truthy {number : JoiNumber} (counts : number.truthy = true) (kept : ℚ) :
    orKept (some number) kept = number.value := by
  rw [orKept, Option.filter_some, if_pos counts]
  rfl

/-- Only the number 0 is dropped. -/
theorem orKept_zero (kept : ℚ) : orKept (some (.number 0)) kept = kept := by
  rw [orKept, Option.filter_some, if_neg (by decide)]
  rfl

/-- The old number stays unless another one is given that counts as true. -/
theorem orKept_eq_kept_iff {given : Option JoiNumber} {kept : ℚ} :
    orKept given kept = kept ↔
      ∀ number, given = some number → number.truthy = true → number.value = kept := by
  cases given with
  | none => exact iff_of_true rfl nofun
  | some number =>
      simp only [Option.some.injEq, forall_eq']
      cases counts : number.truthy with
      | true => rw [orKept_of_truthy counts, forall_prop_of_true rfl]
      | false =>
          rw [JoiNumber.truthy_eq_false_iff.mp counts, orKept_zero]
          exact iff_of_true rfl nofun

theorem orKept_eq_given_iff {given : Option JoiNumber} {kept : ℚ} :
    orKept given kept = (given.map JoiNumber.value).getD kept ↔
      (given = some (.number 0) → kept = 0) := by
  cases given with
  | none => simp [orKept]
  | some number =>
      cases counts : number.truthy with
      | true =>
          refine iff_of_true (orKept_of_truthy counts kept) fun same => ?_
          cases same
          cases counts
      | false =>
          rw [JoiNumber.truthy_eq_false_iff.mp counts, orKept_zero]
          simp

def textOrKept (given : Option String) (kept : String) : String :=
  (given.filter fun text => text ≠ "").getD kept

def productUpdate (body : ProductBody) (variants : List Variant) : Update Product where
  apply product := { product with
    variants := variants
    name := textOrKept body.name product.name
    price := orKept body.price product.price
    description := textOrKept body.description product.description
    tags := body.tags.getD product.tags
    discount := orKept body.discount product.discount
    images := body.images.getD product.images
    storeId := body.storeId
    policy := body.policy.join.or product.policy
    categoryId := body.categoryId.getD product.categoryId
    subCategoryId := body.subCategoryId.getD product.subCategoryId
    storeCategoryId := body.storeCategoryId.getD product.storeCategoryId
    rayonId := body.rayonId.getD product.rayonId }
  keepsId _ := rfl

def updateProduct (database : Database) (user : Token) (id : ObjectId) (body : ProductBody) :
    Except Failure Effect := do
  let product ← found .productNotFound (database.products.findById? id)
  require .notAuthorized (product.sellerId = user.id)
  require .categoryNotFound (database.hasCategory body.categoryId = true)
  let _ ← found .storeNotFound (database.stores.findById? body.storeId)
  let variants ← updatedVariants product body
  return { Effect.nothing with products := [.update id (productUpdate body variants)] }

def updateNumberOfViews (database : Database) (id : ObjectId) : Except Failure Effect := do
  let _ ← found .productNotFound (database.products.findById? id)
  return { Effect.nothing with
    counts := [⟨id, fun counters =>
      { counters with numberOfViews := counters.numberOfViews + 1 }⟩] }

/-- `numberOfSales` is `none` when `parseInt` makes no number of it. -/
def updateNumberOfSales (database : Database) (id : ObjectId) (numberOfSales : Option Int) :
    Except Failure Effect := do
  let _ ← found .productNotFound (database.products.findById? id)
  let number ← found .notSaved numberOfSales
  return { Effect.nothing with
    counts := [⟨id, fun counters =>
      { counters with numberOfSales := counters.numberOfSales + number }⟩] }

/-- The body of a new product, with its numbers and variants as mongoose casts them; `images`
are the paths of the uploaded images. -/
structure NewProductBody where
  name : String
  price : ℚ
  description : Option String
  discount : Option ℚ
  storeId : ObjectId
  storeCategoryId : Option ObjectId
  categoryId : Option ObjectId
  subCategoryId : Option ObjectId
  rayonId : Option ObjectId
  policy : Option Policy
  variantes : Option (List Variant)
  images : Option (List String)
  varientsImages : Option (List String)

/-- `variantes[i].img = storagePath` for every variant; a missing image throws. -/
def withImages : List Variant → List String → Except Failure (List Variant)
  | [], _ => .ok []
  | _ :: _, [] => .error .typeError
  | variant :: variants, image :: images => do
      let rest ← withImages variants images
      return { variant with img := some image } :: rest

def newVariants (body : NewProductBody) : Except Failure (List Variant) :=
  match body.variantes, body.varientsImages with
  | none, _ => .error .typeError
  | some [], _ => .ok []
  | some (_ :: _), none => .error .noFiles
  | some variants, some images => withImages variants images

/-- `boot` is when the server started, from which the schema's default dates count. -/
def addProduct (boot : Time) (database : Database) (user : Token) (id : ObjectId)
    (body : NewProductBody) : Except Failure Effect := do
  let store ← found .storeNotFound (database.stores.findById? body.storeId)
  require .notAuthorized (store.sellerId = user.id)
  require .categoryNotFound (database.hasCategory body.categoryId = true)
  let images ← found .noFiles body.images
  let variants ← newVariants body
  let description ← found .notSaved body.description
  let storeCategoryId ← found .notSaved body.storeCategoryId
  let categoryId ← found .notSaved body.categoryId
  let subCategoryId ← found .notSaved body.subCategoryId
  let rayonId ← found .notSaved body.rayonId
  return { Effect.nothing with
    products := [.insert {
      id := id
      name := body.name
      description := description
      price := body.price
      storeCategoryId := storeCategoryId
      categoryId := categoryId
      subCategoryId := subCategoryId
      rayonId := rayonId
      images := images
      tags := []
      variants := variants
      sellerId := user.id
      storeId := store.id
      deleted := false
      discount := body.discount.getD 0
      discountType := none
      discountExpiration := boot + 86400000
      offer := none
      policy := body.policy
      counters := ⟨0, 0, 0⟩ }] }

def deleteProduct (database : Database) (user : Token) (id : ObjectId) : Except Failure Effect := do
  let product ← found .productMissing (database.products.findById? id)
  require .notYourProduct (product.sellerId = user.id)
  return { Effect.nothing with products := [.delete id] }

/-! ## Stores -/

/-- The part of a new store's body that is stored here; `image` is the uploaded one. -/
structure NewStoreBody where
  name : String
  description : String
  image : Option String

/-- Without a user, `req.user.id` throws. -/
def createStore (user : Option Token) (id : ObjectId) (body : NewStoreBody) :
    Except Failure Effect := do
  let image ← found .noFiles body.image
  let user ← found .typeError user
  return { Effect.nothing with
    stores := [.insert ⟨id, user.id, body.name, body.description, image, true⟩] }

/-- The part of `$set: req.body` that is stored here. -/
structure StoreBody where
  sellerId : Option ObjectId
  name : Option String
  description : Option String
  image : Option String
  isActive : Option Bool

def storeUpdate (body : StoreBody) : Update Store where
  apply store := { store with
    sellerId := body.sellerId.getD store.sellerId
    name := body.name.getD store.name
    description := body.description.getD store.description
    image := body.image.getD store.image
    isActive := body.isActive.getD store.isActive }
  keepsId _ := rfl

def updateStore (database : Database) (user : Token) (id : ObjectId) (body : StoreBody) :
    Except Failure Effect := do
  let store ← found .typeError (database.stores.findById? id)
  require .storeNotAuthorized (store.sellerId = user.id)
  return { Effect.nothing with stores := [.update id (storeUpdate body)] }

/-- `deleteMany({storeId})`, one deletion after the other. -/
def deletions (database : Database) (storeId : ObjectId) : List (Write Product) :=
  ((database.products.docs.filter fun product => decide (product.storeId = storeId)).map
    Product.id).map Write.delete

def deleteStore (database : Database) (storeId : ObjectId) : Except Failure Effect := do
  let _ ← found .storeMissing (database.stores.findById? storeId)
  return { Effect.nothing with
    products := deletions database storeId
    stores := [.delete storeId] }

/-! ## Offers -/

structure NewOfferBody where
  productId : ObjectId
  offerExpiration : Option Time
  offerImage : Option String
  offerName : Option String
  offerDescription : Option String
  offerDiscount : ℚ
  offerStock : ℚ
  discountType : Option DiscountType

def newOffer (boot : Time) (product : Product) (id : ObjectId) (body : NewOfferBody)
    (discountType : DiscountType) : Offer where
  id := id
  sellerId := product.sellerId
  storeId := product.storeId
  productId := body.productId
  offerDiscount := body.offerDiscount
  offerStock := body.offerStock
  offerExpiration := body.offerExpiration.getD (boot + 86400000)
  offerStatus := .active
  offerDeleted := false
  offerName := body.offerName
  offerImage := body.offerImage
  offerDescription := body.offerDescription
  discountType := discountType

/-- The offer is assigned to its product. -/
def assignOffer (id : ObjectId) (body : NewOfferBody) (discountType : DiscountType) :
    Update Product where
  apply product := { product with
    offer := some id
    discountType := some discountType
    discount := body.offerDiscount
    discountExpiration := body.offerExpiration.getD product.discountExpiration }
  keepsId _ := rfl

/-- Products have no `quantity`, so the stock is not compared with anything. -/
def createOffer (boot : Time) (database : Database) (user : Token) (id : ObjectId)
    (body : NewOfferBody) : Except Failure Effect := do
  let product ← found .productDoesNotExist (database.products.findById? body.productId)
  require .productDoesNotExist (product.deleted = false ∧ product.sellerId = user.id)
  require .alreadyOffered (product.offer = none)
  let discountType ← found .notSaved body.discountType
  return { Effect.nothing with
    offers := [.insert (newOffer boot product id body discountType)]
    products := [.update body.productId (assignOffer id body discountType)] }

structure OfferBody where
  offerExpiration : Option Time
  offerImage : Option String
  offerName : Option String
  offerDescription : Option String
  offerDiscount : Option ℚ

def offerUpdate (body : OfferBody) : Update Offer where
  apply offer := { offer with
    offerExpiration := body.offerExpiration.getD offer.offerExpiration
    offerImage := body.offerImage.or offer.offerImage
    offerName := body.offerName.or offer.offerName
    offerDescription := body.offerDescription.or offer.offerDescription
    offerDiscount := body.offerDiscount.getD offer.offerDiscount }
  keepsId _ := rfl

def updateOffer (database : Database) (user : Token) (id : ObjectId) (body : OfferBody) :
    Except Failure Effect := do
  let offer ← found .offerNotFound (database.offers.findById? id)
  require .offerNotAuthorized (offer.sellerId = user.id)
  return { Effect.nothing with offers := [.update id (offerUpdate body)] }

def expireOffer : Update Offer where
  apply offer := { offer with offerDeleted := true, offerStatus := .expired }
  keepsId _ := rfl

def removeOffer : Update Product where
  apply product := { product with offer := none, discount := 0 }
  keepsId _ := rfl

/-- The first product that the offer is assigned to. -/
def offered? (database : Database) (id : ObjectId) : Option Product :=
  database.products.findOne? fun product => product.offer = some id

def deleteOffer (database : Database) (id : ObjectId) : Except Failure Effect :=
  .ok { Effect.nothing with
    offers := [.update id expireOffer]
    products := (offered? database id).toList.map fun product => .update product.id removeOffer }

/-! ## Routes -/

/-- The ids of new documents are those the server draws. -/
inductive Operation where
  | updateProduct (id : ObjectId) (body : ProductBody)
  | updateNumberOfSales (id : ObjectId) (numberOfSales : Option Int)
  | updateNumberOfViews (id : ObjectId)
  | addProduct (newId : ObjectId) (body : NewProductBody)
  | deleteProduct (id : ObjectId)
  | createStore (newId : ObjectId) (body : NewStoreBody)
  | updateStore (id : ObjectId) (body : StoreBody)
  | deleteStore (storeId : ObjectId)
  | createOffer (newId : ObjectId) (body : NewOfferBody)
  | updateOffer (id : ObjectId) (body : OfferBody)
  | deleteOffer (id : ObjectId)

/-- What stands before the handler of a route. -/
inductive Middleware where
  | unguarded
  | verifyToken
  | verifySeller (id : Option ObjectId)

def Operation.middleware : Operation → Middleware
  | .updateProduct id _ => .verifySeller (some id)
  | .updateNumberOfSales _ _ => .unguarded
  | .updateNumberOfViews _ => .unguarded
  | .addProduct _ _ => .verifySeller none
  | .deleteProduct id => .verifySeller (some id)
  | .createStore _ _ => .unguarded
  | .updateStore id _ => .verifySeller (some id)
  | .deleteStore _ => .verifyToken
  | .createOffer _ _ => .verifySeller none
  | .updateOffer _ _ => .verifyToken
  | .deleteOffer _ => .unguarded

/-- A request and the valid token it carries, if any. -/
structure Request where
  token : Option Token
  operation : Operation

/-- `req.user`: only a route with a middleware in front authenticates. -/
def Request.user (request : Request) : Except Failure (Option Token) :=
  match request.operation.middleware with
  | .unguarded => .ok none
  | .verifyToken => do
      let token ← found .noToken request.token
      return some token
  | .verifySeller id => do
      let token ← found .noToken request.token
      require .forbidden (verifySeller token id = true)
      return some token

/-- The authenticated principal. -/
def Request.principal (request : Request) : Option ObjectId :=
  match request.user with
  | .ok user => user.map Token.id
  | .error _ => none

def serve (boot : Time) (database : Database) (user : Option Token) :
    Operation → Except Failure Effect
  | .updateProduct id body => do
      let user ← found .typeError user
      updateProduct database user id body
  | .updateNumberOfSales id numberOfSales => updateNumberOfSales database id numberOfSales
  | .updateNumberOfViews id => updateNumberOfViews database id
  | .addProduct newId body => do
      let user ← found .typeError user
      addProduct boot database user newId body
  | .deleteProduct id => do
      let user ← found .typeError user
      deleteProduct database user id
  | .createStore newId body => createStore user newId body
  | .updateStore id body => do
      let user ← found .typeError user
      updateStore database user id body
  | .deleteStore storeId => deleteStore database storeId
  | .createOffer newId body => do
      let user ← found .typeError user
      createOffer boot database user newId body
  | .updateOffer id body => do
      let user ← found .typeError user
      updateOffer database user id body
  | .deleteOffer id => deleteOffer database id

def respond (boot : Time) (database : Database) (request : Request) : Except Failure Effect := do
  let user ← request.user
  serve boot database user request.operation

end Proximity.Catalogue
