import Proximity.Models.Policy

/-!
# Stores, products and offers as they are stored

Prices, stocks and discounts are exact numbers.
-/

namespace Proximity.Models

open Proximity.Systems

inductive DiscountType where
  | percentage
  | amount
  deriving DecidableEq, Repr

inductive OfferStatus where
  | pending
  | active
  | rejected
  | expired
  deriving DecidableEq, Repr

structure Offer where
  id : ObjectId
  sellerId : ObjectId
  storeId : ObjectId
  productId : ObjectId
  offerDiscount : ℚ
  offerStock : ℚ
  offerExpiration : Time
  offerStatus : OfferStatus
  offerDeleted : Bool
  offerName : Option String
  offerImage : Option String
  offerDescription : Option String
  discountType : DiscountType
  deriving DecidableEq, Repr

instance : Document Offer ObjectId := ⟨Offer.id⟩

@[simp] theorem Offer.document_id (offer : Offer) : Document.id offer = offer.id := rfl

/-- The virtual `active`, computed at the time of the read. -/
def Offer.active (offer : Offer) (now : Time) : Bool := decide (now < offer.offerExpiration)

/-- A characteristic is stored as it was sent, also without one of its texts. -/
structure Characteristic where
  name : Option String
  value : Option String
  deriving DecidableEq, Repr

structure Variant where
  id : String
  characterstics : List Characteristic
  price : ℚ
  quantity : ℚ
  img : Option String
  available : Bool
  deriving DecidableEq, Repr

/-- The counters of a product, which anyone may move. -/
@[ext] structure ProductCounters where
  numberOfSales : ℚ
  numberOfViews : Nat
  numberOfSearches : Nat
  deriving DecidableEq, Repr

structure Product where
  id : ObjectId
  name : String
  description : String
  price : ℚ
  storeCategoryId : ObjectId
  categoryId : ObjectId
  subCategoryId : ObjectId
  rayonId : ObjectId
  images : List String
  tags : List String
  variants : List Variant
  sellerId : ObjectId
  storeId : ObjectId
  deleted : Bool
  discount : ℚ
  discountType : Option DiscountType
  discountExpiration : Time
  offer : Option ObjectId
  policy : Option Policy
  counters : ProductCounters
  deriving DecidableEq, Repr

instance : Document Product ObjectId := ⟨Product.id⟩

@[simp] theorem Product.document_id (product : Product) : Document.id product = product.id := rfl

/-- A stored store, less its rating fields. -/
structure Store where
  id : ObjectId
  sellerId : ObjectId
  name : String
  description : String
  image : String
  isActive : Bool
  deriving DecidableEq, Repr

instance : Document Store ObjectId := ⟨Store.id⟩

@[simp] theorem Store.document_id (store : Store) : Document.id store = store.id := rfl

end Proximity.Models
