import Proximity.Catalogue.Services

/-!
# The merchant's app: the form of an offer
-/

namespace Proximity.Apps.Commercant

open Proximity.Models Proximity.Catalogue

/-- What the form has been filled with; dates are sent as they were picked. -/
structure ProductService where
  discountType : Option DiscountType
  discountPercentage : Option Int
  offerStock : Option Int
  selectedDate : Time
  deriving DecidableEq, Repr

structure FormData where
  discountType : Option DiscountType
  offerDiscount : ℚ
  offerStock : Option Int
  offerExpiration : Time
  deriving DecidableEq, Repr

/-- `_discountPercentage!` throws when no discount was entered. -/
def ProductService.toFormData (service : ProductService) : Option FormData :=
  service.discountPercentage.map fun discountPercentage : Int =>
    { discountType := service.discountType
      offerDiscount := (discountPercentage : ℚ) / 100
      offerStock := service.offerStock
      offerExpiration := service.selectedDate }

/-- The body that `createOffer` posts for a product, where `schemaOffer` lets it through. -/
def FormData.post (data : FormData) (productId : ObjectId) : Option NewOfferBody :=
  data.offerStock.map fun offerStock : Int =>
    { productId := productId
      offerExpiration := some data.offerExpiration
      offerImage := none
      offerName := none
      offerDescription := none
      offerDiscount := data.offerDiscount
      offerStock := offerStock
      discountType := data.discountType }

/-- A unit's price once the entered discount is taken off. -/
def discountedPrice (discountType : DiscountType) (entered : Int) (price : ℚ) : ℚ :=
  match discountType with
  | .percentage => price * (1 - entered / 100)
  | .amount => price - entered

end Proximity.Apps.Commercant
