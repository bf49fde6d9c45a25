import Mathlib.Tactic.FieldSimp
import Mathlib.Tactic.LinearCombination
import Proximity.Apps.Commercant
import Proximity.Apps.Client
import Proximity.Carts.Pricing

/-!
# The discount on its way from the merchant to the client

The merchant's app sends a hundredth of what was entered, whatever the type.  The
client's app takes that number for a fraction of the price, the cart for a
percentage or an amount.
-/

namespace Proximity.Carts

open Proximity.Systems Proximity.Models Proximity.Catalogue
open Proximity.Apps

/-! ## What an offer leaves stored -/

/-- A created offer and the product it is assigned to, as they are stored. -/
theorem stored_of_createOffer {boot : Time} {database : Database} {user : Token}
    {newId : ObjectId} {body : NewOfferBody} {effect : Effect} {product : Product}
    (fresh : database.offers.findById? newId = none)
    (created : createOffer boot database user newId body = .ok effect)
    (product_found : (database.apply effect).products.findById? body.productId = some product) :
    ∃ before discountType, body.discountType = some discountType ∧
      product = (assignOffer newId body discountType).apply before ∧
      (database.apply effect).offers.findById? newId =
        some (newOffer boot before newId body discountType) := by
  simp only [createOffer, bind_eq_ok_iff, found_eq_ok_iff, require_eq_ok_iff,
    pure_eq_ok_iff] at created
  obtain ⟨before, stored, _, -, _, -, discountType, typed, rfl⟩ := created
  refine ⟨before, discountType, typed, ?_, ?_⟩
  · simp only [Database.apply, Effect.nothing, Write.applyAll, Write.apply, List.foldl_cons,
      List.foldl_nil, List.map_nil, Collection.findById?_update, if_pos, stored, Option.map_some,
      Option.some.injEq] at product_found
    exact product_found.symm
  · simp [Database.apply, Effect.nothing, Write.applyAll, Write.apply, fresh, newOffer]

/-- The catalogue holds an offer on the product just created from the merchant's form,
under an id that was free. -/
def Promoted (service : Commercant.ProductService) (productId : ObjectId)
    (catalogue : Database) : Prop :=
  ∃ boot database user newId data body effect, service.toFormData = some data ∧
    data.post productId = some body ∧ database.offers.findById? newId = none ∧
    createOffer boot database user newId body = .ok effect ∧ catalogue = database.apply effect

/-- The product shows a hundredth of what was entered, and so does its offer. -/
theorem Promoted.stored {service : Commercant.ProductService} {catalogue : Database}
    {product : Product} {entered : Int} {discountType : DiscountType}
    (promoted : Promoted service product.id catalogue)
    (product_found : catalogue.products.findById? product.id = some product)
    (filled : service.discountPercentage = some entered)
    (typed : service.discountType = some discountType) :
    product.discount = entered / 100 ∧
      ∃ id offer, product.offer = some id ∧ catalogue.offers.findById? id = some offer ∧
        offer.offerDiscount = entered / 100 ∧ offer.discountType = discountType := by
  obtain ⟨boot, database, user, newId, data, body, effect, form, posted, fresh, created, rfl⟩ :=
    promoted
  simp only [Commercant.ProductService.toFormData, filled, Option.map_some,
    Option.some.injEq] at form
  obtain ⟨offerStock, -, rfl⟩ := Option.map_eq_some_iff.mp posted
  obtain ⟨before, otherType, also_typed, assigned, offer_found⟩ :=
    stored_of_createOffer fresh created product_found
  subst form
  cases typed.symm.trans also_typed
  refine ⟨by rw [assigned]; rfl, newId, _, by rw [assigned]; rfl, offer_found, rfl, rfl⟩

/-! ## The prices of a discounted unit -/

/-- Nothing was entered and the variant costs what the product does; or a percentage
was entered on a variant that costs nothing, and the product is shown for nothing. -/
def SameUnits (discountType : DiscountType) (entered : Int) (price variantPrice : ℚ) : Prop :=
  (entered = 0 ∧ price = variantPrice) ∨
    (discountType = .percentage ∧ variantPrice = 0 ∧ (price = 0 ∨ entered = 100))

/-- The client's fraction, the cart's percentage and what was entered, as prices. -/
theorem percentage_agrees_iff (entered : Int) (price variantPrice : ℚ) :
    (price * (1 - entered / 100) = variantPrice - entered / 100 / 100 * variantPrice ∧
        variantPrice - entered / 100 / 100 * variantPrice = variantPrice * (1 - entered / 100)) ↔
      SameUnits .percentage entered price variantPrice := by
  simp only [SameUnits, true_and]
  constructor
  · rintro ⟨shown, charged⟩
    have product_zero : variantPrice * entered = 0 := by linear_combination 10000 / 99 * charged
    rcases mul_eq_zero.mp product_zero with rfl | nothing
    · have shown_zero : price * (100 - entered) = 0 := by linear_combination 100 * shown
      rcases mul_eq_zero.mp shown_zero with free | all
      · exact Or.inr ⟨rfl, Or.inl free⟩
      · exact Or.inr ⟨rfl, Or.inr (by exact_mod_cast (sub_eq_zero.mp all).symm)⟩
    · refine Or.inl ⟨by exact_mod_cast nothing, ?_⟩
      rw [nothing] at shown
      linear_combination shown
  · rintro (⟨rfl, rfl⟩ | ⟨rfl, rfl | rfl⟩)
    · simp
    · simp
    · norm_num

theorem amount_agrees_iff (entered : Int) (price variantPrice : ℚ) :
    (price * (1 - entered / 100) = variantPrice - entered / 100 ∧
        variantPrice - entered / 100 = variantPrice - entered) ↔
      SameUnits .amount entered price variantPrice := by
  simp only [SameUnits, reduceCtorEq, false_and, or_false]
  constructor
  · rintro ⟨shown, charged⟩
    have nothing : (entered : ℚ) = 0 := by linear_combination 100 / 99 * charged
    refine ⟨by exact_mod_cast nothing, ?_⟩
    rw [nothing] at shown
    linear_combination shown
  · rintro ⟨rfl, rfl⟩
    simp

/-- The client's app shows for a promoted product what the cart charges for a
discounted unit, and both are what the merchant entered, only in the units' corner cases. -/
theorem unitPrices_agree_iff {service : Commercant.ProductService} {catalogue : Database}
    {now : Time} {product : Product} {variant : Variant} {item : CartItem} {entered : Int}
    {discountType : DiscountType} (promoted : Promoted service product.id catalogue)
    (filled : service.discountPercentage = some entered)
    (typed : service.discountType = some discountType)
    (stored : Stored catalogue now product variant item)
    (discounted : item.discountQuantity ≠ 0) :
    ((Client.Product.fromJson product).exactPrice = some (variant.price - item.discount) ∧
        variant.price - item.discount =
          Commercant.discountedPrice discountType entered variant.price) ↔
      SameUnits discountType entered product.price variant.price := by
  obtain ⟨discount, id, offer, offered, offer_found, offerDiscount, offer_typed⟩ :=
    promoted.stored stored.product_found filled typed
  have item_eq := stored.item_eq
  have live : liveOffer? catalogue.offers now product = some offer := by
    cases live : liveOffer? catalogue.offers now product with
    | none =>
        rw [live] at item_eq
        rw [item_eq] at discounted
        exact absurd rfl discounted
    | some other =>
        obtain ⟨otherId, also_offered, also_found, -⟩ := liveOffer?_eq_some_iff.mp live
        cases offered.symm.trans also_offered
        exact also_found.symm.trans offer_found
  have shown : (Client.Product.fromJson product).exactPrice =
      some (product.price * (1 - entered / 100)) := by
    simp [Client.Product.exactPrice, Client.Product.fromJson, discount]
  have charged : item.discount = discountvar (some offer) variant := by
    rw [item_eq, live]
    rfl
  rw [shown, charged, Option.some.injEq]
  cases discountType with
  | percentage =>
      simp only [discountvar, offer_typed, offerDiscount, Commercant.discountedPrice]
      exact percentage_agrees_iff entered product.price variant.price
  | amount =>
      simp only [discountvar, offer_typed, offerDiscount, Commercant.discountedPrice]
      exact amount_agrees_iff entered product.price variant.price

/-! ## Twenty percent -/

def twentyPercent : Commercant.ProductService := ⟨some .percentage, some 20, some 3, 86400000⟩

def twentyPercentBody : NewOfferBody where
  productId := 20
  offerExpiration := some 86400000
  offerImage := none
  offerName := none
  offerDescription := none
  offerDiscount := (20 : Int) / 100
  offerStock := (3 : Int)
  discountType := some .percentage

def promotedProduct : Product :=
  (assignOffer 31 twentyPercentBody .percentage).apply (soldProduct none)

def promotedCatalogue : Database :=
  (corner none).catalogue.apply { Effect.nothing with
    offers := [.insert (newOffer 0 (soldProduct none) 31 twentyPercentBody .percentage)]
    products := [.update 20 (assignOffer 31 twentyPercentBody .percentage)] }

theorem twentyPercent_promoted : Promoted twentyPercent 20 promotedCatalogue :=
  ⟨0, (corner none).catalogue, ⟨2, .seller⟩, 31, _, twentyPercentBody, _, rfl, rfl, by decide,
    rfl, rfl⟩

/-- Two of the discounted units in a cart. -/
def twentyPercentItem : CartItem := ⟨20, "a", 1 / 5, 2, 2, 998 / 5⟩

theorem twentyPercent_stored :
    Stored promotedCatalogue 0 promotedProduct soldVariant twentyPercentItem :=
  ⟨⟨promotedCatalogue, Collection.empty⟩, 7, twoUnits,
    ⟨7, [twentyPercentItem], 0, 0⟩, rfl, by decide +kernel, by decide +kernel,
    by decide +kernel, by decide +kernel⟩

theorem twentyPercent_agree_iff :
    Promoted twentyPercent promotedProduct.id promotedCatalogue ∧
    Stored promotedCatalogue 0 promotedProduct soldVariant twentyPercentItem ∧
    ((((Client.Product.fromJson promotedProduct).exactPrice =
            some (soldVariant.price - twentyPercentItem.discount)) ∧
          soldVariant.price - twentyPercentItem.discount =
            Commercant.discountedPrice .percentage 20 soldVariant.price) ↔
        SameUnits .percentage 20 promotedProduct.price soldVariant.price) :=
  ⟨twentyPercent_promoted, twentyPercent_stored,
    unitPrices_agree_iff twentyPercent_promoted rfl rfl twentyPercent_stored
      (by decide +kernel)⟩

/-- Of a price of 100, the client shows 80 and the cart charges 99.80. -/
theorem twentyPercent_disagree :
    Promoted twentyPercent promotedProduct.id promotedCatalogue ∧
    Stored promotedCatalogue 0 promotedProduct soldVariant twentyPercentItem ∧
    twentyPercentItem.discountQuantity ≠ 0 ∧
    (Client.Product.fromJson promotedProduct).exactPrice = some 80 ∧
    soldVariant.price - twentyPercentItem.discount = 499 / 5 ∧
    Commercant.discountedPrice .percentage 20 soldVariant.price = 80 ∧
    (Client.Product.fromJson promotedProduct).exactPrice ≠
      some (soldVariant.price - twentyPercentItem.discount) :=
  ⟨twentyPercent_promoted, twentyPercent_stored, by decide +kernel, by decide +kernel,
    by decide +kernel, by decide +kernel, by decide +kernel⟩

end Proximity.Carts
