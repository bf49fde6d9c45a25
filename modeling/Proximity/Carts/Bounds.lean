import Mathlib.Tactic.FieldSimp
import Mathlib.Tactic.Linarith
import Mathlib.Tactic.Positivity
import Mathlib.Tactic.Ring
import Proximity.Carts.Pricing

/-!
# The bounds of a stored price

The quantity of a stored item never exceeds the stock.  Its discount is as good as the
numbers of the offer, which nothing bounds.
-/

namespace Proximity.Carts

open Proximity.Systems Proximity.Models Proximity.Catalogue

/-- Offers are created and items are put into carts. -/
inductive Trade where
  | createOffer (boot : Time) (user : Token) (id : ObjectId) (body : NewOfferBody)
  | addToCart (request : Request)

def trade? (shop : Shop) : Trade → Option Shop
  | .createOffer boot user id body =>
      match createOffer boot shop.catalogue user id body with
      | .ok effect => some { shop with catalogue := shop.catalogue.apply effect }
      | .error _ => some shop
  | .addToCart request => step? shop request

structure Bounded (variant : Variant) (item : CartItem) : Prop where
  discount_nonnegative : 0 ≤ item.discountQuantity
  discounted : item.discountQuantity ≤ item.quantity
  stocked : item.quantity ≤ variant.quantity
  total_nonnegative : 0 ≤ item.totalPrice
  undiscounted : item.totalPrice ≤ variant.price * item.quantity

/-- The item that an accepted request stores is bounded by the variant it asked for. -/
def StoresBounded (source : Shop) (trade : Trade) (target : Shop) : Prop :=
  match trade with
  | .createOffer _ _ _ _ => True
  | .addToCart request =>
      ∀ cart product variant item,
        addToCart source request.time request.user request.body = .ok cart →
        source.catalogue.products.findById? request.body.productId = some product →
        variant? product request.body.variantId = some variant →
        target.item? request.user request.body.variantId = some item → Bounded variant item

/-- The offer has a stock, takes nothing negative off, and takes no more off the units it
covers than the ordered ones cost. -/
structure SoundOffer (offer : Offer) (variant : Variant) (quantity : ℚ) : Prop where
  stock : 0 ≤ offer.offerStock
  discount : match offer.discountType with
    | .percentage => variant.price = 0 ∨
        (0 ≤ offer.offerDiscount ∧
          min offer.offerStock quantity * offer.offerDiscount ≤ 100 * quantity)
    | .amount => 0 ≤ offer.offerDiscount ∧
        min offer.offerStock quantity * offer.offerDiscount ≤ variant.price * quantity

/-- The offer that is live for an accepted request is sound for what is ordered. -/
def MeetsSoundOffer (source : Shop) (trade : Trade) (_ : Shop) : Prop :=
  match trade with
  | .createOffer _ _ _ _ => True
  | .addToCart request =>
      ∀ cart product variant requested offer,
        addToCart source request.time request.user request.body = .ok cart →
        source.catalogue.products.findById? request.body.productId = some product →
        variant? product request.body.variantId = some variant →
        request.body.quantity = some requested →
        liveOffer? source.catalogue.offers request.time product = some offer →
        SoundOffer offer variant (orderedQuantity variant requested)

/-- No variant of the catalogue has a negative price or stock. -/
def Priced (shop : Shop) : Prop :=
  ∀ product ∈ shop.catalogue.products.docs, ∀ variant ∈ product.variants,
    0 ≤ variant.price ∧ 0 ≤ variant.quantity

/-! ## One item -/

theorem orderedQuantity_le_stock (variant : Variant) (requested : ℚ) :
    orderedQuantity variant requested ≤ variant.quantity := by
  unfold orderedQuantity
  split
  case isTrue => exact le_rfl
  case isFalse long => exact (not_le.mp long).le

theorem orderedQuantity_pos {variant : Variant} {requested : ℚ} (stock : 0 < variant.quantity)
    (atLeastOne : 1 ≤ requested) : 0 < orderedQuantity variant requested := by
  unfold orderedQuantity
  split
  case isTrue => exact stock
  case isFalse => exact zero_lt_one.trans_le atLeastOne

theorem discountedQuantity_eq_min (offer : Offer) (quantity : ℚ) :
    discountedQuantity (some offer) quantity = min offer.offerStock quantity := rfl

/-- What the covered units' discount has to be for the total to stay in its bounds. -/
theorem bounded_iff (productId : ObjectId) (variantId : String) {variant : Variant}
    {offer? : Option Offer} {quantity : ℚ} (stocked : quantity ≤ variant.quantity) :
    Bounded variant (pricedItem productId variantId variant offer? quantity) ↔
      0 ≤ discountedQuantity offer? quantity ∧ discountedQuantity offer? quantity ≤ quantity ∧
        0 ≤ discountedQuantity offer? quantity * discountvar offer? variant ∧
        discountedQuantity offer? quantity * discountvar offer? variant ≤
          variant.price * quantity := by
  constructor
  · rintro ⟨nonnegative, discounted, -, payable, undiscounted⟩
    simp only [pricedItem] at nonnegative discounted payable undiscounted
    exact ⟨nonnegative, discounted, by linarith, by linarith⟩
  · rintro ⟨nonnegative, discounted, taken, affordable⟩
    exact ⟨nonnegative, discounted, stocked, sub_nonneg.mpr affordable,
      sub_le_self _ taken⟩

theorem bounded_without_offer (productId : ObjectId) (variantId : String) {variant : Variant}
    {quantity : ℚ} (price : 0 ≤ variant.price) (ordered : 0 < quantity)
    (stocked : quantity ≤ variant.quantity) :
    Bounded variant (pricedItem productId variantId variant none quantity) := by
  rw [bounded_iff productId variantId stocked]
  simp only [discountedQuantity, zero_mul, le_refl, true_and]
  exact ⟨ordered.le, by positivity⟩

/-- A percentage of the price, on some units, against the price of all. -/
theorem percentage_bounds_iff {price covered quantity percentage : ℚ} (nonnegative : 0 ≤ price)
    (some_covered : 0 < covered) :
    (0 ≤ covered * (percentage / 100 * price) ∧
        covered * (percentage / 100 * price) ≤ price * quantity) ↔
      price = 0 ∨ (0 ≤ percentage ∧ covered * percentage ≤ 100 * quantity) := by
  rcases nonnegative.eq_or_lt with free | costs
  · simp [← free]
  · have taken : covered * (percentage / 100 * price) = price / 100 * (covered * percentage) := by
      ring
    have whole : price * quantity = price / 100 * (100 * quantity) := by
      field_simp
    have hundredth : 0 < price / 100 := by positivity
    rw [taken, whole, mul_nonneg_iff_of_pos_left hundredth, mul_le_mul_iff_right₀ hundredth,
      mul_nonneg_iff_of_pos_left some_covered]
    simp [costs.ne']

/-- With a live offer, the item is bounded exactly when the offer is sound. -/
theorem bounded_iff_soundOffer (productId : ObjectId) (variantId : String) {variant : Variant}
    {offer : Offer} {quantity : ℚ} (price : 0 ≤ variant.price) (ordered : 0 < quantity)
    (stocked : quantity ≤ variant.quantity) (live : offer.offerStock ≠ 0) :
    Bounded variant (pricedItem productId variantId variant (some offer) quantity) ↔
      SoundOffer offer variant quantity := by
  have covers : 0 < min offer.offerStock quantity ↔ 0 ≤ offer.offerStock := by
    rw [lt_min_iff, and_iff_left ordered]
    exact ⟨le_of_lt, fun stock => stock.lt_of_ne' live⟩
  have nonnegative : 0 ≤ min offer.offerStock quantity ↔ 0 ≤ offer.offerStock := by
    rw [le_min_iff, and_iff_left ordered.le]
  rw [bounded_iff productId variantId stocked, discountedQuantity_eq_min, nonnegative]
  constructor
  · rintro ⟨stock, -, taken, affordable⟩
    refine ⟨stock, ?_⟩
    cases type : offer.discountType with
    | percentage =>
        simp only [discountvar, type] at taken affordable
        exact (percentage_bounds_iff price (covers.mpr stock)).mp ⟨taken, affordable⟩
    | amount =>
        simp only [discountvar, type] at taken affordable
        exact ⟨(mul_nonneg_iff_of_pos_left (covers.mpr stock)).mp taken, affordable⟩
  · rintro ⟨stock, discount⟩
    refine ⟨stock, min_le_right _ _, ?_⟩
    cases type : offer.discountType with
    | percentage =>
        simp only [type] at discount
        simp only [discountvar, type]
        exact (percentage_bounds_iff price (covers.mpr stock)).mpr discount
    | amount =>
        simp only [type] at discount
        simp only [discountvar, type]
        exact ⟨(mul_nonneg_iff_of_pos_left (covers.mpr stock)).mpr discount.1, discount.2⟩

/-! ## One request -/

theorem variant?_mem {product : Product} {variantId : String} {variant : Variant}
    (found : variant? product variantId = some variant) : variant ∈ product.variants :=
  List.mem_of_find?_eq_some found

theorem trade_bounded_iff {source target : Shop} {trade : Trade} (priced : Priced source)
    (traded : trade? source trade = some target) :
    StoresBounded source trade target ↔ MeetsSoundOffer source trade target := by
  cases trade with
  | createOffer boot user id body => exact Iff.rfl
  | addToCart request =>
      cases answered : addToCart source request.time request.user request.body with
      | error failure =>
          simp [StoresBounded, MeetsSoundOffer, answered]
      | ok cart =>
          simp only [trade?, step?, answered, Option.some.injEq] at traded
          obtain ⟨product, variant, requested, productId, before, after, accepted⟩ :=
            addToCart_accepted answered
          obtain ⟨price, stock⟩ := priced product
            (Collection.findById?_eq_some_iff.mp accepted.product_found).1 variant
            (variant?_mem accepted.variant_found)
          have ordered : 0 < orderedQuantity variant requested :=
            orderedQuantity_pos (stock.lt_of_ne' accepted.stocked)
              (request.body.atLeastOne requested accepted.given)
          have stocked := orderedQuantity_le_stock variant requested
          constructor
          · intro bounded _ otherProduct otherVariant otherRequested offer _ product_found
              variant_found given live
            cases accepted.product_found.symm.trans product_found
            cases accepted.variant_found.symm.trans variant_found
            cases accepted.given.symm.trans given
            obtain ⟨-, -, -, -, stock_left, -⟩ := liveOffer?_eq_some_iff.mp live
            have item := bounded cart product variant _ answered product_found variant_found
              (traded ▸ accepted.item?)
            rw [live] at item
            exact (bounded_iff_soundOffer productId _ price ordered stocked stock_left).mp item
          · intro sound _ otherProduct otherVariant item _ product_found variant_found kept
            cases accepted.product_found.symm.trans product_found
            cases accepted.variant_found.symm.trans variant_found
            rw [← traded, accepted.item?] at kept
            cases kept
            cases live : liveOffer? source.catalogue.offers request.time product with
            | none => exact bounded_without_offer productId _ price ordered stocked
            | some offer =>
                obtain ⟨-, -, -, -, stock_left, -⟩ := liveOffer?_eq_some_iff.mp live
                exact (bounded_iff_soundOffer productId _ price ordered stocked stock_left).mpr
                  (sound cart product variant requested offer answered product_found
                    variant_found accepted.given live)

/-! ## Runs -/

theorem trade_priced {source target : Shop} {trade : Trade} (priced : Priced source)
    (traded : trade? source trade = some target) : Priced target := by
  cases trade with
  | createOffer boot user id body =>
      simp only [trade?] at traded
      split at traded
      case h_2 =>
          cases traded
          exact priced
      case h_1 effect created =>
          cases traded
          simp only [createOffer, bind_eq_ok_iff, found_eq_ok_iff, require_eq_ok_iff,
            pure_eq_ok_iff] at created
          obtain ⟨product, -, _, -, _, -, discountType, -, rfl⟩ := created
          have kept : ∀ other ∈ source.catalogue.products.docs, other.id = body.productId →
              ∀ variant ∈ ((assignOffer id body discountType).apply other).variants,
                0 ≤ variant.price ∧ 0 ≤ variant.quantity :=
            fun other stored _ => priced other stored
          exact Collection.forall_update priced kept
  | addToCart request =>
      simp only [trade?, step?] at traded
      split at traded
      case h_1 =>
          cases traded
          exact priced
      case h_2 =>
          cases traded
          exact priced

/-- Every item that a run stores is bounded exactly when every live offer that a request
of the run meets is sound. -/
theorem storesBounded_iff_meetsSoundOffer {shop : Shop} (priced : Priced shop)
    (trades : List Trade) :
    EveryStep trade? StoresBounded shop trades ↔ EveryStep trade? MeetsSoundOffer shop trades :=
  ⟨everyStep_of_invariant Priced (fun _ _ _ priced traded bounded =>
      ⟨(trade_bounded_iff priced traded).mp bounded, trade_priced priced traded⟩) priced,
    everyStep_of_invariant Priced (fun _ _ _ priced traded sound =>
      ⟨(trade_bounded_iff priced traded).mpr sound, trade_priced priced traded⟩) priced⟩

/-! ## An offer of more than the price -/

def percentageBody (offerDiscount : ℚ) : NewOfferBody where
  productId := 20
  offerExpiration := some 86400000
  offerImage := none
  offerName := none
  offerDescription := none
  offerDiscount := offerDiscount
  offerStock := 5
  discountType := some .percentage

/-- The seller offers a percentage off five units, and user 7 asks for two of them. -/
def offersAndAdds (offerDiscount : ℚ) : List Trade :=
  [.createOffer 0 ⟨2, .seller⟩ 31 (percentageBody offerDiscount), .addToCart ⟨0, 7, twoUnits⟩]

theorem corner_priced (offer : Option ObjectId) : Priced (corner offer) := by
  intro product stored variant offered
  cases List.mem_singleton.mp stored
  cases List.mem_singleton.mp offered
  exact ⟨by decide +kernel, by decide +kernel⟩

theorem twentyOff_storesBounded_iff :
    Priced (corner none) ∧
      (EveryStep trade? StoresBounded (corner none) (offersAndAdds 20) ↔
        EveryStep trade? MeetsSoundOffer (corner none) (offersAndAdds 20)) :=
  ⟨corner_priced none, storesBounded_iff_meetsSoundOffer (corner_priced none) _⟩

/-- At 150 percent off, two units of 100 are stored at a total of -100. -/
theorem tooMuchOff_not_bounded :
    Priced (corner none) ∧
      ¬ EveryStep trade? StoresBounded (corner none) (offersAndAdds 150) := by
  refine ⟨corner_priced none, fun every => ?_⟩
  obtain ⟨-, later⟩ := every _ rfl
  obtain ⟨bounded, -⟩ := later _ rfl
  have item := bounded _ _ soldVariant ⟨20, "a", 150, 2, 2, -100⟩ rfl rfl rfl (by decide +kernel)
  exact absurd item.total_nonnegative (by decide +kernel)

end Proximity.Carts
