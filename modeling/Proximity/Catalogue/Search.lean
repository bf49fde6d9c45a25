import Mathlib.Data.PNat.Basic
import Proximity.Catalogue.Statistics
import Proximity.Orders.EffectivePolicy
import Proximity.Systems.Paging

/-!
# The search, page by page

A page is cut out of the products that are found, sorted by the time of their creation.  The
search counts itself in the products of the page before it answers.
-/

namespace Proximity.Catalogue.Search

open Proximity.Systems Proximity.Systems.Paging Proximity.Models

/-- Where to search; `none` is not a number. -/
structure Position where
  langitude : Option ℚ
  latitude : Option ℚ
  deriving DecidableEq, Repr

structure Query where
  name : Option String
  position : Position
  page : Option ℕ+
  limit : Option ℕ+

namespace Query

variable (query : Query)

/-- `req.query.name ? req.query.name : ""` -/
def text : String := query.name.getD ""

def pageOrFirst : ℕ+ := query.page.getD 1

def limitOrTen : ℕ+ := query.limit.getD 10

def atPage (index : ℕ) : Query := { query with page := some index.succPNat }

end Query

/-! ## MongoDB -/

/-- The queries that MongoDB answers, or refuses: all stores by their distance, as no distance
is beyond the maximal one, and the names that a regular expression matches. -/
structure Mongo where
  geoNear : Position → List Store → Except String (List Store)
  mem_geoNear : ∀ {position : Position} {stores near : List Store},
    geoNear position stores = .ok near → ∀ store, store ∈ near ↔ store ∈ stores
  regex : String → Except String (String → Bool)

/-- The schema's option is `timestamp`, which is none, so that no product has the field. -/
def createdAt (_ : Product) : Option Time := none

/-- A missing field is sorted below every date. -/
def NotAfter : Option Time → Option Time → Prop
  | none, _ => True
  | some _, none => False
  | some first, some second => first ≤ second

/-- `sort({ createdAt: -1 })`; products that tie may come in any order. -/
structure Sorting where
  order : List Product → List Product
  perm : ∀ found, (order found).Perm found
  descending : ∀ found,
    (order found).Pairwise fun first second => NotAfter (createdAt second) (createdAt first)

/-! ## The products of a page -/

open Proximity.Orders (Conditions)

variable (mongo : Mongo) (sorting : Sorting) (query : Query) (conditions : Conditions)

/-- The products of the active stores that are near, with a matching name. -/
def foundIn (near : List Store) (pattern : String → Bool) : List Product :=
  conditions.products.docs.filter fun product =>
    decide (product.storeId ∈ (near.filter Store.isActive).map Store.id) && pattern product.name

def productsOfPage : Except String (List Product) := do
  let near ← mongo.geoNear query.position conditions.stores.docs
  let pattern ← mongo.regex query.text
  let skip := (query.pageOrFirst - 1 : ℕ) * query.limitOrTen
  .ok (((sorting.order (foundIn conditions near pattern)).drop skip).take query.limitOrTen)

/-! ## `searchProduct` -/

/-- A product as it is answered. -/
structure Found where
  product : Product
  policy : Option Policy

def countSearch (product : Product) : Product :=
  (Statistics.setSearches (product.counters.numberOfSearches + 1)).apply product

/-- `product.save()` of the changed counter. -/
def saveSearches (product : Product) : Conditions :=
  { conditions with
    products := conditions.products.update product.id
      (Statistics.setSearches product.counters.numberOfSearches) }

def withPolicies (products : List Product) : Except String (List Found) :=
  products.mapM fun product => (conditions.myAsyncFunc product).map fun policy => ⟨product, policy⟩

/-- The answer, and what is stored after it. -/
def searchProduct : Except String (List Found) × Conditions :=
  match productsOfPage mongo sorting query conditions with
  | .error message => (.error message, conditions)
  | .ok products =>
      if query.name = some "" then (withPolicies conditions products, conditions)
      else
        let counted := products.map countSearch
        let saved := counted.foldl saveSearches conditions
        (withPolicies saved counted, saved)

/-! ## `searchPromotion` -/

structure Promotion where
  product : Product
  score : ℚ

/-- The rating of the store is read, but not weighed. -/
def calculateScore (product : Product) : ℚ :=
  let popularityWeight := 1
  let searchWeight := 2
  let discountWeight := 1
  popularityWeight * product.counters.numberOfSales +
    searchWeight * product.counters.numberOfSearches + discountWeight * product.discount

/-- `undefined` for a product without a discount. -/
def promotion? (product : Product) : Option Promotion :=
  if 0 < product.discount then some ⟨product, calculateScore product⟩ else none

def searchPromotion : Except String (List (Option Promotion)) :=
  (productsOfPage mongo sorting query conditions).map (List.map promotion?)

/-! ## One page after the other -/

/-- The first pages of `searchProduct`, each sorted in its own way, and what is stored then. -/
def searchPages (sortings : ℕ → Sorting) : ℕ → Except String (List Found) × Conditions
  | 0 => (.ok [], conditions)
  | count + 1 =>
      let earlier := searchPages sortings count
      let turn := searchProduct mongo (sortings count) (query.atPage count) earlier.2
      (do
        let listed ← earlier.1
        let page ← turn.1
        .ok (listed ++ page), turn.2)

/-- The first pages of `searchPromotion`. -/
def promotionPages (sortings : ℕ → Sorting) : ℕ → Except String (List (Option Promotion))
  | 0 => .ok []
  | count + 1 => do
      let listed ← promotionPages sortings count
      let page ← searchPromotion mongo (sortings count) (query.atPage count) conditions
      .ok (listed ++ page)

/-! ## What is meant -/

/-- The products of active stores whose name matches. -/
def wanted : List Product :=
  match mongo.regex query.text with
  | .error _ => []
  | .ok pattern => conditions.products.docs.filter fun product =>
      decide (∃ store ∈ conditions.stores.docs,
        store.id = product.storeId ∧ store.isActive = true) && pattern product.name

/-- However ties are sorted, the pages together list every wanted product once. -/
def ProductsListed : Prop :=
  ∀ sortings : ℕ → Sorting, ∃ enough, ∀ count, enough ≤ count →
    ∃ listed, (searchPages mongo query conditions sortings count).1 = .ok listed ∧
      (listed.map fun found => found.product.id).Perm
        ((wanted mongo query conditions).map Product.id)

/-- However ties are sorted, the pages together list every wanted product with a discount once,
and nothing else. -/
def PromotionsListed : Prop :=
  ∀ sortings : ℕ → Sorting, ∃ enough, ∀ count, enough ≤ count →
    ∃ promotions : List Promotion,
      promotionPages mongo query conditions sortings count = .ok (promotions.map some) ∧
      (promotions.map fun promotion => promotion.product.id).Perm
        (((wanted mongo query conditions).filter fun product =>
          decide (0 < product.discount)).map Product.id)

end Proximity.Catalogue.Search
