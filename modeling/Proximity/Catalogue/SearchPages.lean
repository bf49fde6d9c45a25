import Proximity.Catalogue.Search
import Proximity.Systems.Pointwise

/-!
# All pages of the search

No product has the field that the pages are sorted by, so all products tie.  The pages list
every product once exactly when one page has them all; what a page does with its products
comes on top.
-/

namespace Proximity.Catalogue.Search

open Proximity.Systems Proximity.Systems.Paging Proximity.Models
open Proximity.Orders (Conditions)

/-! ## What is found -/

section Pages

variable {mongo : Mongo} {query : Query} {conditions : Conditions}

/-- MongoDB refuses neither the position nor the text. -/
structure Accepted (mongo : Mongo) (query : Query) (conditions : Conditions) : Prop where
  position : ∃ near, mongo.geoNear query.position conditions.stores.docs = .ok near
  text : ∃ pattern, mongo.regex query.text = .ok pattern

theorem foundIn_eq_wanted {near : List Store} {pattern : String → Bool}
    (located : mongo.geoNear query.position conditions.stores.docs = .ok near)
    (read : mongo.regex query.text = .ok pattern) :
    foundIn conditions near pattern = wanted mongo query conditions := by
  rw [wanted, read, foundIn]
  refine List.filter_congr fun product _ => congrArg (· && pattern product.name) ?_
  refine decide_eq_decide.mpr ?_
  rw [List.mem_map]
  refine exists_congr fun store => ?_
  rw [List.mem_filter, mongo.mem_geoNear located]
  constructor
  · rintro ⟨⟨stored, active⟩, same⟩
    exact ⟨stored, same, active⟩
  · rintro ⟨stored, same, active⟩
    exact ⟨⟨stored, active⟩, same⟩

theorem productsOfPage_eq_ok_iff {sorting : Sorting} {index : ℕ} {products : List Product} :
    productsOfPage mongo sorting (query.atPage index) conditions = .ok products ↔
      Accepted mongo query conditions ∧
        page query.limitOrTen index (sorting.order (wanted mongo query conditions)) = products := by
  have skip : ((query.atPage index).pageOrFirst - 1 : ℕ) = index := Nat.succ_sub_one index
  rw [productsOfPage, bind_eq_ok_iff]
  constructor
  · rintro ⟨near, located, answered⟩
    obtain ⟨pattern, read, cut⟩ := bind_eq_ok_iff.mp answered
    refine ⟨⟨⟨near, located⟩, ⟨pattern, read⟩⟩, ?_⟩
    rw [skip, foundIn_eq_wanted located read] at cut
    exact Except.ok.inj cut
  · rintro ⟨⟨⟨near, located⟩, ⟨pattern, read⟩⟩, rfl⟩
    refine ⟨near, located, bind_eq_ok_iff.mpr ⟨pattern, read, ?_⟩⟩
    rw [skip, foundIn_eq_wanted located read]
    rfl

theorem wanted_nodup : ((wanted mongo query conditions).map Product.id).Nodup := by
  unfold wanted
  split
  case h_1 => exact List.nodup_nil
  case h_2 => exact conditions.products.distinct.sublist (List.filter_sublist.map _)

theorem mem_of_wanted {product : Product} (member : product ∈ wanted mongo query conditions) :
    product ∈ conditions.products.docs := by
  unfold wanted at member
  split at member
  case h_1 => cases member
  case h_2 => exact (List.mem_filter.mp member).1

/-- Any order of the ids is one that MongoDB may give. -/
theorem exists_sorting (ids : List ObjectId) : ∃ sorting : Sorting,
    ∀ found : List Product, (found.map Product.id).Perm ids →
      (sorting.order found).map Product.id = ids := by
  have each : ∀ found : List Product, ∃ ordered : List Product, ordered.Perm found ∧
      ((found.map Product.id).Perm ids → ordered.map Product.id = ids) := by
    intro found
    by_cases same : (found.map Product.id).Perm ids
    · have named : List.Forall₂ (fun id (product : Product) => product.id = id)
          (found.map Product.id) found :=
        List.forall₂_map_left_iff.mpr (List.forall₂_same.mpr fun _ _ => rfl)
      obtain ⟨ordered, ids_eq, perm⟩ := List.perm_comp_forall₂ same.symm named
      refine ⟨ordered, perm, fun _ => ?_⟩
      have mapped : List.Forall₂ Eq (ordered.map Product.id) ids :=
        List.forall₂_map_left_iff.mpr ids_eq.flip
      rw [List.forall₂_eq_eq_eq] at mapped
      exact mapped
    · exact ⟨found, List.Perm.refl found, fun ids_eq => absurd ids_eq same⟩
  choose order perm named using each
  exact ⟨⟨order, perm, fun _ => List.pairwise_of_forall fun _ _ => trivial⟩, named⟩

/-! ## What the search changes -/

/-- A product without its counters. -/
def uncounted (product : Product) : Product := { product with counters := ⟨0, 0, 0⟩ }

theorem id_eq_of_uncounted {first second : Product} (same : uncounted first = uncounted second) :
    first.id = second.id := by
  have ids : (uncounted first).id = (uncounted second).id := congrArg Product.id same
  exact ids

theorem map_id_eq_of_uncounted {first second : List Product}
    (same : first.map uncounted = second.map uncounted) :
    first.map Product.id = second.map Product.id := by
  have ids := congrArg (List.map Product.id) same
  rw [List.map_map, List.map_map] at ids
  exact ids

/-- Only counters have changed. -/
def Recounted (before after : Conditions) : Prop :=
  ∃ products : Collection Product, after = { before with products := products } ∧
    products.docs.map uncounted = before.products.docs.map uncounted

theorem Recounted.refl (conditions : Conditions) : Recounted conditions conditions :=
  ⟨conditions.products, rfl, rfl⟩

theorem Recounted.trans {first second third : Conditions} (earlier : Recounted first second)
    (later : Recounted second third) : Recounted first third := by
  obtain ⟨_, rfl, same⟩ := earlier
  obtain ⟨products, rfl, same'⟩ := later
  exact ⟨products, rfl, same'.trans same⟩

theorem saveSearches_recounted (conditions : Conditions) (product : Product) :
    Recounted conditions (saveSearches conditions product) := by
  refine ⟨_, rfl, ?_⟩
  rw [Collection.update, List.map_map]
  refine List.map_congr_left fun stored _ => ?_
  rw [Function.comp_apply]
  split
  · rfl
  · rfl

theorem foldl_saveSearches_recounted (conditions : Conditions) (products : List Product) :
    Recounted conditions (products.foldl saveSearches conditions) := by
  induction products generalizing conditions with
  | nil => exact Recounted.refl conditions
  | cons product rest ih => exact (saveSearches_recounted conditions product).trans (ih _)

theorem searchProduct_recounted (mongo : Mongo) (sorting : Sorting) (query : Query)
    (conditions : Conditions) :
    Recounted conditions (searchProduct mongo sorting query conditions).2 := by
  unfold searchProduct
  split
  case h_1 => exact Recounted.refl conditions
  case h_2 =>
    split
    case isTrue => exact Recounted.refl conditions
    case isFalse => exact foldl_saveSearches_recounted conditions _

theorem searchPages_recounted (mongo : Mongo) (query : Query) (conditions : Conditions)
    (sortings : ℕ → Sorting) (count : ℕ) :
    Recounted conditions (searchPages mongo query conditions sortings count).2 := by
  induction count with
  | zero => exact Recounted.refl conditions
  | succ count ih => exact ih.trans (searchProduct_recounted mongo _ _ _)

theorem Recounted.accepted_iff {before after : Conditions} (recounted : Recounted before after) :
    Accepted mongo query after ↔ Accepted mongo query before := by
  obtain ⟨_, rfl, _⟩ := recounted
  exact ⟨fun ⟨position, text⟩ => ⟨position, text⟩, fun ⟨position, text⟩ => ⟨position, text⟩⟩

theorem Recounted.wanted_eq {before after : Conditions} (recounted : Recounted before after) :
    (wanted mongo query after).map uncounted = (wanted mongo query before).map uncounted := by
  obtain ⟨products, rfl, same⟩ := recounted
  unfold wanted
  cases mongo.regex query.text with
  | error message => rfl
  | ok pattern =>
      let chosen : Product → Bool := fun product => decide (∃ store ∈ before.stores.docs,
        store.id = product.storeId ∧ store.isActive = true) && pattern product.name
      have counterless : ∀ listed : List Product,
          (listed.filter chosen).map uncounted = (listed.map uncounted).filter chosen := by
        intro listed
        rw [List.filter_map]
        rfl
      exact (counterless _).trans ((congrArg _ same).trans (counterless _).symm)

/-- The same products are wanted on every page. -/
theorem Recounted.wanted_ids {before after : Conditions} (recounted : Recounted before after) :
    (wanted mongo query after).map Product.id = (wanted mongo query before).map Product.id :=
  map_id_eq_of_uncounted recounted.wanted_eq

/-! ## The sellers of the products -/

/-- A product without a policy, in a store without one, has a seller that is still stored. -/
def SellerKnown (conditions : Conditions) (product : Product) : Prop :=
  conditions.ofProduct product.id = none → conditions.storePolicy? product.storeId = none →
    (conditions.users.findById? product.sellerId).isSome = true

theorem exists_myAsyncFunc_iff {product : Product} :
    (∃ policy, conditions.myAsyncFunc product = .ok policy) ↔ SellerKnown conditions product := by
  unfold Conditions.myAsyncFunc SellerKnown
  cases conditions.ofProduct product.id with
  | some policy => exact iff_of_true ⟨_, rfl⟩ fun absent => absurd absent (Option.some_ne_none _)
  | none =>
      cases conditions.storePolicy? product.storeId with
      | some policy =>
          exact iff_of_true ⟨_, rfl⟩ fun _ absent => absurd absent (Option.some_ne_none _)
      | none =>
          cases conditions.users.findById? product.sellerId with
          | some seller => exact iff_of_true ⟨_, rfl⟩ fun _ _ => rfl
          | none =>
              refine iff_of_false ?_ fun known => Bool.false_ne_true (known rfl rfl)
              rintro ⟨policy, answered⟩
              cases answered

theorem Recounted.sellerKnown_iff {before after : Conditions} (recounted : Recounted before after)
    (product : Product) : SellerKnown after product ↔ SellerKnown before product := by
  obtain ⟨_, rfl, _⟩ := recounted
  exact Iff.rfl

/-- The counters do not matter. -/
theorem forall_sellerKnown_congr {first second : List Product}
    (same : first.map uncounted = second.map uncounted) :
    (∀ product ∈ first, SellerKnown conditions product) ↔
      ∀ product ∈ second, SellerKnown conditions product := by
  have read : ∀ listed : List Product, (∀ product ∈ listed, SellerKnown conditions product) ↔
      ∀ product ∈ listed.map uncounted, SellerKnown conditions product := by
    intro listed
    rw [List.forall_mem_map]
    rfl
  rw [read first, same, ← read second]

theorem exists_withPolicies_iff {products : List Product} :
    (∃ listed, withPolicies conditions products = .ok listed) ↔
      ∀ product ∈ products, SellerKnown conditions product := by
  simp only [withPolicies, mapM_eq_ok_iff, exists_forall₂_iff]
  refine forall₂_congr fun product _ => ?_
  rw [← exists_myAsyncFunc_iff]
  cases conditions.myAsyncFunc product with
  | error message =>
      refine iff_of_false ?_ ?_
      · rintro ⟨found, answered⟩
        cases answered
      · rintro ⟨policy, answered⟩
        cases answered
  | ok policy => exact iff_of_true ⟨⟨product, policy⟩, rfl⟩ ⟨policy, rfl⟩

theorem products_of_withPolicies {products : List Product} {listed : List Found}
    (answered : withPolicies conditions products = .ok listed) :
    listed.map Found.product = products := by
  have parts := mapM_eq_ok_iff.mp answered
  clear answered
  induction parts with
  | nil => rfl
  | @cons product found products listed first _ ih =>
      rw [List.map_cons, ih]
      cases given : conditions.myAsyncFunc product with
      | error message =>
          rw [given] at first
          cases first
      | ok policy =>
          rw [given] at first
          cases first
          rfl

/-! ## One page -/

/-- An accepted search answers with the products of its page, whatever it counts. -/
theorem searchProduct_of_accepted (accepted : Accepted mongo query conditions)
    (sorting : Sorting) (index : ℕ) : ∃ after products, Recounted conditions after ∧
      products.map uncounted = (page query.limitOrTen index
        (sorting.order (wanted mongo query conditions))).map uncounted ∧
      (searchProduct mongo sorting (query.atPage index) conditions).1 =
        withPolicies after products := by
  have found := productsOfPage_eq_ok_iff.mpr ⟨accepted, Eq.refl (page query.limitOrTen index
    (sorting.order (wanted mongo query conditions)))⟩
  rw [searchProduct, found]
  dsimp only
  split
  case isTrue => exact ⟨_, _, Recounted.refl conditions, rfl, rfl⟩
  case isFalse =>
    refine ⟨_, _, foldl_saveSearches_recounted conditions _, ?_, rfl⟩
    rw [List.map_map]
    rfl

theorem accepted_of_searchProduct {sorting : Sorting} {index : ℕ} {listed : List Found}
    (answered : (searchProduct mongo sorting (query.atPage index) conditions).1 = .ok listed) :
    Accepted mongo query conditions := by
  cases found : productsOfPage mongo sorting (query.atPage index) conditions with
  | error message =>
      rw [searchProduct, found] at answered
      cases answered
  | ok products => exact (productsOfPage_eq_ok_iff.mp found).1

theorem mem_wanted_of_page {sorting : Sorting} {size index : ℕ} {product : Product}
    (member : product ∈ page size index (sorting.order (wanted mongo query conditions))) :
    product ∈ wanted mongo query conditions :=
  (sorting.perm _).mem_iff.mp (List.mem_of_mem_drop (List.mem_of_mem_take member))

/-- An answered page shows its part of the wanted products. -/
theorem ids_of_searchProduct {sorting : Sorting} {index : ℕ} {turn : List Found}
    (answered : (searchProduct mongo sorting (query.atPage index) conditions).1 = .ok turn) :
    (turn.map fun found => found.product.id) = page query.limitOrTen index
      ((sorting.order (wanted mongo query conditions)).map Product.id) := by
  obtain ⟨after, products, _, same, answer⟩ :=
    searchProduct_of_accepted (accepted_of_searchProduct answered) sorting index
  rw [answer] at answered
  have ids := map_id_eq_of_uncounted same
  rw [← products_of_withPolicies answered, List.map_map, page_map] at ids
  exact ids

/-- No page is answered that shows a product without its seller. -/
theorem seller_of_searchProduct {sorting : Sorting} {index : ℕ} {turn : List Found}
    (answered : (searchProduct mongo sorting (query.atPage index) conditions).1 = .ok turn)
    {found : Found} (member : found ∈ turn) :
    ∃ product ∈ wanted mongo query conditions,
      product.id = found.product.id ∧ SellerKnown conditions product := by
  obtain ⟨after, products, recounted, same, answer⟩ :=
    searchProduct_of_accepted (accepted_of_searchProduct answered) sorting index
  rw [answer] at answered
  have known := (forall_sellerKnown_congr same).mp (exists_withPolicies_iff.mp ⟨turn, answered⟩)
  have listed : found.product ∈ products := by
    rw [← products_of_withPolicies answered]
    exact List.mem_map_of_mem member
  have there : uncounted found.product ∈ products.map uncounted := List.mem_map_of_mem listed
  rw [same] at there
  obtain ⟨product, shown, equal⟩ := List.mem_map.mp there
  exact ⟨product, mem_wanted_of_page shown, id_eq_of_uncounted equal,
    (recounted.sellerKnown_iff product).mp (known product shown)⟩

/-! ## All pages of `searchProduct` -/

/-- The order in which MongoDB gives the wanted products for a page. -/
def shownOrder (mongo : Mongo) (query : Query) (conditions : Conditions) (sortings : ℕ → Sorting)
    (index : ℕ) : List ObjectId :=
  ((sortings index).order (wanted mongo query
    (searchPages mongo query conditions sortings index).2)).map Product.id

theorem shownOrder_perm (sortings : ℕ → Sorting) (index : ℕ) :
    (shownOrder mongo query conditions sortings index).Perm
      ((wanted mongo query conditions).map Product.id) := by
  have ids : (wanted mongo query (searchPages mongo query conditions sortings index).2).map
      Product.id = (wanted mongo query conditions).map Product.id :=
    (searchPages_recounted mongo query conditions sortings index).wanted_ids
  rw [← ids]
  exact ((sortings index).perm _).map Product.id

/-- What the pages have listed, when all were answered. -/
structure Shown (mongo : Mongo) (query : Query) (conditions : Conditions) (sortings : ℕ → Sorting)
    (count : ℕ) (listed : List Found) : Prop where
  ids : (listed.map fun found => found.product.id) =
    pages query.limitOrTen (shownOrder mongo query conditions sortings) count
  accepted : 0 < count → Accepted mongo query conditions
  sellers : ∀ found ∈ listed, ∃ product ∈ wanted mongo query conditions,
    product.id = found.product.id ∧ SellerKnown conditions product

/-- The wanted product of one that was found with other counters. -/
theorem Recounted.exists_wanted {before after : Conditions} (recounted : Recounted before after)
    {product : Product} (member : product ∈ wanted mongo query after)
    (known : SellerKnown after product) :
    ∃ same ∈ wanted mongo query before, uncounted same = uncounted product ∧
      SellerKnown before same := by
  have there : uncounted product ∈ (wanted mongo query before).map uncounted := by
    have counterless : (wanted mongo query after).map uncounted =
        (wanted mongo query before).map uncounted := recounted.wanted_eq
    rw [← counterless]
    exact List.mem_map_of_mem member
  obtain ⟨same, stored, equal⟩ := List.mem_map.mp there
  refine ⟨same, stored, equal, ?_⟩
  have seller : SellerKnown before (uncounted same) := by
    rw [equal]
    exact (recounted.sellerKnown_iff product).mp known
  exact seller

theorem shown_of_searchPages {sortings : ℕ → Sorting} {count : ℕ} {listed : List Found}
    (answered : (searchPages mongo query conditions sortings count).1 = .ok listed) :
    Shown mongo query conditions sortings count listed := by
  induction count generalizing listed with
  | zero =>
      cases answered
      exact ⟨rfl, fun none => absurd none (Nat.lt_irrefl 0), fun _ absent => by cases absent⟩
  | succ count ih =>
      obtain ⟨earlier, answered_earlier, answered⟩ := bind_eq_ok_iff.mp answered
      obtain ⟨turn, answered_turn, joined⟩ := bind_eq_ok_iff.mp answered
      cases joined
      obtain ⟨ids, _, sellers⟩ := ih answered_earlier
      have recounted := searchPages_recounted mongo query conditions sortings count
      constructor
      case ids =>
        rw [List.map_append, pages_succ, ids, ids_of_searchProduct answered_turn]
        rfl
      case accepted =>
        exact fun _ => recounted.accepted_iff.mp (accepted_of_searchProduct answered_turn)
      case sellers =>
        intro found member
        rcases List.mem_append.mp member with old | new
        · exact sellers found old
        · obtain ⟨product, shown, named, known⟩ := seller_of_searchProduct answered_turn new
          obtain ⟨same, stored, equal, known'⟩ := recounted.exists_wanted shown known
          exact ⟨same, stored, (id_eq_of_uncounted equal).trans named, known'⟩

theorem exists_searchPages (accepted : Accepted mongo query conditions)
    (known : ∀ product ∈ wanted mongo query conditions, SellerKnown conditions product)
    (sortings : ℕ → Sorting) (count : ℕ) :
    ∃ listed, (searchPages mongo query conditions sortings count).1 = .ok listed := by
  induction count with
  | zero => exact ⟨[], rfl⟩
  | succ count ih =>
      obtain ⟨earlier, answered_earlier⟩ := ih
      have recounted := searchPages_recounted mongo query conditions sortings count
      obtain ⟨after, products, recounted', same, answer⟩ := searchProduct_of_accepted
        (recounted.accepted_iff.mpr accepted) (sortings count) count
      have known_there : ∀ product ∈ wanted mongo query
          (searchPages mongo query conditions sortings count).2, SellerKnown after product := by
        have every := (forall_sellerKnown_congr recounted.wanted_eq).mpr known
        intro product member
        rw [recounted'.sellerKnown_iff, recounted.sellerKnown_iff]
        exact every product member
      have all : ∀ product ∈ products, SellerKnown after product :=
        (forall_sellerKnown_congr same).mpr fun product member =>
          known_there product (mem_wanted_of_page member)
      obtain ⟨turn, answered_turn⟩ := exists_withPolicies_iff.mpr all
      refine ⟨earlier ++ turn, bind_eq_ok_iff.mpr ⟨earlier, answered_earlier, ?_⟩⟩
      exact bind_eq_ok_iff.mpr ⟨turn, answer.trans answered_turn, rfl⟩

/-- One page has all products that are wanted. -/
structure OnePage (mongo : Mongo) (query : Query) (conditions : Conditions) : Prop
    extends Accepted mongo query conditions where
  fits : (wanted mongo query conditions).length ≤ query.limitOrTen

/-- As all products tie, the pages of any orders are those of one page. -/
theorem pages_wanted_iff :
    (∀ orders : ℕ → List ObjectId,
      (∀ index, (orders index).Perm ((wanted mongo query conditions).map Product.id)) →
        ∃ enough, ∀ count, enough ≤ count → (pages query.limitOrTen orders count).Perm
          ((wanted mongo query conditions).map Product.id)) ↔
      (wanted mongo query conditions).length ≤ query.limitOrTen := by
  have tied : ∀ first second : ObjectId, (fun _ : ObjectId => ()) first = (fun _ => ()) second :=
    fun _ _ => rfl
  rw [pages_perm_iff_of_tied tied wanted_nodup query.limitOrTen.pos, List.length_map]

/-- Sortings that give the products of every page in wanted orders. -/
theorem exists_sortings {orders : ℕ → List ObjectId}
    (all : ∀ index, (orders index).Perm ((wanted mongo query conditions).map Product.id)) :
    ∃ sortings : ℕ → Sorting, ∀ index (found : List Product),
      found.map Product.id = (wanted mongo query conditions).map Product.id →
        ((sortings index).order found).map Product.id = orders index := by
  choose sortings sorts using fun index => exists_sorting (orders index)
  refine ⟨sortings, fun index found ids => sorts index found ?_⟩
  rw [ids]
  exact (all index).symm

theorem productsListed_iff : ProductsListed mongo query conditions ↔
    OnePage mongo query conditions ∧
      ∀ product ∈ wanted mongo query conditions, SellerKnown conditions product := by
  constructor
  · intro listed
    obtain ⟨sorting, _⟩ := exists_sorting []
    obtain ⟨enough, all⟩ := listed fun _ => sorting
    obtain ⟨found, answered, ids⟩ := all (enough + 1) (Nat.le_succ enough)
    have shown := shown_of_searchPages answered
    refine ⟨⟨shown.accepted (Nat.succ_pos enough), ?_⟩, fun product member => ?_⟩
    · rw [← pages_wanted_iff]
      intro orders orders_all
      obtain ⟨sortings, sorts⟩ := exists_sortings orders_all
      have given : shownOrder mongo query conditions sortings = orders := by
        funext index
        exact sorts index _
          (searchPages_recounted mongo query conditions sortings index).wanted_ids
      obtain ⟨enough, all⟩ := listed sortings
      refine ⟨enough, fun count le => ?_⟩
      obtain ⟨found, answered, ids⟩ := all count le
      rw [← given, ← (shown_of_searchPages answered).ids]
      exact ids
    · obtain ⟨one, there, named⟩ := List.mem_map.mp
        (ids.mem_iff.mpr (List.mem_map_of_mem member))
      obtain ⟨same, same_member, same_named, known⟩ := shown.sellers one there
      have equal : same = product := Collection.eq_of_id_eq (mem_of_wanted same_member)
        (mem_of_wanted member) (same_named.trans named)
      rw [← equal]
      exact known
  · rintro ⟨one, known⟩ sortings
    obtain ⟨enough, all⟩ := pages_wanted_iff.mpr one.fits
      (shownOrder mongo query conditions sortings) (shownOrder_perm sortings)
    refine ⟨enough, fun count le => ?_⟩
    obtain ⟨found, answered⟩ := exists_searchPages one.toAccepted known sortings count
    refine ⟨found, answered, ?_⟩
    rw [(shown_of_searchPages answered).ids]
    exact all count le

/-! ## All pages of `searchPromotion` -/

/-- The wanted products of the pages, with `undefined` in the place of those at full price. -/
theorem promotionPages_of_accepted (accepted : Accepted mongo query conditions)
    (sortings : ℕ → Sorting) (count : ℕ) :
    promotionPages mongo query conditions sortings count =
      .ok ((pages query.limitOrTen (fun index =>
        (sortings index).order (wanted mongo query conditions)) count).map promotion?) := by
  induction count with
  | zero => rfl
  | succ count ih =>
      have found := productsOfPage_eq_ok_iff.mpr ⟨accepted, Eq.refl (page query.limitOrTen count
        ((sortings count).order (wanted mongo query conditions)))⟩
      rw [promotionPages, ih, searchPromotion, found, pages_succ, List.map_append]
      rfl

theorem accepted_of_promotionPages {sortings : ℕ → Sorting} {count : ℕ}
    {listed : List (Option Promotion)}
    (answered : promotionPages mongo query conditions sortings (count + 1) = .ok listed) :
    Accepted mongo query conditions := by
  obtain ⟨_, _, answered⟩ := bind_eq_ok_iff.mp answered
  obtain ⟨_, turn, _⟩ := bind_eq_ok_iff.mp answered
  obtain ⟨_, found, _⟩ := map_eq_ok_iff.mp turn
  exact (productsOfPage_eq_ok_iff.mp found).1

theorem promotion?_isSome_iff {product : Product} :
    (∃ promotion, promotion? product = some promotion) ↔ 0 < product.discount := by
  rw [promotion?]
  split
  case isTrue discounted => exact iff_of_true ⟨_, rfl⟩ discounted
  case isFalse full => exact iff_of_false (fun ⟨_, absent⟩ => by cases absent) full

/-- Nothing is `undefined` exactly when all products have a discount. -/
theorem map_promotion?_eq_map_some {products : List Product} {promotions : List Promotion}
    (given : products.map promotion? = promotions.map some) :
    promotions.map Promotion.product = products ∧ ∀ product ∈ products, 0 < product.discount := by
  induction products generalizing promotions with
  | nil =>
      rw [List.map_eq_nil_iff.mp given.symm]
      exact ⟨rfl, List.forall_mem_nil _⟩
  | cons product rest ih =>
      obtain ⟨promotion, others, rfl, first, later⟩ := List.map_eq_cons_iff.mp given.symm
      obtain ⟨products, discounted⟩ := ih later.symm
      have own := promotion?_isSome_iff.mp ⟨promotion, first.symm⟩
      refine ⟨?_, List.forall_mem_cons.mpr ⟨own, discounted⟩⟩
      rw [promotion?, if_pos own] at first
      rw [List.map_cons, products, Option.some.inj first]

theorem exists_promotions {products : List Product}
    (discounted : ∀ product ∈ products, 0 < product.discount) :
    ∃ promotions : List Promotion, products.map promotion? = promotions.map some := by
  refine ⟨products.map fun product => ⟨product, calculateScore product⟩, ?_⟩
  rw [List.map_map]
  exact List.map_congr_left fun product member => if_pos (discounted product member)

theorem filter_discounted {products : List Product}
    (discounted : ∀ product ∈ products, 0 < product.discount) :
    (products.filter fun product => decide (0 < product.discount)) = products :=
  List.filter_eq_self.mpr fun product member => decide_eq_true (discounted product member)

/-- The ids of the products that the pages show. -/
theorem promotion_ids {promotions : List Promotion} {size count : ℕ} {orders : ℕ → List Product}
    (given : promotions.map Promotion.product = pages size orders count) :
    (promotions.map fun promotion => promotion.product.id) =
      pages size (fun index => (orders index).map Product.id) count := by
  have read := congrArg (List.map Product.id) given
  rw [List.map_map, pages_map] at read
  exact read

theorem accepted_of_promotionsListed (listed : PromotionsListed mongo query conditions) :
    Accepted mongo query conditions := by
  obtain ⟨sorting, _⟩ := exists_sorting []
  obtain ⟨enough, all⟩ := listed fun _ => sorting
  obtain ⟨_, answered, _⟩ := all (enough + 1) (Nat.le_succ enough)
  exact accepted_of_promotionPages answered

/-- Sorted alike, the pages show every wanted product, and none of them as `undefined`. -/
theorem discounted_of_promotionsListed (listed : PromotionsListed mongo query conditions) :
    ∀ product ∈ wanted mongo query conditions, 0 < product.discount := by
  have accepted := accepted_of_promotionsListed listed
  obtain ⟨sorting, _⟩ := exists_sorting []
  obtain ⟨enough, all⟩ := listed fun _ => sorting
  have length := (sorting.perm (wanted mongo query conditions)).length_eq
  obtain ⟨promotions, answered, _⟩ := all (enough + (wanted mongo query conditions).length)
    (Nat.le_add_right _ _)
  rw [promotionPages_of_accepted accepted, pages_self, List.take_of_length_le] at answered
  · obtain ⟨_, discounted⟩ := map_promotion?_eq_map_some (Except.ok.inj answered)
    intro product member
    exact discounted product ((sorting.perm _).mem_iff.mpr member)
  · rw [length]
    exact (Nat.le_add_left _ _).trans (Nat.le_mul_of_pos_right _ query.limitOrTen.pos)

theorem promotionsListed_iff : PromotionsListed mongo query conditions ↔
    OnePage mongo query conditions ∧
      ∀ product ∈ wanted mongo query conditions, 0 < product.discount := by
  constructor
  · intro listed
    have accepted := accepted_of_promotionsListed listed
    have discounted := discounted_of_promotionsListed listed
    refine ⟨⟨accepted, pages_wanted_iff.mp fun orders orders_all => ?_⟩, discounted⟩
    obtain ⟨sortings, sorts⟩ := exists_sortings orders_all
    obtain ⟨enough, all⟩ := listed sortings
    refine ⟨enough, fun count le => ?_⟩
    obtain ⟨promotions, answered, ids⟩ := all count le
    rw [promotionPages_of_accepted accepted] at answered
    obtain ⟨products, _⟩ := map_promotion?_eq_map_some (Except.ok.inj answered)
    rw [filter_discounted discounted] at ids
    have given : (fun index => ((sortings index).order (wanted mongo query conditions)).map
        Product.id) = orders := funext fun index => sorts index _ rfl
    rw [← given, ← promotion_ids products]
    exact ids
  · rintro ⟨one, discounted⟩ sortings
    have orders_all : ∀ index, (((sortings index).order (wanted mongo query conditions)).map
        Product.id).Perm ((wanted mongo query conditions).map Product.id) :=
      fun index => ((sortings index).perm _).map Product.id
    obtain ⟨enough, all⟩ := pages_wanted_iff.mpr one.fits _ orders_all
    refine ⟨enough, fun count le => ?_⟩
    have shown : ∀ product ∈ pages query.limitOrTen (fun index =>
        (sortings index).order (wanted mongo query conditions)) count, 0 < product.discount := by
      intro product member
      obtain ⟨index, ordered⟩ := mem_of_pages member
      exact discounted product (((sortings index).perm _).mem_iff.mp ordered)
    obtain ⟨promotions, given⟩ := exists_promotions shown
    obtain ⟨products, _⟩ := map_promotion?_eq_map_some given
    refine ⟨promotions, ?_, ?_⟩
    · rw [promotionPages_of_accepted one.toAccepted, given]
    · rw [filter_discounted discounted]
      rw [promotion_ids products]
      exact all count le

/-- The search lists every wanted product once, whatever the orders of its queries, exactly when
one page has them all and no missing seller stops it; the promotions are listed exactly when one
page has all wanted products and all of them have a discount. -/
theorem listed_iff_onePage (mongo : Mongo) (query : Query) (conditions : Conditions) :
    (ProductsListed mongo query conditions ↔ OnePage mongo query conditions ∧
      ∀ product ∈ wanted mongo query conditions, SellerKnown conditions product) ∧
    (PromotionsListed mongo query conditions ↔ OnePage mongo query conditions ∧
      ∀ product ∈ wanted mongo query conditions, 0 < product.discount) :=
  ⟨productsListed_iff, promotionsListed_iff⟩

end Pages

/-! ## Two lamps -/

/-- All positions are on Earth, and texts stand for themselves, in capitals or not. -/
def plainMongo : Mongo where
  geoNear _ stores := .ok stores
  mem_geoNear located store := by
    cases located
    exact Iff.rfl
  regex text := .ok fun name =>
    decide (text.toList.map Char.toLower <:+: name.toList.map Char.toLower)

def lamp (id : ObjectId) (discount : ℚ) : Product :=
  { Carts.soldProduct none with id := id, name := "Lamp", storeId := 10, discount := discount }

theorem lamps_distinct : ([lamp 1 10, lamp 2 0].map Product.id).Nodup :=
  List.nodup_cons.mpr ⟨by simp [lamp], by simp⟩

/-- A lamp with a discount and one without, in an active store. -/
def lampShop : Conditions :=
  { Orders.storeTerms none with products := ⟨[lamp 1 10, lamp 2 0], lamps_distinct⟩ }

def lampQuery (limit : ℕ+) : Query := ⟨some "lamp", ⟨some 2, some 48⟩, none, some limit⟩

theorem lamps_wanted (limit : ℕ+) :
    wanted plainMongo (lampQuery limit) lampShop = [lamp 1 10, lamp 2 0] := by
  have same : wanted plainMongo (lampQuery 1) lampShop = [lamp 1 10, lamp 2 0] := by
    decide +kernel
  exact same

/-- With one lamp on a page, the second page may show the lamp of the first; and the promotions
list `undefined` for the lamp without a discount. -/
theorem lamps_not_listed : ¬ProductsListed plainMongo (lampQuery 1) lampShop ∧
    ¬PromotionsListed plainMongo (lampQuery 10) lampShop := by
  constructor
  · intro listed
    have fits := (productsListed_iff.mp listed).1.fits
    rw [lamps_wanted] at fits
    exact absurd fits (by decide)
  · intro listed
    have discounted := (promotionsListed_iff.mp listed).2
    rw [lamps_wanted] at discounted
    have full := discounted (lamp 2 0) (List.mem_cons_of_mem _ List.mem_cons_self)
    exact absurd full (by decide +kernel)

end Proximity.Catalogue.Search
