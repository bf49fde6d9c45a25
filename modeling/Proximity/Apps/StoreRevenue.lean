import Proximity.Orders.Listing
import Proximity.Systems.Binary64
import Proximity.Systems.Totals

/-!
# The merchant's app: the revenue of the stores

The service keeps one map of revenues for as long as it lives and adds to it whenever it
has asked the server for the orders.  Its two requests never bring any.
-/

namespace Proximity.Apps.Commercant.Revenue

open Proximity.Systems Proximity.Models
open Proximity.Orders (Database getOrdersPickUpByStatus marketplace)

/-! ## The service -/

/-- The part of the app's `Order` that the map is built from. -/
structure Order where
  storeName : Option String
  totalPrice : Option Binary64
  deriving DecidableEq

def Order.price (order : Order) : Binary64 := order.totalPrice.getD .zero

abbrev RevenueMap := Totals String Binary64

/-- The map and whether the loop has come to its end; a missing name throws. -/
def calculateStoreRevenue : RevenueMap → List Order → RevenueMap × Bool
  | storeRevenueMap, [] => (storeRevenueMap, true)
  | storeRevenueMap, order :: rest =>
      match order.storeName with
      | none => (storeRevenueMap, false)
      | some storeName =>
          let before := (Totals.get? storeRevenueMap storeName).getD .zero
          calculateStoreRevenue (storeRevenueMap.put ⟨storeName, before.add order.price⟩) rest

/-- `getOrders` gives the orders of a type, or throws. -/
def getStoreRevenu (getOrders : String → Option (List Order)) (storeRevenueMap : RevenueMap) :
    RevenueMap :=
  match getOrders "delivery" with
  | none => storeRevenueMap
  | some deliveries =>
      let added := calculateStoreRevenue storeRevenueMap deliveries
      if added.2 = true then
        match getOrders "pickup" with
        | none => added.1
        | some pickups => (calculateStoreRevenue added.1 pickups).1
      else added.1

/-- The map after some runs over the same orders. -/
def refreshed (getOrders : String → Option (List Order)) (runs : ℕ) : RevenueMap :=
  (getStoreRevenu getOrders)^[runs] Collection.empty

/-! ## The answer of the server -/

/-- The name of an order's store and the phone of its seller; what is gone is `null`. -/
structure Answer where
  totalAmount : Binary64
  store : Option String
  seller : Option (Option String)

section Server

variable (database : Database) (paymentInfos : ObjectId → Binary64)

/-- `paymentInfos` gives the paid total of the order of an id. -/
def myAsyncFuncOrder (order : Models.Order) : Answer :=
  let store := database.stores.findById? order.storeId
  { totalAmount := paymentInfos order.id
    store := store.map Store.name
    seller := store.bind fun store => (database.users.findById? store.sellerId).map User.phone }

def Order.fromJson (answer : Answer) : Option Order :=
  match answer.store, answer.seller with
  | some name, some _ => some ⟨some name, some answer.totalAmount⟩
  | _, _ => none

/-- The app always asks for all statuses. -/
def getOrders (id : ObjectId) (type : String) : Option (List Order) :=
  ((getOrdersPickUpByStatus database type id "all").map
    (myAsyncFuncOrder database paymentInfos)).mapM Order.fromJson

/-! ## What the map is for -/

/-- The order is to be picked up or delivered. -/
def isPickupOrDelivery (order : Models.Order) : Bool := order.pickUp || order.delivery

/-- It is neither canceled nor refunded either, as the two lists are meant to have it. -/
def isLive (order : Models.Order) : Bool :=
  isPickupOrDelivery order && decide (order.canceled ≠ some true) &&
    decide (order.refund ≠ some true)

/-- The orders of a store that are to count. -/
def ordersOf (counts : Models.Order → Bool) (storeId : ObjectId) : List Models.Order :=
  database.orders.docs.filter fun order => counts order && decide (order.storeId = storeId)

def addUp (prices : List Binary64) : Binary64 := prices.foldl Binary64.add .zero

/-- Under the name of each of the merchant's stores that has orders stands their total, in
whatever order they are added up. -/
def GivesRevenue (counts : Models.Order → Bool) (id : ObjectId)
    (storeRevenueMap : RevenueMap) : Prop :=
  ∀ store ∈ database.stores.docs, store.sellerId = id → ordersOf database counts store.id ≠ [] →
    ∀ listed : List Models.Order, listed.Perm (ordersOf database counts store.id) →
      Totals.get? storeRevenueMap store.name =
        some (addUp (listed.map fun order => paymentInfos order.id))

end Server

/-! ## Runs -/

def Order.named (storeName : String) (order : Order) : Bool :=
  decide (order.storeName = some storeName)

def grow (before : Option Binary64) (price : Binary64) : Option Binary64 :=
  some ((before.getD .zero).add price)

/-- The prices of the orders of a name. -/
def pricesOf (storeName : String) (orders : List Order) : List Binary64 :=
  (orders.filter (Order.named storeName)).map Order.price

/-- Each order of a name adds its price to what stands under the name, whatever its store. -/
theorem calculateStoreRevenue_get? {listed : List Order}
    (named : ∀ order ∈ listed, order.storeName ≠ none) (storeRevenueMap : RevenueMap)
    (storeName : String) :
    (calculateStoreRevenue storeRevenueMap listed).2 = true ∧
      Totals.get? (calculateStoreRevenue storeRevenueMap listed).1 storeName =
        (pricesOf storeName listed).foldl grow (Totals.get? storeRevenueMap storeName) := by
  induction listed generalizing storeRevenueMap with
  | nil => exact ⟨rfl, rfl⟩
  | cons order rest ih =>
      obtain ⟨here, later⟩ := List.forall_mem_cons.mp named
      obtain ⟨own, given⟩ := Option.ne_none_iff_exists'.mp here
      rw [calculateStoreRevenue, given]
      obtain ⟨ended, stands⟩ := ih later
        (storeRevenueMap.put ⟨own, ((Totals.get? storeRevenueMap own).getD .zero).add order.price⟩)
      refine ⟨ended, stands.trans ?_⟩
      rw [Totals.get?_put, pricesOf, pricesOf]
      by_cases same : storeName = own
      · have here : order.named storeName = true := decide_eq_true (same ▸ given)
        rw [if_pos same, List.filter_cons_of_pos here, List.map_cons, List.foldl_cons, same]
        rfl
      · have apart : ¬order.named storeName = true := fun called =>
          same (Option.some_inj.mp ((of_decide_eq_true called).symm.trans given))
        rw [if_neg same, List.filter_cons_of_neg apart]

theorem getStoreRevenu_get? {getOrders : String → Option (List Order)}
    {deliveries pickups : List Order} (first : getOrders "delivery" = some deliveries)
    (second : getOrders "pickup" = some pickups)
    (named : ∀ order ∈ deliveries ++ pickups, order.storeName ≠ none)
    (storeRevenueMap : RevenueMap) (storeName : String) :
    Totals.get? (getStoreRevenu getOrders storeRevenueMap) storeName =
      (pricesOf storeName (deliveries ++ pickups)).foldl grow
        (Totals.get? storeRevenueMap storeName) := by
  obtain ⟨early, late⟩ := List.forall_mem_append.mp named
  obtain ⟨ended, added⟩ := calculateStoreRevenue_get? early storeRevenueMap storeName
  have rest := (calculateStoreRevenue_get? late
    (calculateStoreRevenue storeRevenueMap deliveries).1 storeName).2
  rw [getStoreRevenu, first, second]
  dsimp only
  rw [if_pos ended, rest, added, pricesOf, pricesOf, pricesOf, List.filter_append,
    List.map_append, List.foldl_append]

/-- Every run adds all orders of a name once more. -/
theorem refreshed_get? {getOrders : String → Option (List Order)}
    {deliveries pickups : List Order} (first : getOrders "delivery" = some deliveries)
    (second : getOrders "pickup" = some pickups)
    (named : ∀ order ∈ deliveries ++ pickups, order.storeName ≠ none) (runs : ℕ)
    (storeName : String) :
    Totals.get? (refreshed getOrders runs) storeName =
      (List.replicate runs (pricesOf storeName (deliveries ++ pickups))).flatten.foldl grow
        none := by
  induction runs with
  | zero => rfl
  | succ runs ih =>
      have again : refreshed getOrders (runs + 1) =
          getStoreRevenu getOrders (refreshed getOrders runs) :=
        Function.iterate_succ_apply' _ _ _
      rw [again, getStoreRevenu_get? first second named, ih, List.replicate_succ',
        List.flatten_append, List.flatten_singleton, List.foldl_append]

/-- What grows from nothing is a total. -/
theorem foldl_grow (price : Binary64) (prices : List Binary64) :
    (price :: prices).foldl grow none = some (addUp (price :: prices)) := by
  have grown : ∀ before : Binary64,
      prices.foldl grow (some before) = some (prices.foldl Binary64.add before) := by
    induction prices with
    | nil => exact fun before => rfl
    | cons next rest ih => exact fun before => ih (before.add next)
  exact grown (Binary64.zero.add price)

/-- Whatever orders the requests bring, what stands under a name is the total of the orders of
all stores of the name, each counted once for every run. -/
theorem refreshed_eq_addUp {getOrders : String → Option (List Order)}
    {deliveries pickups : List Order} (first : getOrders "delivery" = some deliveries)
    (second : getOrders "pickup" = some pickups)
    (named : ∀ order ∈ deliveries ++ pickups, order.storeName ≠ none) (repeats : ℕ)
    {storeName : String} (taken : pricesOf storeName (deliveries ++ pickups) ≠ []) :
    Totals.get? (refreshed getOrders (repeats + 1)) storeName =
      some (addUp (List.replicate (repeats + 1)
        (pricesOf storeName (deliveries ++ pickups))).flatten) := by
  obtain ⟨price, prices, split⟩ := List.exists_cons_of_ne_nil taken
  rw [refreshed_get? first second named, split, List.replicate_succ, List.flatten_cons,
    List.cons_append, foldl_grow]

/-- A whole number of tenths. -/
def tenths (count : ℕ) : Binary64 := .round false (count / 10) (by positivity)

example : addUp [tenths 1, tenths 2, tenths 3] ≠ addUp [tenths 3, tenths 2, tenths 1] := by
  decide +kernel

/-! ## What the requests bring -/

variable (database : Database) (paymentInfos : ObjectId → Binary64)

/-- The queries for deliveries and pickups ask for `reservation`. -/
theorem getOrders_eq_nil {type : String} (asked : type = "delivery" ∨ type = "pickup")
    (id : ObjectId) : getOrders database paymentInfos id type = some [] := by
  have nothing : getOrdersPickUpByStatus database type id "all" = [] := by
    refine List.eq_nil_iff_forall_not_mem.mpr fun order listed => ?_
    obtain ⟨viewer, finds⟩ := Orders.finds_of_mem_getOrders listed
    have reservation : (Orders.Path.reservation, Orders.ofType type "reservation") ∈
        (Orders.queryFor viewer type "all").conditions := by
      rcases asked with rfl | rfl
      · simp [Orders.queryFor]
      · simp [Orders.queryFor]
    rw [Orders.finds_eq_false_of_reservation reservation] at finds
    cases finds
  rw [getOrders, nothing]
  rfl

/-- However often the orders are fetched, the map has no entry. -/
theorem refreshed_get?_eq_none (id : ObjectId) (runs : ℕ) (storeName : String) :
    Totals.get? (refreshed (getOrders database paymentInfos id) runs) storeName = none := by
  rw [refreshed_get? (getOrders_eq_nil database paymentInfos (.inl rfl) id)
    (getOrders_eq_nil database paymentInfos (.inr rfl) id) (List.forall_mem_nil _)]
  have empty : (List.replicate runs (pricesOf storeName ([] ++ []))).flatten = [] :=
    List.flatten_eq_nil_iff.mpr fun prices copied => List.eq_of_mem_replicate copied
  rw [empty]
  rfl

theorem givesRevenue_iff_none (counts : Models.Order → Bool) (id : ObjectId) (runs : ℕ) :
    GivesRevenue database paymentInfos counts id
        (refreshed (getOrders database paymentInfos id) runs) ↔
      ∀ order ∈ database.orders.docs, order.storeId ∈ database.storesOf id →
        counts order = false := by
  constructor
  · intro gives order stored own
    obtain ⟨store, kept, same⟩ := List.mem_map.mp own
    obtain ⟨there, ofSeller⟩ := List.mem_filter.mp kept
    by_contra counted
    have listed : order ∈ ordersOf database counts store.id := by
      refine List.mem_filter.mpr ⟨stored, ?_⟩
      simp [Bool.eq_true_of_not_eq_false counted, same]
    have entry := gives store there (of_decide_eq_true ofSeller) (List.ne_nil_of_mem listed) _
      (List.Perm.refl _)
    rw [refreshed_get?_eq_none] at entry
    cases entry
  · intro none store there ofSeller orders
    refine absurd (List.filter_eq_nil_iff.mpr fun order stored counted => ?_) orders
    obtain ⟨counted, same⟩ := Bool.and_eq_true_iff.mp counted
    have own : order.storeId ∈ database.storesOf id := by
      rw [of_decide_eq_true same]
      exact List.mem_map_of_mem (List.mem_filter.mpr ⟨there, decide_eq_true ofSeller⟩)
    rw [none order stored own] at counted
    cases counted

/-- However often the orders are fetched, the map is right exactly when the merchant's stores
have no order for pickup or delivery, or no such order that is neither canceled nor refunded
when only those are to count. -/
theorem givesRevenue_iff_noOrders (id : ObjectId) (repeats : ℕ) :
    (GivesRevenue database paymentInfos isPickupOrDelivery id
        (refreshed (getOrders database paymentInfos id) (repeats + 1)) ↔
      ∀ order ∈ database.orders.docs, order.storeId ∈ database.storesOf id →
        order.pickUp = false ∧ order.delivery = false) ∧
      (GivesRevenue database paymentInfos isLive id
          (refreshed (getOrders database paymentInfos id) (repeats + 1)) ↔
        ∀ order ∈ database.orders.docs, order.storeId ∈ database.storesOf id →
          order.pickUp = true ∨ order.delivery = true →
            order.canceled = some true ∨ order.refund = some true) := by
  constructor
  · rw [givesRevenue_iff_none]
    refine forall₃_congr fun order stored own => ?_
    exact Bool.or_eq_false_iff
  · rw [givesRevenue_iff_none]
    refine forall₃_congr fun order stored own => ?_
    rw [isLive, isPickupOrDelivery]
    cases order.pickUp <;> cases order.delivery <;> simp [or_iff_not_imp_left]

/-- One pickup of a store is paid with ten and not in the map. -/
theorem cornerShop_not_given :
    ¬GivesRevenue marketplace (fun _ => tenths 100) isPickupOrDelivery 2
        (refreshed (getOrders marketplace (fun _ => tenths 100) 2) 1) ∧
      ¬GivesRevenue marketplace (fun _ => tenths 100) isLive 2
        (refreshed (getOrders marketplace (fun _ => tenths 100) 2) 1) := by
  constructor
  · intro gives
    have entry := gives _ (List.mem_singleton.mpr rfl) rfl (by decide) _ (List.Perm.refl _)
    exact absurd entry (by decide +kernel)
  · intro gives
    have entry := gives _ (List.mem_singleton.mpr rfl) rfl (by decide) _ (List.Perm.refl _)
    exact absurd entry (by decide +kernel)

end Proximity.Apps.Commercant.Revenue
