import Proximity.Carts.Pricing
import Proximity.Orders.PreOrder
import Proximity.Systems.Checks

/-!
# The policy a product is sold under

A product that has no policy of its own takes one of its store or of its seller.  Four
services look it up, each in its own way.
-/

namespace Proximity.Orders

open Proximity.Systems Proximity.Models

/-- The stored products, stores and users, each with its policy or without one. -/
structure Conditions extends Offering where
  stores : Collection Store
  users : Collection User
  ofStore : ObjectId → Option Policy
  usersOnly : ∀ id, users.findById? id = none → ofUser id = none

namespace Conditions

/-- The policy of a stored store. -/
def storePolicy? (conditions : Conditions) (storeId : ObjectId) : Option Policy :=
  (conditions.stores.findById? storeId).bind fun store => conditions.ofStore store.id

/-! ## Three of the services -/

/-- The seller is that of the store; without the store there is no policy. -/
def getProduct (conditions : Conditions) (id : ObjectId) :
    Except String (Product × Option Policy) := do
  let product ← found "[object Object]" (conditions.products.findById? id)
  match conditions.ofProduct product.id with
  | some policy => return (product, some policy)
  | none =>
      match conditions.stores.findById? product.storeId with
      | none => return (product, none)
      | some store =>
          match conditions.ofStore store.id with
          | some policy => return (product, some policy)
          | none => return (product, conditions.ofUser store.sellerId)

/-- The policy that the search gives a product; the id of the seller is logged first. -/
def myAsyncFunc (conditions : Conditions) (product : Product) : Except String (Option Policy) :=
  match conditions.ofProduct product.id with
  | some policy => .ok (some policy)
  | none =>
      match conditions.storePolicy? product.storeId with
      | some policy => .ok (some policy)
      | none => do
          let seller ← found "Cannot read properties of null (reading '_id')"
            (conditions.users.findById? product.sellerId)
          return conditions.ofUser seller.id

end Conditions

/-! ## The placing of an order -/

structure OrderedItem where
  productId : ObjectId
  variantId : String
  deriving DecidableEq, Repr

structure PlacedBody where
  storeId : ObjectId
  items : List OrderedItem
  deriving DecidableEq, Repr

/-- A document that is taken for a product. -/
structure ItemProduct where
  id : ObjectId
  name : String
  variants : Option (List Variant)
  policy : Option Policy

/-- The documents are looked up among the stores, which have no variants. -/
def Conditions.doc (conditions : Conditions) (store : Store) : ItemProduct where
  id := store.id
  name := store.name
  variants := none
  policy := conditions.ofStore store.id

/-- The policy of an item; what is checked against it comes later. -/
def itemPolicy (storePolicy sellerPolicy : Option Policy) (products : List ItemProduct)
    (item : OrderedItem) : Except String (Option Policy) := do
  let product ← found "Product not found"
    (products.find? fun product => decide (product.id = item.productId))
  let variants ← found "Cannot read properties of undefined (reading 'filter')" product.variants
  require ("[" ++ product.name ++ " ] : variant not found")
    (∃ variant ∈ variants, variant.id = item.variantId)
  let policy := product.policy <|> storePolicy <|> sellerPolicy
  require ("[" ++ product.name ++ " ] : Policy not found") (policy.isSome = true)
  return policy

/-- The policies that `createOrder` gives its items. -/
def Conditions.createOrder (conditions : Conditions) (order : PlacedBody) :
    Except String (List (Option Policy)) := do
  let store ← found "Store not found" (conditions.stores.findById? order.storeId)
  let seller ← found "Seller not found" (conditions.users.findById? store.sellerId)
  let products := conditions.stores.docs.filter fun document =>
    decide (document.id ∈ order.items.map OrderedItem.productId)
  require "Products not found" (products ≠ [])
  order.items.mapM (itemPolicy (conditions.ofStore store.id) (conditions.ofUser seller.id)
    (products.map conditions.doc))

/-! ## The policy that is meant -/

/-- The product's own policy, else its store's, else its seller's, else none. -/
def Conditions.effective (conditions : Conditions) (product : Product) : Option Policy :=
  conditions.ofProduct product.id <|> conditions.storePolicy? product.storeId <|>
    conditions.ofUser product.sellerId

/-- The product has one policy on its page, in the search and in a pre-order. -/
structure ShownAlike (conditions : Conditions) (product : Product) : Prop where
  page : conditions.getProduct product.id = .ok (product, conditions.effective product)
  search : conditions.myAsyncFunc product = .ok (conditions.effective product)
  preOrder : conditions.policy? product = conditions.effective product

/-- And every variant of it is ordered under this policy. -/
structure SoldAlike (conditions : Conditions) (product : Product) : Prop
    extends ShownAlike conditions product where
  order : ∀ variant ∈ product.variants,
    conditions.createOrder ⟨product.storeId, [⟨product.id, variant.id⟩]⟩ =
      .ok [conditions.effective product]

/-- Without a policy of its own, what a level has or lacks must not make a difference. -/
def PolicyFits (conditions : Conditions) (product : Product) : Prop :=
  conditions.ofProduct product.id = none →
    match conditions.stores.findById? product.storeId with
    | some store =>
        match conditions.ofStore store.id with
        | some policy => conditions.ofUser product.sellerId = some policy
        | none =>
            (conditions.users.findById? product.sellerId).isSome = true ∧
              conditions.ofUser store.sellerId = conditions.ofUser product.sellerId
    | none =>
        (conditions.users.findById? product.sellerId).isSome = true ∧
          conditions.ofUser product.sellerId = none

section Policies

variable {conditions : Conditions} {product : Product}

/-- The policy of an answered item is that of its product. -/
theorem preOrderItem_policy {offering : Offering} {element : PreOrderElement} {variant : Variant}
    (sold : offering.sold? element.variantId = some (product, variant)) :
    ∃ item, myAsyncFuncPreOrderItems offering element = .ok item ∧
      item.policy = offering.policy? product := by
  unfold myAsyncFuncPreOrderItems
  rw [sold]
  exact ⟨_, rfl, rfl⟩

/-- No order is ever given a policy: its products are looked for among the stores. -/
theorem createOrder_fails (conditions : Conditions) (order : PlacedBody) :
    ∃ failure, conditions.createOrder order = .error failure := by
  cases placed : conditions.createOrder order with
  | error failure => exact ⟨failure, rfl⟩
  | ok policies =>
      exfalso
      unfold Conditions.createOrder at placed
      obtain ⟨store, _, placed⟩ := bind_eq_ok_iff.mp placed
      obtain ⟨seller, _, placed⟩ := bind_eq_ok_iff.mp placed
      obtain ⟨_, there, placed⟩ := bind_eq_ok_iff.mp placed
      cases items : order.items with
      | nil =>
          rw [items] at there
          exact require_eq_ok_iff.mp there (List.filter_eq_nil_iff.mpr fun _ _ => by simp)
      | cons item rest =>
          rw [items, List.mapM_cons] at placed
          obtain ⟨policy, given, _⟩ := bind_eq_ok_iff.mp placed
          obtain ⟨document, looked, given⟩ := bind_eq_ok_iff.mp given
          obtain ⟨variants, shown, _⟩ := bind_eq_ok_iff.mp given
          obtain ⟨source, _, rfl⟩ := List.mem_map.mp
            (List.mem_of_find?_eq_some (found_eq_ok_iff.mp looked))
          cases found_eq_ok_iff.mp shown

theorem getProduct_eq (stored : conditions.products.findById? product.id = some product) :
    conditions.getProduct product.id = .ok (product, conditions.ofProduct product.id <|>
      (conditions.stores.findById? product.storeId).bind fun store =>
        conditions.ofStore store.id <|> conditions.ofUser store.sellerId) := by
  unfold Conditions.getProduct
  rw [stored]
  cases own : conditions.ofProduct product.id with
  | some policy => simp [found, own, bind, Except.bind, pure, Except.pure]
  | none =>
      cases located : conditions.stores.findById? product.storeId with
      | none => simp [found, own, located, bind, Except.bind, pure, Except.pure]
      | some store =>
          cases stocked : conditions.ofStore store.id with
          | none => simp [found, own, located, stocked, bind, Except.bind, pure, Except.pure]
          | some policy =>
              simp [found, own, located, stocked, bind, Except.bind, pure, Except.pure]

/-- The search finds the policy that is meant, unless it asks a missing seller for its id. -/
theorem myAsyncFunc_eq_iff (conditions : Conditions) (product : Product) :
    conditions.myAsyncFunc product = .ok (conditions.effective product) ↔
      (conditions.ofProduct product.id = none → conditions.storePolicy? product.storeId = none →
        (conditions.users.findById? product.sellerId).isSome = true) := by
  unfold Conditions.myAsyncFunc Conditions.effective
  cases own : conditions.ofProduct product.id with
  | some policy => simp
  | none =>
      cases stocked : conditions.storePolicy? product.storeId with
      | some policy => simp
      | none =>
          cases seller : conditions.users.findById? product.sellerId with
          | none => simp [found, bind, Except.bind]
          | some user =>
              have same : user.id = product.sellerId :=
                (Collection.findById?_eq_some_iff.mp seller).2
              simp [found, bind, Except.bind, pure, Except.pure, same]

/-- Where the product's policy is shown alike. -/
theorem shownAlike_iff (stored : conditions.products.findById? product.id = some product) :
    ShownAlike conditions product ↔ PolicyFits conditions product := by
  have page := getProduct_eq stored
  have search := myAsyncFunc_eq_iff conditions product
  have parts : ShownAlike conditions product ↔
      conditions.getProduct product.id = .ok (product, conditions.effective product) ∧
      conditions.myAsyncFunc product = .ok (conditions.effective product) ∧
      conditions.policy? product = conditions.effective product :=
    ⟨fun shown => ⟨shown.page, shown.search, shown.preOrder⟩,
      fun ⟨page, search, preOrder⟩ => ⟨page, search, preOrder⟩⟩
  rw [parts, page, search, Offering.policy?, PolicyFits, Conditions.effective]
  cases own : conditions.ofProduct product.id with
  | some policy => simp
  | none =>
      cases located : conditions.stores.findById? product.storeId with
      | none =>
          have absent : conditions.storePolicy? product.storeId = none := by
            rw [Conditions.storePolicy?, located, Option.bind_none]
          simp only [Option.orElse_eq_orElse, Option.orElse_eq_or, Option.bind_none,
            Option.or_self, absent, Option.none_or, Except.ok.injEq, Prod.mk.injEq, true_and,
            forall_const, and_true]
          exact ⟨fun both => ⟨both.2, both.1.symm⟩, fun both => ⟨both.2.symm, both.1⟩⟩
      | some store =>
          cases stocked : conditions.ofStore store.id with
          | none =>
              simp only [Option.orElse_eq_orElse, Option.orElse_eq_or, Option.bind_some, stocked,
                Option.none_or, Conditions.storePolicy?, located, Except.ok.injEq,
                Prod.mk.injEq, true_and, forall_const, and_true]
              exact and_comm
          | some policy =>
              simp [Conditions.storePolicy?, located, stocked]

end Policies

/-- No variant is ever ordered under its product's policy.  The three other services agree
exactly when no level makes a difference. -/
theorem soldAlike_iff (conditions : Conditions) (product : Product)
    (stored : conditions.products.findById? product.id = some product) :
    (SoldAlike conditions product ↔ PolicyFits conditions product ∧ product.variants = []) ∧
      (ShownAlike conditions product ↔ PolicyFits conditions product) := by
  refine ⟨⟨fun sold => ⟨(shownAlike_iff stored).mp sold.toShownAlike, ?_⟩, ?_⟩,
    shownAlike_iff stored⟩
  · refine List.eq_nil_iff_forall_not_mem.mpr fun variant member => ?_
    obtain ⟨failure, failed⟩ := createOrder_fails conditions
      ⟨product.storeId, [⟨product.id, variant.id⟩]⟩
    cases failed.symm.trans (sold.order variant member)
  · rintro ⟨fits, unsold⟩
    refine ⟨(shownAlike_iff stored).mpr fits, ?_⟩
    rw [unsold]
    exact List.forall_mem_nil _

/-! ## A policy of the store -/

/-- A policy with a time limit for the pickup. -/
def pickupOf (timeLimit : ℚ) : Policy := ⟨some ⟨some timeLimit⟩, none, none⟩

def market : Store := ⟨10, 2, "market", "", "", true⟩

def merchant : User := ⟨2, none, none, none, "", .seller, true, true, none⟩

/-- A store with a policy, the product of which has none, and its seller. -/
def storeTerms (ofUser : Option Policy) : Conditions where
  products := ⟨[Carts.soldProduct none], List.nodup_singleton _⟩
  ofProduct _ := none
  ofUser id := if id = 2 then ofUser else none
  stores := ⟨[market], List.nodup_singleton _⟩
  users := ⟨[merchant], List.nodup_singleton _⟩
  ofStore _ := some (pickupOf 60)
  usersOnly id missing := by
    refine if_neg fun same => ?_
    rw [same] at missing
    cases missing

theorem market_soldAlike_iff :
    (SoldAlike (storeTerms (some (pickupOf 60))) (Carts.soldProduct none) ↔
        PolicyFits (storeTerms (some (pickupOf 60))) (Carts.soldProduct none) ∧
          (Carts.soldProduct none).variants = []) ∧
      (ShownAlike (storeTerms (some (pickupOf 60))) (Carts.soldProduct none) ↔
        PolicyFits (storeTerms (some (pickupOf 60))) (Carts.soldProduct none)) :=
  soldAlike_iff (storeTerms (some (pickupOf 60))) (Carts.soldProduct none) rfl

/-- The page shows the store's policy, a pre-order has none and an order fails. -/
theorem store_policy_skipped :
    (storeTerms none).getProduct 20 = .ok (Carts.soldProduct none, some (pickupOf 60)) ∧
      (storeTerms none).policy? (Carts.soldProduct none) = none ∧
      (storeTerms none).createOrder ⟨10, [⟨20, "a"⟩]⟩ = .error "Products not found" ∧
      ¬ SoldAlike (storeTerms none) (Carts.soldProduct none) ∧
      ¬ ShownAlike (storeTerms none) (Carts.soldProduct none) := by
  have skipped : ¬ ShownAlike (storeTerms none) (Carts.soldProduct none) := fun shown =>
    absurd shown.preOrder (by decide +kernel)
  exact ⟨by decide +kernel, by decide +kernel, by decide +kernel,
    fun sold => skipped sold.toShownAlike, skipped⟩

end Proximity.Orders
