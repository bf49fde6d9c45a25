import Mathlib.Algebra.BigOperators.Group.List.Basic
import Proximity.Apps.Client
import Proximity.Carts.Pricing

/-!
# The client's total and the server's

The client takes the discount off every ordered unit until the offer expires, the
server off the units its stock covers.  The two sides are compared item by item.
-/

namespace Proximity.Carts

open Proximity.Systems Proximity.Models Proximity.Catalogue
open Proximity.Apps

/-- The client's view of the offer that was live: its percentage as a fraction and its
expiration, or no discount. -/
def Mirrors (offer? : Option Offer) (item : Client.CartItem) : Prop :=
  match offer? with
  | none => item.discount = 0
  | some offer =>
      offer.discountType = .percentage ∧ item.discount = offer.offerDiscount / 100 ∧
        item.discountEndDate = some offer.offerExpiration

/-- An item in the client's box next to the item the server stored for it. -/
structure SharedItem (catalogue : Database) where
  client : Client.CartItem
  server : CartItem
  time : Time
  product : Product
  variant : Variant
  stored : Stored catalogue time product variant server
  sameVariant : client.variantId = some server.variantId
  sameStore : client.storeId = some product.storeId
  samePrice : client.price = some variant.price
  sameQuantity : client.orderedQuantity = server.quantity
  sameOffer : Mirrors (liveOffer? catalogue.offers time product) client
  checked : client.checked = true

/-- The units the client takes the offer's discount off. -/
def clientUnits (offer : Offer) (now : Time) (item : Client.CartItem) : ℚ :=
  if now < offer.offerExpiration then item.orderedQuantity else 0

/-- The discount the client gives beyond the server's. -/
def SharedItem.excess {catalogue : Database} (shared : SharedItem catalogue) (now : Time) : ℚ :=
  match liveOffer? catalogue.offers shared.time shared.product with
  | none => 0
  | some offer =>
      shared.variant.price * (offer.offerDiscount / 100) *
        (clientUnits offer now shared.client -
          discountedQuantity (some offer) shared.client.orderedQuantity)

theorem SharedItem.amount_eq {catalogue : Database} (shared : SharedItem catalogue)
    (now : Time) :
    shared.client.amount now = some (shared.server.totalPrice - shared.excess now) := by
  have item_eq := shared.stored.item_eq
  have mirrored := shared.sameOffer
  have total : shared.server.totalPrice = shared.variant.price * shared.client.orderedQuantity -
      discountedQuantity (liveOffer? catalogue.offers shared.time shared.product)
          shared.client.orderedQuantity *
        discountvar (liveOffer? catalogue.offers shared.time shared.product)
          shared.variant := by
    rw [shared.sameQuantity, item_eq]
    rfl
  rw [Client.CartItem.amount, shared.samePrice, Option.map_some, Option.some.injEq, total,
    SharedItem.excess]
  cases live : liveOffer? catalogue.offers shared.time shared.product with
  | none =>
      rw [live] at mirrored
      have none_off : shared.client.discount = 0 := mirrored
      simp [none_off, discountedQuantity]
  | some offer =>
      rw [live] at mirrored
      obtain ⟨percentage, discount, endDate⟩ := mirrored
      have on_time : shared.client.discounted now = decide (now < offer.offerExpiration) := by
        simp [Client.CartItem.discounted, endDate]
      simp only [on_time, decide_eq_true_eq, discount, discountvar, percentage, clientUnits]
      split
      case isTrue => ring
      case isFalse => ring

/-! ## The totals of a store -/

def ofStore (catalogue : Database) (storeId : ObjectId) (item : CartItem) : Bool :=
  (catalogue.products.findById? item.productId).any fun product =>
    decide (product.storeId = storeId)

/-- What the server's cart charges for the items of a store. -/
def storeTotal (catalogue : Database) (cart : Cart) (storeId : ObjectId) : ℚ :=
  ((cart.items.filter (ofStore catalogue storeId)).map CartItem.totalPrice).sum

/-- The box and the cart hold the same items of a store, in any order. -/
structure SameItems (catalogue : Database) (storeId : ObjectId)
    (cartItemsBox : List Client.CartItem) (cart : Cart)
    (shared : List (SharedItem catalogue)) : Prop where
  client : (cartItemsBox.filter (Client.CartItem.ofStore storeId)).Perm
    (shared.map SharedItem.client)
  server : (cart.items.filter (ofStore catalogue storeId)).Perm (shared.map SharedItem.server)

theorem sum_map_sub {catalogue : Database} (shared : List (SharedItem catalogue)) (now : Time) :
    (shared.map fun item => item.server.totalPrice - item.excess now).sum =
      (shared.map fun item => item.server.totalPrice).sum -
        (shared.map fun item => item.excess now).sum := by
  induction shared with
  | nil => simp
  | cons item rest ih =>
      simp only [List.map_cons, List.sum_cons, ih]
      ring

/-- The client's sum is the server's less the excess discounts. -/
theorem totalPrice_eq_sub {catalogue : Database} {storeId : ObjectId}
    {cartItemsBox : List Client.CartItem} {cart : Cart} {shared : List (SharedItem catalogue)}
    (same : SameItems catalogue storeId cartItemsBox cart shared) (now : Time) :
    Client.totalPrice cartItemsBox now storeId =
      some (storeTotal catalogue cart storeId -
        (shared.map fun item => item.excess now).sum) := by
  have priced : ∀ item ∈ cartItemsBox.filter (Client.CartItem.ofStore storeId),
      item.checked = true ∧ item.amount now = some ((item.amount now).getD 0) := by
    intro item member
    obtain ⟨pair, -, rfl⟩ := List.mem_map.mp (same.client.mem_iff.mp member)
    exact ⟨pair.checked, by rw [pair.amount_eq now]; rfl⟩
  have amounts : ((cartItemsBox.filter (Client.CartItem.ofStore storeId)).map
      fun item => (item.amount now).getD 0).sum =
        (shared.map fun item => item.server.totalPrice - item.excess now).sum := by
    rw [(same.client.map _).sum_eq, List.map_map]
    congr 1
    refine List.map_congr_left fun pair _ => ?_
    simp [pair.amount_eq now]
  have server : storeTotal catalogue cart storeId =
      (shared.map fun item => item.server.totalPrice).sum := by
    rw [storeTotal, (same.server.map _).sum_eq, List.map_map]
    rfl
  rw [Client.totalPrice_eq priced, amounts, server, sum_map_sub]

/-- The client's sum is the server's exactly when the excess discounts cancel out; then
its total is the server's, rounded, and otherwise they are at most a cent. -/
theorem getTotalPrice_eq_iff {catalogue : Database} {storeId : ObjectId}
    {cartItemsBox : List Client.CartItem} {cart : Cart} {shared : List (SharedItem catalogue)}
    (same : SameItems catalogue storeId cartItemsBox cart shared) (now : Time) :
    (Client.totalPrice cartItemsBox now storeId = some (storeTotal catalogue cart storeId) ↔
      (shared.map fun item => item.excess now).sum = 0) ∧
    ((shared.map fun item => item.excess now).sum = 0 →
      Client.getTotalPrice cartItemsBox now storeId =
        some (Client.toStringAsFixed2 (storeTotal catalogue cart storeId))) ∧
    (Client.getTotalPrice cartItemsBox now storeId =
        some (Client.toStringAsFixed2 (storeTotal catalogue cart storeId)) →
      |(shared.map fun item => item.excess now).sum| ≤ 1 / 100) := by
  rw [Client.getTotalPrice, totalPrice_eq_sub same now]
  simp only [Option.map_some, Option.some.injEq, sub_eq_self, true_and]
  refine ⟨fun nothing => by rw [nothing, sub_zero], fun rounded => ?_⟩
  have close := abs_sub_le_of_roundTo_eq (by norm_num : 0 < 100) rounded
  rwa [sub_sub_cancel_left, abs_neg] at close

/-! ## Two units, one of them in the offer's stock -/

theorem corner_stored :
    Stored (corner (some 30)).catalogue 0 (soldProduct (some 30)) soldVariant
      ⟨20, "a", 20, 2, 1, 180⟩ :=
  ⟨corner (some 30), 7, twoUnits, cornerCart 20 1 180, rfl, rfl, by decide,
    corner_discounted, by decide +kernel⟩

def cornerItem : SharedItem (corner (some 30)).catalogue where
  client := ⟨some "a", some 10, some 100, 20 / 100, some 86400000, 2, true⟩
  server := ⟨20, "a", 20, 2, 1, 180⟩
  time := 0
  product := soldProduct (some 30)
  variant := soldVariant
  stored := corner_stored
  sameVariant := rfl
  sameStore := rfl
  samePrice := rfl
  sameQuantity := by norm_num
  sameOffer := ⟨rfl, rfl, rfl⟩
  checked := rfl

theorem corner_sameItems :
    SameItems (corner (some 30)).catalogue 10 [cornerItem.client] (cornerCart 20 1 180)
      [cornerItem] :=
  ⟨List.Perm.refl _, List.Perm.refl _⟩

theorem corner_totals_iff :
    SameItems (corner (some 30)).catalogue 10 [cornerItem.client] (cornerCart 20 1 180)
      [cornerItem] ∧
    (Client.totalPrice [cornerItem.client] 0 10 =
        some (storeTotal (corner (some 30)).catalogue (cornerCart 20 1 180) 10) ↔
      ([cornerItem].map fun item => item.excess 0).sum = 0) :=
  ⟨corner_sameItems, (getTotalPrice_eq_iff corner_sameItems 0).1⟩

/-- The client's total is 160, the server's 180. -/
theorem corner_totals_differ :
    SameItems (corner (some 30)).catalogue 10 [cornerItem.client] (cornerCart 20 1 180)
      [cornerItem] ∧
    Client.getTotalPrice [cornerItem.client] 0 10 = some 160 ∧
    storeTotal (corner (some 30)).catalogue (cornerCart 20 1 180) 10 = 180 ∧
    Client.getTotalPrice [cornerItem.client] 0 10 ≠
      some (Client.toStringAsFixed2
        (storeTotal (corner (some 30)).catalogue (cornerCart 20 1 180) 10)) :=
  ⟨corner_sameItems, by decide +kernel, by decide +kernel, by decide +kernel⟩

end Proximity.Carts
