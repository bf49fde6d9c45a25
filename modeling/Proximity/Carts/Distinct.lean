import Mathlib.Data.List.Nodup
import Mathlib.Data.List.Perm.Subperm
import Proximity.Carts.Pricing

/-!
# One item for each variant

`addToCart` looks for an item of the variant before it pushes a new one, so a cart never has
two items of one variant, whatever becomes of the catalogue meanwhile.
-/

namespace Proximity.Carts

open Proximity.Systems Proximity.Models Proximity.Catalogue

def Cart.variantIds (cart : Cart) : List String := cart.items.map CartItem.variantId

theorem variantId_putItem (body : ItemBody) (variant : Variant) (offer? : Option Offer)
    (quantity : ℚ) (items : List CartItem) :
    (putItem body variant offer? quantity items).map CartItem.variantId =
      if body.variantId ∈ items.map CartItem.variantId then items.map CartItem.variantId
      else items.map CartItem.variantId ++ [body.variantId] := by
  induction items with
  | nil => rfl
  | cons item rest ih =>
      by_cases same : item.variantId = body.variantId
      · simp [putItem, same, pricedItem]
      · have other : body.variantId ≠ item.variantId := fun equal => same equal.symm
        rw [putItem, if_neg same, List.map_cons, List.map_cons, ih]
        simp only [List.mem_cons, other, false_or]
        split <;> rfl

theorem nodup_putItem {body : ItemBody} {variant : Variant} {offer? : Option Offer}
    {quantity : ℚ} {items : List CartItem} (distinct : (items.map CartItem.variantId).Nodup) :
    ((putItem body variant offer? quantity items).map CartItem.variantId).Nodup := by
  rw [variantId_putItem]
  split
  case isTrue => exact distinct
  case isFalse absent =>
      rw [← List.concat_eq_append]
      exact distinct.concat absent

/-! ## Runs -/

/-- Items are put into carts, and anything may happen to the catalogue. -/
inductive CartEvent where
  | addToCart (request : Request)
  | catalogue (changed : Database)

def cartEvent? (shop : Shop) : CartEvent → Option Shop
  | .addToCart request => step? shop request
  | .catalogue changed => some { shop with catalogue := changed }

def AllDistinct (shop : Shop) : Prop := ∀ cart ∈ shop.carts.docs, cart.variantIds.Nodup

theorem cartOrNew_distinct {shop : Shop} (all : AllDistinct shop) (user : ObjectId) :
    (shop.cartOrNew user).variantIds.Nodup := by
  unfold Shop.cartOrNew
  cases stored : shop.cart? user with
  | none => exact List.nodup_nil
  | some cart => exact all cart (Collection.findById?_eq_some_iff.mp stored).1

theorem event_allDistinct {shop target : Shop} {event : CartEvent} (all : AllDistinct shop)
    (stepped : cartEvent? shop event = some target) : AllDistinct target := by
  cases event with
  | catalogue changed =>
      cases stepped
      exact all
  | addToCart request =>
      change step? shop request = some target at stepped
      unfold step? at stepped
      split at stepped
      case h_2 =>
          cases stepped
          exact all
      case h_1 cart answered =>
          cases stepped
          intro other member
          rcases mem_save member with old | rfl
          · exact all other old
          · obtain ⟨product, variant, requested, productId, before, after, accepted⟩ :=
              addToCart_accepted answered
            rw [Cart.variantIds, accepted.put]
            exact nodup_putItem (cartOrNew_distinct all request.user)

/-- From a shop without carts, every run leaves one item for each variant. -/
theorem allDistinct_of_run (catalogue : Database) (events : List CartEvent) :
    Always cartEvent? AllDistinct ⟨catalogue, Collection.empty⟩ events :=
  always_of_preserved (fun _ _ _ holds stepped => event_allDistinct holds stepped)
    (fun _ member => absurd member (List.not_mem_nil)) events

/-! ## Counting -/

/-- Among keys without repetition as many are asked for as keys are asked for, exactly when no
key is asked for twice and none is missing. -/
theorem length_asked_iff {kept asked : List String} (distinct : kept.Nodup) :
    (kept.filter fun key => decide (key ∈ asked)).length = asked.length ↔
      asked.Nodup ∧ ∀ key ∈ asked, key ∈ kept := by
  have filtered : (kept.filter fun key => decide (key ∈ asked)).Nodup := distinct.filter _
  have among : (kept.filter fun key => decide (key ∈ asked)) ⊆ asked := fun key member =>
    of_decide_eq_true (List.mem_filter.mp member).2
  have fewer := List.subperm_of_subset filtered among
  constructor
  · intro same
    have all := fewer.perm_of_length_le same.ge
    exact ⟨all.nodup_iff.mp filtered, fun key member =>
      (List.mem_filter.mp (all.mem_iff.mpr member)).1⟩
  · rintro ⟨once, present⟩
    have more : asked ⊆ kept.filter fun key => decide (key ∈ asked) := fun key member =>
      List.mem_filter.mpr ⟨present key member, decide_eq_true member⟩
    exact Nat.le_antisymm fewer.length_le (List.subperm_of_subset once more).length_le

end Proximity.Carts
