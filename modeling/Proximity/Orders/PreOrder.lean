import Mathlib.Algebra.Order.Ring.Rat
import Proximity.Models.Catalogue
import Proximity.Models.Policy

/-!
# Pre-orders

Before an order is placed the app asks for the current values of its items, among them
the ways in which each can be had under its policy.
-/

namespace Proximity.Orders

open Proximity.Systems Proximity.Models

/-- An item as it is asked for; `Quantity` is what `parseInt` may make of a quantity. -/
structure PreOrderElementOf (Quantity : Type) where
  variantId : String
  orderQuantity : Quantity
  deriving DecidableEq, Repr

/-- The app asks for whole numbers. -/
abbrev PreOrderElement := PreOrderElementOf Int

/-- An item as it is answered; what is `null` or missing in a flag reads as `false`. -/
structure PreOrderItemOf (Quantity : Type) where
  id : String
  productId : ObjectId
  variantId : String
  price : ℚ
  quantity : Quantity
  discount : ℚ
  reservationPolicy : Option ReservationPayment
  deliveryPolicy : Option DeliveryPricing
  pickupPolicy : Option ℚ
  reservation : Bool
  delivery : Bool
  pickup : Bool
  reservationP : ℚ
  deliveryP : ℚ
  deliveryFixe : ℚ
  policy : Option Policy
  deriving DecidableEq, Repr

abbrev PreOrderItem := PreOrderItemOf Int

/-- The stored products, and the policies of products and of users. -/
structure Offering where
  products : Collection Product
  ofProduct : ObjectId → Option Policy
  ofUser : ObjectId → Option Policy

/-- The policy of the product, or else that of its seller. -/
def Offering.policy? (offering : Offering) (product : Product) : Option Policy :=
  offering.ofProduct product.id <|> offering.ofUser product.sellerId

/-- The product that has the variant, with the variant. -/
def Offering.sold? (offering : Offering) (variantId : String) : Option (Product × Variant) :=
  (offering.products.findOne? fun product =>
      product.variants.any fun variant => decide (variant.id = variantId)).bind fun product =>
    (product.variants.find? fun variant => decide (variant.id = variantId)).map fun variant =>
      (product, variant)

/-- JavaScript takes `0` for false. -/
def nonzero (number : Option ℚ) : Option ℚ := number.filter fun number => decide (number ≠ 0)

/-- The part of the price that a reservation costs; a fixed amount is taken for a part. -/
def reservationP (payment : Option ReservationPayment) : ℚ :=
  match payment with
  | none => 0
  | some payment =>
      if payment.free = some true then 0
      else if payment.total = some true then 1
      else match payment.partialPayment with
        | none => 0
        | some given =>
            match nonzero given.percentage with
            | some percentage => percentage / 100
            | none => given.fixe.getD 0

/-- The error of a quantity that is not in stock is overwritten. -/
def myAsyncFuncPreOrderItems {Quantity : Type} (offering : Offering)
    (element : PreOrderElementOf Quantity) : Except String (PreOrderItemOf Quantity) :=
  match offering.sold? element.variantId with
  | none => .error "Product not found"
  | some (product, variant) =>
      let policy := offering.policy? product
      .ok {
        id := variant.id
        productId := product.id
        variantId := variant.id
        price := variant.price
        quantity := element.orderQuantity
        discount := product.discount
        reservationPolicy := Policy.payment? policy
        deliveryPolicy := Policy.pricing? policy
        pickupPolicy := Policy.timeLimit? policy
        reservation := false
        delivery := !(Policy.timeLimit? policy).isSome
        pickup := (Policy.timeLimit? policy).isSome
        reservationP := reservationP (Policy.payment? policy)
        deliveryP := ((Policy.pricing? policy).bind DeliveryPricing.km).getD 0
        deliveryFixe := ((Policy.pricing? policy).bind DeliveryPricing.fixe).getD 0
        policy := policy }

def asyncMapPreOrderItems {Quantity : Type} (offering : Offering)
    (elements : List (PreOrderElementOf Quantity)) :
    List (Except String (PreOrderItemOf Quantity)) :=
  elements.map (myAsyncFuncPreOrderItems offering)

/-- An item is offered for pickup at first if its policy has a time limit, else for delivery. -/
theorem preOrderItem_modes {offering : Offering} {element : PreOrderElement} {item : PreOrderItem}
    (answered : myAsyncFuncPreOrderItems offering element = .ok item) :
    item.reservation = false ∧ item.pickup = item.pickupPolicy.isSome ∧
      item.delivery = !item.pickup := by
  unfold myAsyncFuncPreOrderItems at answered
  cases sold : offering.sold? element.variantId with
  | none =>
      rw [sold] at answered
      cases answered
  | some pair =>
      rw [sold] at answered
      cases answered
      exact ⟨rfl, rfl, rfl⟩

/-- The answered items are those of the sold variants, with their policy's time limit. -/
theorem answered_iff {offering : Offering} {elements : List PreOrderElement}
    {limit? : Option ℚ} :
    (∃ item, .ok item ∈ asyncMapPreOrderItems offering elements ∧ item.pickupPolicy = limit?) ↔
      ∃ element ∈ elements, ∃ product variant,
        offering.sold? element.variantId = some (product, variant) ∧
        Policy.timeLimit? (offering.policy? product) = limit? := by
  constructor
  · rintro ⟨item, member, rfl⟩
    obtain ⟨element, asked, answered⟩ := List.mem_map.mp member
    unfold myAsyncFuncPreOrderItems at answered
    cases sold : offering.sold? element.variantId with
    | none =>
        rw [sold] at answered
        cases answered
    | some pair =>
        rw [sold] at answered
        cases answered
        exact ⟨element, asked, pair.1, pair.2, sold, rfl⟩
  · rintro ⟨element, asked, product, variant, sold, rfl⟩
    have answered : ∃ item, myAsyncFuncPreOrderItems offering element = .ok item ∧
        item.pickupPolicy = Policy.timeLimit? (offering.policy? product) := by
      unfold myAsyncFuncPreOrderItems
      rw [sold]
      exact ⟨_, rfl, rfl⟩
    obtain ⟨item, answered, limit⟩ := answered
    exact ⟨item, List.mem_map.mpr ⟨element, asked, answered⟩, limit⟩

/-- The pickup time limits of the asked items are positive. -/
def Offering.PositiveLimits (offering : Offering) (elements : List PreOrderElement) : Prop :=
  ∀ element ∈ elements, ∀ product variant,
    offering.sold? element.variantId = some (product, variant) →
      ∀ limit, Policy.timeLimit? (offering.policy? product) = some limit → 0 < limit

theorem positiveLimits_iff {offering : Offering} {elements : List PreOrderElement} :
    offering.PositiveLimits elements ↔
      ∀ item, .ok item ∈ asyncMapPreOrderItems offering elements →
        ∀ limit, item.pickupPolicy = some limit → 0 < limit := by
  constructor
  · intro positive item member limit asked
    obtain ⟨element, there, product, variant, sold, given⟩ :=
      answered_iff.mp ⟨item, member, asked⟩
    exact positive element there product variant sold limit given
  · intro positive element asked product variant sold limit given
    obtain ⟨item, member, limited⟩ :=
      answered_iff.mpr ⟨element, asked, product, variant, sold, given⟩
    exact positive item member limit limited

end Proximity.Orders
