import Proximity.Apps.Checkout
import Proximity.Carts.Pricing

/-!
# One way to get each product

The switches keep every product of the screen in exactly one of the three lists, provided
its pickup policy lets it be picked up, as the answer of the pre-order does at first.
-/

namespace Proximity.Apps.Client

open Proximity.Systems Proximity.Models Proximity.Orders

/-- Each product is in exactly one list, and in that of a way its policy allows. -/
structure Partitioned (products : List ProductCart) : Prop where
  oneList : ∀ item ∈ products,
    [getReservationItems products, getPickupItems products, getDeliveryItems products].countP
      (fun items => decide (item ∈ items)) = 1
  pickup : ∀ item ∈ getPickupItems products, item.pickupPolicy = true
  delivery : ∀ item ∈ getDeliveryItems products, item.deliveryPolicy = true

/-- A product that may be had both ways and is had one way. -/
structure ProductCart.Settled (item : ProductCart) : Prop where
  oneWay : item.delivery = !item.pickup
  pickupPolicy : item.pickupPolicy = true
  deliveryPolicy : item.deliveryPolicy = true

/-! ## The lists -/

section Lists

variable {products : List ProductCart} {item : ProductCart}

theorem mem_getReservationItems :
    item ∈ getReservationItems products ↔ item ∈ products ∧ item.reservation = true := by
  simp [getReservationItems]

theorem mem_getPickupItems : item ∈ getPickupItems products ↔
    item ∈ products ∧ item.reservation = false ∧ item.pickup = true := by
  simp [getPickupItems]

theorem mem_getDeliveryItems : item ∈ getDeliveryItems products ↔
    item ∈ products ∧ item.reservation = false ∧ item.delivery = true := by
  simp [getDeliveryItems]

theorem partitioned_of_settled (settled : ∀ item ∈ products, item.Settled) :
    Partitioned products := by
  refine ⟨fun item member => ?_, fun item picked => ?_, fun item delivered => ?_⟩
  · have oneWay := (settled item member).oneWay
    cases reserved : item.reservation with
    | true =>
        simp [mem_getReservationItems, mem_getPickupItems, mem_getDeliveryItems, member, reserved]
    | false =>
        cases picked : item.pickup with
        | true =>
            simp [mem_getReservationItems, mem_getPickupItems, mem_getDeliveryItems, member,
              reserved, oneWay, picked]
        | false =>
            simp [mem_getReservationItems, mem_getPickupItems, mem_getDeliveryItems, member,
              reserved, oneWay, picked]
  · exact (settled item (mem_getPickupItems.mp picked).1).pickupPolicy
  · exact (settled item (mem_getDeliveryItems.mp delivered).1).deliveryPolicy

end Lists

/-! ## The switches -/

section Switches

variable {item : ProductCart}

theorem setReservation_settled (settled : item.Settled) (value : Bool) :
    (item.setReservation value).Settled := by
  obtain ⟨oneWay, pickupPolicy, deliveryPolicy⟩ := settled
  unfold ProductCart.setReservation
  cases value with
  | true =>
      rw [if_pos rfl, if_pos pickupPolicy]
      exact ⟨rfl, pickupPolicy, deliveryPolicy⟩
  | false => exact ⟨oneWay, pickupPolicy, deliveryPolicy⟩

theorem setPickup_settled (settled : item.Settled) (value : Bool) :
    (item.setPickup value).Settled := by
  obtain ⟨oneWay, pickupPolicy, deliveryPolicy⟩ := settled
  unfold ProductCart.setPickup
  rw [if_pos deliveryPolicy]
  cases value with
  | true => exact ⟨rfl, pickupPolicy, deliveryPolicy⟩
  | false =>
      rw [if_neg (by simp)]
      split
      case isTrue kept => exact ⟨kept, pickupPolicy, deliveryPolicy⟩
      case isFalse delivered => exact ⟨by simpa using delivered, pickupPolicy, deliveryPolicy⟩

theorem setDelivery_settled (settled : item.Settled) (value : Bool) :
    (item.setDelivery value).Settled := by
  obtain ⟨oneWay, pickupPolicy, deliveryPolicy⟩ := settled
  unfold ProductCart.setDelivery
  rw [if_pos pickupPolicy]
  cases value with
  | true => exact ⟨rfl, pickupPolicy, deliveryPolicy⟩
  | false =>
      rw [if_neg (by simp)]
      split
      case isTrue kept => exact ⟨by rw [kept]; rfl, pickupPolicy, deliveryPolicy⟩
      case isFalse picked => exact ⟨by simpa using picked, pickupPolicy, deliveryPolicy⟩

end Switches

/-- A change of one product keeps what the change keeps. -/
theorem forall_changeFirst {Holds : ProductCart → Prop} {id : Option String}
    {change : ProductCart → ProductCart} {products : List ProductCart}
    (all : ∀ item ∈ products, Holds item) (kept : ∀ item, Holds item → Holds (change item)) :
    ∀ item ∈ changeFirst id change products, Holds item := by
  intro item member
  obtain ⟨index, stands⟩ := List.mem_iff_getElem?.mp member
  rw [changeFirst, List.getElem?_modify] at stands
  obtain ⟨before, there, rfl⟩ := Option.map_eq_some_iff.mp stands
  have held : Holds before := all before (List.mem_of_getElem? there)
  split
  case isTrue => exact kept before held
  case isFalse => exact held

theorem forall_switchFirst {Holds : ProductCart → Prop} {value : Option Bool} {id : Option String}
    {change : Bool → ProductCart → ProductCart} {products : List ProductCart}
    (all : ∀ item ∈ products, Holds item)
    (kept : ∀ value item, Holds item → Holds (change value item)) :
    ∀ item ∈ switchFirst value id change products, Holds item := by
  cases value with
  | none => exact all
  | some value => exact forall_changeFirst all (kept value)

theorem screen_settled {products target : List ProductCart} {call : ScreenCall}
    (settled : ∀ item ∈ products, item.Settled) (called : screen? products call = some target) :
    ∀ item ∈ target, item.Settled := by
  cases call with
  | toggleReservation value id =>
      cases called
      exact forall_switchFirst settled fun value _ holds => setReservation_settled holds value
  | togglePickup value id =>
      cases called
      exact forall_switchFirst settled fun value _ holds => setPickup_settled holds value
  | toggleDelivery value id =>
      cases called
      exact forall_switchFirst settled fun value _ holds => setDelivery_settled holds value
  | changeQuantity value id =>
      cases called
      exact forall_changeFirst settled fun _ holds =>
        ⟨holds.oneWay, holds.pickupPolicy, holds.deliveryPolicy⟩
  | deleteProduct id =>
      cases called
      exact fun item member => settled item (List.mem_filter.mp member).1

/-! ## From the pre-order on -/

section Built

variable {offering : Offering} {elements : List PreOrderElement} {products : List ProductCart}

/-- At first every product of the screen is picked up. -/
theorem built_pickup (built : order (asyncMapPreOrderItems offering elements) = some products)
    {item : ProductCart} (member : item ∈ products) :
    item.reservation = false ∧ item.pickup = true ∧ item.delivery = false := by
  obtain ⟨prod, limit, answered, limited, rfl⟩ := (order_mem_iff built).mp member
  obtain ⟨element, -, answer⟩ := List.mem_map.mp answered
  obtain ⟨reservation, pickup, delivery⟩ := preOrderItem_modes answer
  have picked : prod.pickup = true := by rw [pickup, limited]; rfl
  refine ⟨reservation, picked, ?_⟩
  change prod.delivery = false
  rw [delivery, picked]
  rfl

/-- Every product is always in exactly one list, whose policy it has, exactly when the
pickup time limits were positive. -/
theorem always_partitioned_iff
    (built : order (asyncMapPreOrderItems offering elements) = some products)
    (calls : List ScreenCall) :
    Always screen? Partitioned products calls ↔ offering.PositiveLimits elements := by
  constructor
  · intro always
    refine positiveLimits_iff.mpr fun prod answered limit limited => ?_
    have member := (order_mem_iff built).mpr ⟨prod, limit, answered, limited, rfl⟩
    obtain ⟨reservation, pickup, -⟩ := built_pickup built member
    have allowed := always.source.pickup _ (mem_getPickupItems.mpr ⟨member, reservation, pickup⟩)
    exact of_decide_eq_true allowed
  · intro positive
    have settled : ∀ item ∈ products, item.Settled := by
      intro item member
      obtain ⟨-, pickup, delivery⟩ := built_pickup built member
      obtain ⟨prod, limit, answered, limited, rfl⟩ := (order_mem_iff built).mp member
      have allowed := positiveLimits_iff.mp positive prod answered limit limited
      exact ⟨by rw [delivery, pickup]; rfl, decide_eq_true allowed, rfl⟩
    exact (always_of_preserved (fun _ _ _ holds called => screen_settled holds called) settled
      calls).mono fun _ holds => partitioned_of_settled holds

end Built

/-- A product whose seller lets it be picked up within a time limit. -/
def shelf (timeLimit : ℚ) : Offering where
  products := ⟨[Carts.soldProduct none], by simp⟩
  ofProduct _ := none
  ofUser _ := some ⟨some ⟨some timeLimit⟩, none, none⟩

def shelfProduct (pickup delivery pickupPolicy : Bool) : ProductCart where
  id := some "a"
  productId := some "20"
  variantId := some "a"
  price := some 100
  quantity := 2
  discount := 0
  reservation := false
  reservationP := 0
  delivery := delivery
  deliveryP := 0
  pickup := pickup
  reservationPolicy := false
  deliveryPolicy := true
  pickupPolicy := pickupPolicy

theorem shelf_partitioned_iff :
    order (asyncMapPreOrderItems (shelf 60) [⟨"a", 2⟩]) = some [shelfProduct true false true] ∧
      (Always screen? Partitioned [shelfProduct true false true]
          [.toggleDelivery (some true) (some "a")] ↔
        (shelf 60).PositiveLimits [⟨"a", 2⟩]) :=
  ⟨by decide +kernel, always_partitioned_iff (by decide +kernel) _⟩

/-- With a time limit of zero the product is to be picked up against its policy, and once
it was reserved and is not any more it is delivered as well. -/
theorem noLimit_not_partitioned :
    order (asyncMapPreOrderItems (shelf 0) [⟨"a", 2⟩]) = some [shelfProduct true false false] ∧
      ¬ Always screen? Partitioned [shelfProduct true false false] [] ∧
      run? screen? [shelfProduct true false false]
        [.toggleReservation (some true) (some "a"), .toggleReservation (some false) (some "a")] =
        some [shelfProduct true true false] ∧
      ¬ Partitioned [shelfProduct true true false] := by
  refine ⟨by decide +kernel, fun always => ?_, by decide +kernel, fun partitioned => ?_⟩
  · have allowed := always.pickup (shelfProduct true false false) (by decide +kernel)
    cases allowed
  · have once := partitioned.oneList (shelfProduct true true false) (by decide +kernel)
    exact absurd once (by decide +kernel)

end Proximity.Apps.Client
