import Proximity.Apps.PolicyForm

/-!
# The merchant's app: a policy encoded and decoded

Each class comes back from its encoding unless it lacks a part that its decoder reads
without a test.
-/

namespace Proximity.Apps.Commercant.StorePolicy

open Proximity.Systems

/-! ## Parts -/

theorem toPart?_ofPart_iff {α : Type} (toJson : α → Json) (fromJson : Json → Option α)
    (objects : ∀ part, ∃ members, toJson part = .object members) (part? : Option α) :
    (Json.ofPart toJson part?).toPart? fromJson = some part? ↔
      ∀ part, part? = some part → fromJson (toJson part) = some part := by
  cases part? with
  | none =>
      refine ⟨fun _ => nofun, fun _ => rfl⟩
  | some part =>
      obtain ⟨members, written⟩ := objects part
      have read : (Json.ofPart toJson (some part)).toPart? fromJson =
          (fromJson (toJson part)).map some := by
        rw [Json.ofPart, written]
        rfl
      rw [read, Option.map_eq_some_iff]
      constructor
      · rintro ⟨other, decoded, same⟩ _ given
        cases given
        cases same
        exact decoded
      · intro back
        exact ⟨part, back part rfl, rfl⟩

theorem encodable_ofBool (value : Option Bool) : (Json.ofBool value).encodable = true := by
  cases value with
  | none => rfl
  | some value => rfl

theorem encodable_ofInt (value : Option Int) : (Json.ofInt value).encodable = true := by
  cases value with
  | none => rfl
  | some value => rfl

theorem encodable_ofString (value : Option String) : (Json.ofString value).encodable = true := by
  cases value with
  | none => rfl
  | some value => rfl

theorem encodable_ofDouble (value : Option Double) :
    (Json.ofDouble value).encodable = value.all Double.isFinite := by
  cases value with
  | none => rfl
  | some value => rfl

theorem encodable_ofPart {α : Type} (toJson : α → Json) (part : Option α) :
    (Json.ofPart toJson part).encodable = part.all fun part => (toJson part).encodable := by
  cases part with
  | none => rfl
  | some part => rfl

theorem encodable_optional {α : Type} (key : String) (toJson : α → Json) (part : Option α) :
    Json.encodableMembers (Json.optional key toJson part) =
      part.all fun part => (toJson part).encodable := by
  cases part with
  | none => rfl
  | some part => simp [Json.optional, Json.encodableMembers]

/-! ## The decoders after the encoders -/

@[simp] theorem PickupPolicy.fromJson_toJson (policy : PickupPolicy) :
    PickupPolicy.fromJson policy.toJson = some policy := by
  simp [fromJson, toJson, Json.member?]

@[simp] theorem DeliveryPolicy.fromJson_toJson (policy : DeliveryPolicy) :
    DeliveryPolicy.fromJson policy.toJson = some policy := by
  simp [fromJson, toJson, Json.member?]

@[simp] theorem Amount.fromJson_toJson (amount : Amount) :
    Amount.fromJson amount.toJson = some amount := by
  simp [fromJson, toJson, Json.member?, List.lookup_cons]

@[simp] theorem SendMode.fromJson_toJson (mode : SendMode) :
    SendMode.fromJson mode.toJson = some mode := by
  simp [fromJson, toJson, Json.member?, List.lookup_cons]

/-- A payment comes back if it has a partial payment, and without its total. -/
theorem ReservationPayment.fromJson_toJson (payment : ReservationPayment) :
    ReservationPayment.fromJson payment.toJson =
      payment.partialPayment.map fun given => ⟨payment.free, some given, none⟩ := by
  obtain ⟨free, partialPayment, total⟩ := payment
  cases partialPayment with
  | none =>
      simp [fromJson, toJson, Json.member?, Json.optional, List.lookup_cons, Amount.fromJson]
  | some given =>
      simp [fromJson, toJson, Json.member?, Json.optional, List.lookup_cons, ReservationPayment.new]

theorem ReservationCancelation.fromJson_toJson (cancelation : ReservationCancelation) :
    ReservationCancelation.fromJson cancelation.toJson =
      cancelation.restrictions.map fun restrictions => ⟨some restrictions⟩ := by
  obtain ⟨restrictions⟩ := cancelation
  cases restrictions with
  | none => simp [fromJson, toJson, Json.member?, Json.optional, Amount.fromJson]
  | some restrictions => simp [fromJson, toJson, Json.member?, Json.optional]

theorem Refund.fromJson_toJson (refund : Refund) :
    Refund.fromJson refund.toJson =
      refund.shipping.map fun shipping => ⟨refund.order, some shipping⟩ := by
  obtain ⟨order, shipping⟩ := refund
  cases shipping with
  | none => simp [fromJson, toJson, Json.member?, Json.optional, List.lookup_cons, Amount.fromJson]
  | some shipping => simp [fromJson, toJson, Json.member?, Json.optional, List.lookup_cons]

theorem ReservationPolicy.fromJson_toJson_iff (policy : ReservationPolicy) :
    ReservationPolicy.fromJson policy.toJson = some policy ↔
      (policy.payment.partialPayment.isSome = true ∧ policy.payment.total = none) ∧
        ∃ cancelation, policy.cancelation = some cancelation ∧
          cancelation.restrictions.isSome = true := by
  obtain ⟨duration, ⟨free, partialPayment, total⟩, cancelation⟩ := policy
  cases cancelation with
  | none =>
      simp [fromJson, toJson, Json.member?, Json.optional, List.lookup_cons,
        ReservationCancelation.fromJson]
  | some cancelation =>
      obtain ⟨restrictions⟩ := cancelation
      cases partialPayment with
      | none =>
          simp [fromJson, toJson, Json.member?, Json.optional, List.lookup_cons,
            ReservationPayment.fromJson_toJson]
      | some given =>
          cases restrictions with
          | none =>
              simp [fromJson, toJson, Json.member?, Json.optional, List.lookup_cons,
                ReservationCancelation.fromJson_toJson]
          | some restrictions =>
              simp [fromJson, toJson, Json.member?, Json.optional, List.lookup_cons,
                ReservationPayment.fromJson_toJson, ReservationCancelation.fromJson_toJson]
              exact eq_comm

theorem ReturnPolicy.fromJson_toJson_iff (policy : ReturnPolicy) :
    ReturnPolicy.fromJson policy.toJson = some policy ↔
      policy.refund.shipping.isSome = true := by
  obtain ⟨duration, productStatus, returnMethod, ⟨order, shipping⟩⟩ := policy
  cases shipping with
  | none => simp [fromJson, toJson, Json.member?, List.lookup_cons, Refund.fromJson_toJson]
  | some shipping => simp [fromJson, toJson, Json.member?, List.lookup_cons, Refund.fromJson_toJson]

theorem OrderNotification.fromJson_toJson_iff (notification : OrderNotification) :
    OrderNotification.fromJson notification.toJson = some notification ↔
      notification.sendMode.isSome = true := by
  obtain ⟨realtime, time, perOrdersNbr, sendMode⟩ := notification
  cases sendMode with
  | none =>
      simp [fromJson, toJson, Json.member?, Json.optional, List.lookup_cons, SendMode.fromJson]
  | some sendMode => simp [fromJson, toJson, Json.member?, Json.optional, List.lookup_cons]

theorem OrderPolicy.fromJson_toJson (policy : OrderPolicy) :
    OrderPolicy.fromJson policy.toJson =
      ((Json.ofPart OrderNotification.toJson policy.notification).toPart?
        OrderNotification.fromJson).map OrderPolicy.mk := by
  obtain ⟨notification⟩ := policy
  cases notification with
  | none => rfl
  | some notification =>
      simp only [fromJson, toJson, Json.member?, Json.optional, Json.ofPart, Option.map_eq_bind]
      rfl

theorem OrderPolicy.fromJson_toJson_iff (policy : OrderPolicy) :
    OrderPolicy.fromJson policy.toJson = some policy ↔
      ∀ notification, policy.notification = some notification →
        notification.sendMode.isSome = true := by
  have parts := toPart?_ofPart_iff OrderNotification.toJson OrderNotification.fromJson
    (fun part => ⟨_, rfl⟩) policy.notification
  simp only [OrderNotification.fromJson_toJson_iff] at parts
  rw [← parts, OrderPolicy.fromJson_toJson, Option.map_eq_some_iff]
  constructor
  · rintro ⟨notification, read, rfl⟩
    exact read
  · intro read
    exact ⟨_, read, rfl⟩

/-- The decoder of a policy reads its parts one by one. -/
theorem Policy.fromJson_toJson_iff_parts (policy : Policy) :
    Policy.fromJson policy.toJson = some policy ↔
      (Json.ofPart PickupPolicy.toJson policy.pickupPolicy).toPart? PickupPolicy.fromJson =
        some policy.pickupPolicy ∧
      (Json.ofPart DeliveryPolicy.toJson policy.deliveryPolicy).toPart?
        DeliveryPolicy.fromJson = some policy.deliveryPolicy ∧
      (Json.ofPart ReturnPolicy.toJson policy.returnPolicy).toPart? ReturnPolicy.fromJson =
        some policy.returnPolicy ∧
      (Json.ofPart ReservationPolicy.toJson policy.reservationPolicy).toPart?
        ReservationPolicy.fromJson = some policy.reservationPolicy ∧
      (Json.ofPart OrderPolicy.toJson policy.orderPolicy).toPart? OrderPolicy.fromJson =
        some policy.orderPolicy := by
  obtain ⟨pickup, delivery, reservation, returned, order⟩ := policy
  simp [fromJson, toJson, Json.member?, List.lookup_cons, Option.bind_eq_some_iff]

/-- A policy comes back exactly when nothing is missing that is read without a test. -/
theorem Policy.fromJson_toJson_iff (policy : Policy) :
    Policy.fromJson policy.toJson = some policy ↔
      (∀ part, policy.returnPolicy = some part → part.refund.shipping.isSome = true) ∧
      (∀ part, policy.reservationPolicy = some part →
        (part.payment.partialPayment.isSome = true ∧ part.payment.total = none) ∧
          ∃ cancelation, part.cancelation = some cancelation ∧
            cancelation.restrictions.isSome = true) ∧
      ∀ part, policy.orderPolicy = some part → ∀ notification,
        part.notification = some notification → notification.sendMode.isSome = true := by
  rw [Policy.fromJson_toJson_iff_parts,
    toPart?_ofPart_iff PickupPolicy.toJson PickupPolicy.fromJson fun part => ⟨_, rfl⟩,
    toPart?_ofPart_iff DeliveryPolicy.toJson DeliveryPolicy.fromJson fun part => ⟨_, rfl⟩,
    toPart?_ofPart_iff ReturnPolicy.toJson ReturnPolicy.fromJson fun part => ⟨_, rfl⟩,
    toPart?_ofPart_iff ReservationPolicy.toJson ReservationPolicy.fromJson fun part => ⟨_, rfl⟩,
    toPart?_ofPart_iff OrderPolicy.toJson OrderPolicy.fromJson fun part => ⟨_, rfl⟩]
  simp only [PickupPolicy.fromJson_toJson, DeliveryPolicy.fromJson_toJson, implies_true,
    true_and, ReturnPolicy.fromJson_toJson_iff, ReservationPolicy.fromJson_toJson_iff,
    OrderPolicy.fromJson_toJson_iff]

/-! ## What can be encoded -/

theorem Amount.encodable_toJson (amount : Amount) :
    amount.toJson.encodable =
      (amount.fixe.all Double.isFinite && amount.percentage.all Double.isFinite) := by
  simp [toJson, Json.encodable, Json.encodableMembers, encodable_ofDouble]

theorem ReservationPolicy.encodable_toJson (policy : ReservationPolicy) :
    policy.toJson.encodable =
      ((policy.payment.partialPayment.all fun given => given.toJson.encodable) &&
        policy.cancelation.all fun cancelation =>
          cancelation.restrictions.all fun restrictions => restrictions.toJson.encodable) := by
  simp [toJson, ReservationPayment.toJson, ReservationCancelation.toJson, Json.encodable,
    Json.encodableMembers, Json.encodableMembers_append, encodable_ofInt, encodable_ofBool,
    encodable_optional]

theorem ReturnPolicy.encodable_toJson (policy : ReturnPolicy) :
    policy.toJson.encodable =
      (policy.refund.order.toJson.encodable &&
        policy.refund.shipping.all fun shipping => shipping.toJson.encodable) := by
  simp [toJson, Refund.toJson, Json.encodable, Json.encodableMembers, encodable_ofInt,
    encodable_ofString, encodable_optional]

theorem OrderPolicy.encodable_toJson (policy : OrderPolicy) :
    policy.toJson.encodable = true := by
  simp [toJson, OrderNotification.toJson, SendMode.toJson, Json.encodable, Json.encodableMembers,
    encodable_ofInt, encodable_ofBool, encodable_optional]

/-- Amounts are all that can stand in the way of an encoding. -/
theorem Policy.encodable_toJson (policy : Policy) :
    policy.toJson.encodable =
      ((policy.reservationPolicy.all fun part => part.toJson.encodable) &&
        policy.returnPolicy.all fun part => part.toJson.encodable) := by
  simp [toJson, Json.encodable, Json.encodableMembers, encodable_ofPart, PickupPolicy.toJson,
    DeliveryPolicy.toJson, encodable_ofInt, encodable_ofBool, OrderPolicy.encodable_toJson]

end Proximity.Apps.Commercant.StorePolicy
