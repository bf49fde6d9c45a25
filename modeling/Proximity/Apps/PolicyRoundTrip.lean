import Proximity.Apps.PolicyCodec

/-!
# The merchant's app: the policy of the form and back

Once through the encoding, and once through the form's own loader.
-/

namespace Proximity.Apps.Commercant.StorePolicy

open Proximity.Systems

/-! ## Through the encoding -/

theorem decoded?_bind_eq_some_iff {α : Type} {value : Json} {fromJson : Json → Option α}
    {read : α} : value.decoded?.bind fromJson = some read ↔
      value.encodable = true ∧ fromJson value = some read := by
  unfold Json.decoded?
  split
  case isTrue encodable => simp [encodable]
  case isFalse fails => simp [fails]

theorem divided_isFinite (number : Double) (divisor : ℚ) :
    (number.divided divisor).isFinite = number.isFinite := by
  cases number with
  | finite value => rfl
  | infinite negative => rfl
  | nan => rfl

/-- The sections that survive the encoding: their optional parts are there, and their
amounts are finite. -/
structure PolicyValidation.Survives (form : PolicyValidation) : Prop where
  reservation : form.reservationAccept = true →
    (form.reservationPartial = true ∧ form.reservationtax.all Double.isFinite = true) ∧
      form.reservationConcelationFree = false ∧
      form.reservationcancelationtax.all Double.isFinite = true
  returned : form.returnAccept = true → form.returnShippingFee = true ∧
    (form.returnTotalFee = true ∨ form.returnPerFee.all Double.isFinite = true)

theorem refundPercentage_finite_iff (form : PolicyValidation) :
    form.refundPercentage.all Double.isFinite = true ↔
      form.returnTotalFee = true ∨ form.returnPerFee.all Double.isFinite = true := by
  unfold PolicyValidation.refundPercentage
  cases form.returnTotalFee with
  | true => simp [Double.isFinite]
  | false =>
      cases form.returnPerFee with
      | none => simp
      | some fee => simp [divided_isFinite]

theorem reservation_survives_iff (form : PolicyValidation) :
    (form.getPolicy.reservationPolicy.all fun part => part.toJson.encodable) = true ∧
      (∀ part, form.getPolicy.reservationPolicy = some part →
        (part.payment.partialPayment.isSome = true ∧ part.payment.total = none) ∧
          ∃ cancelation, part.cancelation = some cancelation ∧
            cancelation.restrictions.isSome = true) ↔
    (form.reservationAccept = true →
      (form.reservationPartial = true ∧ form.reservationtax.all Double.isFinite = true) ∧
        form.reservationConcelationFree = false ∧
        form.reservationcancelationtax.all Double.isFinite = true) := by
  unfold PolicyValidation.getPolicy
  cases form.reservationAccept with
  | false => simp
  | true =>
      cases form.reservationPartial with
      | false => simp [ReservationPayment.new]
      | true =>
          cases form.reservationConcelationFree with
          | true => simp
          | false =>
              simp [ReservationPayment.new, ReservationPolicy.encodable_toJson,
                Amount.encodable_toJson]

theorem return_survives_iff (form : PolicyValidation) :
    (form.getPolicy.returnPolicy.all fun part => part.toJson.encodable) = true ∧
      (∀ part, form.getPolicy.returnPolicy = some part →
        part.refund.shipping.isSome = true) ↔
    (form.returnAccept = true → form.returnShippingFee = true ∧
      (form.returnTotalFee = true ∨ form.returnPerFee.all Double.isFinite = true)) := by
  rw [← refundPercentage_finite_iff]
  unfold PolicyValidation.getPolicy
  cases form.returnAccept with
  | false => simp
  | true =>
      cases form.returnShippingFee with
      | false => simp
      | true => simp [ReturnPolicy.encodable_toJson, Amount.encodable_toJson]

theorem sendMode_survives (form : PolicyValidation) :
    ∀ part, form.getPolicy.orderPolicy = some part → ∀ notification,
      part.notification = some notification → notification.sendMode.isSome = true := by
  rintro part given notification found
  cases given
  cases found
  rfl

/-- A policy of the form survives the encoding exactly when its sections do. -/
theorem getPolicy_roundTrip_iff (form : PolicyValidation) :
    form.getPolicy.toJson.decoded?.bind Policy.fromJson = some form.getPolicy ↔
      form.Survives := by
  have reservation := reservation_survives_iff form
  have returned := return_survives_iff form
  rw [decoded?_bind_eq_some_iff, Policy.encodable_toJson, Policy.fromJson_toJson_iff,
    Bool.and_eq_true]
  constructor
  · rintro ⟨⟨reserved, back⟩, returns, reserves, _⟩
    exact ⟨reservation.mp ⟨reserved, reserves⟩, returned.mp ⟨back, returns⟩⟩
  · rintro ⟨reserves, returns⟩
    have both := reservation.mpr reserves
    have parts := returned.mpr returns
    exact ⟨⟨both.1, parts.1⟩, parts.2, both.2, sendMode_survives form⟩

/-- A reservation that is free to make and to cancel, from the fields' first values on. -/
def freeReservation : PolicyValidation :=
  { PolicyValidation.initial with
    delivery := true
    reservationAccept := true
    reservationFree := true
    reservationDuration := some 3
    reservationConcelationFree := true
    notifRealTime := true }

/-- Its policy is encoded, and cannot be decoded. -/
theorem freeReservation_lost :
    freeReservation.Valid ∧
      (freeReservation.getPolicy.toJson.decoded?).isSome = true ∧
      freeReservation.getPolicy.toJson.decoded?.bind Policy.fromJson = none ∧
      ¬ freeReservation.getPolicy.toJson.decoded?.bind Policy.fromJson =
        some freeReservation.getPolicy := by
  have lost : freeReservation.getPolicy.toJson.decoded?.bind Policy.fromJson = none := by
    rfl
  refine ⟨⟨rfl, rfl, rfl, rfl⟩, by rfl, lost, ?_⟩
  rw [lost]
  exact nofun

/-! ## Through the loader -/

structure ReservationSettings where
  free : Bool
  partialPayment : Bool
  total : Bool
  tax : Option Double
  duration : Option Int
  concelationFree : Bool
  concelationPartial : Bool
  cancelationtax : Option Double
  deriving DecidableEq, Repr

structure ReturnSettings where
  shippingFee : Bool
  totalFee : Bool
  partialFee : Bool
  perFee : Option Double
  maxDays : Option Int
  deriving DecidableEq, Repr

/-- The accepted sections of a form, with their values. -/
structure Settings where
  pickup : Option (Option Int)
  delivery : Bool
  reservation : Option ReservationSettings
  returned : Option ReturnSettings
  realTime : Bool
  hourly : Bool
  batch : Bool
  duration : Option Int
  sms : Bool
  email : Bool
  inPlateforme : Bool
  popUp : Bool
  deriving DecidableEq, Repr

def PolicyValidation.settings (form : PolicyValidation) : Settings where
  pickup := if form.selfPickup = true then some form.selfPickUpMaxDays else none
  delivery := form.delivery
  reservation :=
    if form.reservationAccept = true then
      some ⟨form.reservationFree, form.reservationPartial, form.reservationTotal,
        form.reservationtax, form.reservationDuration, form.reservationConcelationFree,
        form.reservationConcelationPartial, form.reservationcancelationtax⟩
    else none
  returned :=
    if form.returnAccept = true then
      some ⟨form.returnShippingFee, form.returnTotalFee, form.returnPartialFee,
        form.returnPerFee, form.returnMaxDays⟩
    else none
  realTime := form.notifRealTime
  hourly := form.notifHourly
  batch := form.notifBatch
  duration := form.notifDuration
  sms := form.notifSms
  email := form.notifEmail
  inPlateforme := form.notifInPlateforme
  popUp := form.notifPopUp

/-- The form's policy is loaded into a valid form with the same settings and the same policy. -/
def PolicyValidation.Reloads (form : PolicyValidation) : Prop :=
  ∃ loaded, setPolicy form.getPolicy = some loaded ∧ loaded.Valid ∧
    loaded.settings = form.settings ∧ loaded.getPolicy = form.getPolicy

/-- There is a delivery and neither a reservation nor a return, the pickup has its days, and
both ways of a delayed notification are chosen if there is a delay, and none otherwise. -/
structure PolicyValidation.Reloadable (form : PolicyValidation) : Prop where
  delivery : form.delivery = true
  reservation : form.reservationAccept = false
  returned : form.returnAccept = false
  pickup : form.selfPickup = true → form.selfPickUpMaxDays.isSome = true
  hourly : form.notifHourly = form.notifDuration.isSome
  batch : form.notifBatch = form.notifDuration.isSome

section Loader

open PolicyValidation

variable {form base loaded : PolicyValidation}

theorem PolicyValidation.Valid.reservationDuration (valid : form.Valid)
    (accept : form.reservationAccept = true) : form.reservationDuration.isSome = true := by
  have asked := valid.reservation
  rw [reservationIsValid, accept, Bool.not_true, Bool.false_or, Bool.and_eq_true,
    Bool.and_eq_true] at asked
  exact asked.1.2

theorem PolicyValidation.Valid.returnMaxDays (valid : form.Valid)
    (accept : form.returnAccept = true) : form.returnMaxDays.isSome = true := by
  have asked := valid.returned
  rw [returnIsValid, accept, Bool.not_true, Bool.false_or, Bool.and_eq_true] at asked
  exact asked.1

theorem setOrders_getPolicy (form base : PolicyValidation) :
    setOrders form.getPolicy.orderPolicy base = some { base with
      notifRealTime := form.notifRealTime
      notifBatch := form.notifDuration.isSome || base.notifBatch
      notifHourly := form.notifDuration.isSome || base.notifHourly
      notifDuration := form.notifDuration <|> base.notifDuration
      notifEmail := form.notifEmail
      notifPopUp := form.notifPopUp
      notifSms := form.notifSms
      notifInPlateforme := form.notifInPlateforme } := by
  unfold setOrders getPolicy
  cases form.notifDuration with
  | none => simp
  | some duration => simp

/-- Loading a return leaves the reservation as it is. -/
theorem setReturn_reservationIsValid {policy : Option ReturnPolicy}
    (loads : setReturn policy base = some loaded) :
    loaded.reservationIsValid = base.reservationIsValid := by
  cases policy with
  | none =>
      cases loads
      rfl
  | some policy =>
      simp only [setReturn] at loads
      split at loads
      case isFalse =>
        cases loads
        rfl
      case isTrue =>
        obtain ⟨shipping, _, made⟩ := Option.bind_eq_some_iff.mp loads
        cases made
        split
        case isTrue =>
          split
          case isTrue => rfl
          case isFalse => rfl
        case isFalse =>
          split
          case isTrue => rfl
          case isFalse => rfl

theorem setPayment_frame {payment : ReservationPayment}
    (loads : setPayment payment base = some loaded) :
    loaded.reservationAccept = base.reservationAccept ∧
      loaded.reservationDuration = base.reservationDuration := by
  obtain ⟨given, _, made⟩ := Option.bind_eq_some_iff.mp loads
  cases made
  cases given.fixe <;> cases payment.total <;> cases payment.free <;> exact ⟨rfl, rfl⟩

theorem setCancelation_frame {cancelation : Option ReservationCancelation}
    (loads : setCancelation cancelation base = some loaded) :
    loaded.reservationAccept = base.reservationAccept ∧
      loaded.reservationDuration = base.reservationDuration := by
  obtain ⟨given, _, later⟩ := Option.bind_eq_some_iff.mp loads
  obtain ⟨restrictions, _, made⟩ := Option.bind_eq_some_iff.mp later
  cases made
  cases restrictions.fixe with
  | none => exact ⟨rfl, rfl⟩
  | some fix => exact ⟨rfl, rfl⟩

/-- The duration of a reservation is lost, and with it the reservation's validity. -/
theorem setReservation_invalid (accept : form.reservationAccept = true)
    (lasting : form.reservationDuration.isSome = true) (unset : base.reservationDuration = none)
    (loads : setReservation form.getPolicy.reservationPolicy base = some loaded) :
    loaded.reservationIsValid = false := by
  unfold getPolicy setReservation at loads
  rw [accept] at loads
  simp only [if_true, lasting] at loads
  obtain ⟨paid, payment, cancelation⟩ := Option.bind_eq_some_iff.mp loads
  obtain ⟨accepted, duration⟩ := setPayment_frame payment
  obtain ⟨still, kept⟩ := setCancelation_frame cancelation
  unfold reservationIsValid
  rw [still, accepted, kept, duration, unset]
  simp

/-- The fees of a return are lost, and with them the return's validity. -/
theorem setReturn_invalid (accept : form.returnAccept = true)
    (lasting : form.returnMaxDays.isSome = true) (noShipping : base.returnShippingFee = false)
    (noTotal : base.returnTotalFee = false) (noPartial : base.returnPartialFee = false)
    (loads : setReturn form.getPolicy.returnPolicy base = some loaded) :
    loaded.returnIsValid = false := by
  unfold getPolicy setReturn at loads
  rw [accept] at loads
  simp only [if_true, lasting] at loads
  obtain ⟨shipping, given, made⟩ := Option.bind_eq_some_iff.mp loads
  have bare : shipping.fixe = none := by
    split at given
    case isTrue =>
      cases given
      rfl
    case isFalse => cases given
  cases made
  simp [bare, returnIsValid, noShipping, noTotal, noPartial]

/-- The form as it is once the pickup and the delivery are loaded. -/
theorem setDelivery_setPickup (form : PolicyValidation) :
    setDelivery ⟨some true⟩ (setPickup form.getPolicy initial) = { initial with
      delivery := true
      selfPickup := form.selfPickup && form.selfPickUpMaxDays.isSome
      selfPickUpMaxDays := if form.selfPickup = true then form.selfPickUpMaxDays else none } := by
  unfold setDelivery setPickup getPolicy
  cases form.selfPickup with
  | false => rfl
  | true =>
      cases form.selfPickUpMaxDays with
      | none => rfl
      | some days => rfl

/-- Without a delivery the notifications are not loaded, and there are none. -/
theorem setPolicy_of_not_delivery (undelivered : form.delivery = false)
    (loads : setPolicy form.getPolicy = some loaded) : loaded.ordersIsValid = false := by
  unfold setPolicy getPolicy at loads
  rw [undelivered] at loads
  cases loads
  unfold setPickup
  split
  case h_1 => rfl
  case h_2 => rfl

theorem setPolicy_of_delivery (delivered : form.delivery = true) :
    setPolicy form.getPolicy = (do
      let reserved ← setReservation form.getPolicy.reservationPolicy
        (setDelivery ⟨some true⟩ (setPickup form.getPolicy initial))
      let returned ← setReturn form.getPolicy.returnPolicy reserved
      setOrders form.getPolicy.orderPolicy returned) := by
  have policy : form.getPolicy.deliveryPolicy = some ⟨some true⟩ := by
    rw [getPolicy, delivered]
    rfl
  rw [setPolicy, policy]

/-- A policy with neither a reservation nor a return is loaded whole. -/
theorem setPolicy_eq_some (delivered : form.delivery = true)
    (noReservation : form.reservationAccept = false) (noReturn : form.returnAccept = false) :
    setPolicy form.getPolicy = some { initial with
      delivery := true
      selfPickup := form.selfPickup && form.selfPickUpMaxDays.isSome
      selfPickUpMaxDays := if form.selfPickup = true then form.selfPickUpMaxDays else none
      notifRealTime := form.notifRealTime
      notifBatch := form.notifDuration.isSome
      notifHourly := form.notifDuration.isSome
      notifDuration := form.notifDuration
      notifEmail := form.notifEmail
      notifPopUp := form.notifPopUp
      notifSms := form.notifSms
      notifInPlateforme := form.notifInPlateforme } := by
  have reservation : form.getPolicy.reservationPolicy = none := by
    rw [getPolicy, noReservation]
    rfl
  have returned : form.getPolicy.returnPolicy = none := by
    rw [getPolicy, noReturn]
    rfl
  rw [setPolicy_of_delivery delivered, reservation, returned, setDelivery_setPickup]
  simp only [setReservation, setReturn, Option.bind_eq_bind, Option.bind_some,
    setOrders_getPolicy]
  simp [initial]

/-- A valid form comes back from its policy exactly when it is reloadable. -/
theorem reloads_iff (form : PolicyValidation) (valid : form.Valid) :
    form.Reloads ↔ form.Reloadable := by
  constructor
  · rintro ⟨loaded, loads, loadedValid, settings, _⟩
    have delivered : form.delivery = true := by
      cases delivery : form.delivery with
      | true => rfl
      | false =>
          have lost := setPolicy_of_not_delivery delivery loads
          rw [loadedValid.orders] at lost
          cases lost
    have parts := loads
    rw [setPolicy_of_delivery delivered] at parts
    obtain ⟨reserved, first, later⟩ := Option.bind_eq_some_iff.mp parts
    obtain ⟨returned, second, third⟩ := Option.bind_eq_some_iff.mp later
    rw [setOrders_getPolicy] at third
    cases third
    have noReservation : form.reservationAccept = false := by
      cases accept : form.reservationAccept with
      | false => rfl
      | true =>
          have lost := setReservation_invalid accept (valid.reservationDuration accept)
            (by rw [setDelivery_setPickup]; rfl) first
          have kept : returned.reservationIsValid = true := loadedValid.reservation
          rw [setReturn_reservationIsValid second, lost] at kept
          cases kept
    have reservation : form.getPolicy.reservationPolicy = none := by
      rw [getPolicy, noReservation]
      rfl
    rw [reservation, setDelivery_setPickup] at first
    cases first
    have noReturn : form.returnAccept = false := by
      cases accept : form.returnAccept with
      | false => rfl
      | true =>
          have lost := setReturn_invalid accept (valid.returnMaxDays accept) rfl rfl rfl second
          have kept : returned.returnIsValid = true := loadedValid.returned
          rw [lost] at kept
          cases kept
    rw [setPolicy_eq_some delivered noReservation noReturn] at loads
    rw [← Option.some.inj loads] at settings
    refine ⟨delivered, noReservation, noReturn, fun picked => ?_,
      (congrArg Settings.hourly settings).symm, (congrArg Settings.batch settings).symm⟩
    have pickup := congrArg Settings.pickup settings
    cases days : form.selfPickUpMaxDays with
    | none => simp [PolicyValidation.settings, picked, days] at pickup
    | some days => rfl
  · rintro ⟨delivered, noReservation, noReturn, pickup, hourly, batch⟩
    refine ⟨_, setPolicy_eq_some delivered noReservation noReturn, ⟨?_, ?_, ?_, ?_⟩, ?_, ?_⟩
    · simp [PolicyValidation.shippingIsValid]
    · simp [PolicyValidation.reservationIsValid, PolicyValidation.initial]
    · simp [PolicyValidation.returnIsValid, PolicyValidation.initial]
    · exact valid.orders
    · cases picked : form.selfPickup with
      | false =>
          simp [PolicyValidation.settings, PolicyValidation.initial, picked, delivered,
            noReservation, noReturn, hourly, batch]
      | true =>
          simp [PolicyValidation.settings, PolicyValidation.initial, picked, pickup picked,
            delivered, noReservation, noReturn, hourly, batch]
    · cases picked : form.selfPickup with
      | false =>
          simp [getPolicy, PolicyValidation.initial, picked, delivered, noReservation, noReturn]
      | true =>
          simp [getPolicy, PolicyValidation.initial, picked, pickup picked, delivered,
            noReservation, noReturn]

end Loader

/-- A store with a pickup and a delivery, and one notification for ten orders. -/
def plainForm : PolicyValidation :=
  { PolicyValidation.initial with
    selfPickup := true
    selfPickUpMaxDays := some 7
    delivery := true
    notifHourly := true
    notifBatch := true
    notifDuration := some 10 }

theorem plainForm_reloads_iff : plainForm.Reloads ↔ plainForm.Reloadable :=
  reloads_iff plainForm ⟨rfl, rfl, rfl, rfl⟩

/-- A free reservation whose cancellation costs something and that has a partial payment:
its duration is gone after the reload. -/
def partialReservation : PolicyValidation :=
  { PolicyValidation.initial with
    delivery := true
    reservationAccept := true
    reservationPartial := true
    reservationtax := some (.finite 20)
    reservationDuration := some 3
    reservationConcelationPartial := true
    reservationcancelationtax := some (.finite 5)
    notifRealTime := true }

theorem partialReservation_not_reloads :
    partialReservation.Valid ∧ freeReservation.Valid ∧
      (PolicyValidation.setPolicy partialReservation.getPolicy).map
        PolicyValidation.reservationIsValid = some false ∧
      PolicyValidation.setPolicy freeReservation.getPolicy = none ∧
      ¬ partialReservation.Reloads ∧ ¬ freeReservation.Reloads := by
  have lost : (PolicyValidation.setPolicy partialReservation.getPolicy).map
      PolicyValidation.reservationIsValid = some false := by decide +kernel
  have thrown : PolicyValidation.setPolicy freeReservation.getPolicy = none := by decide +kernel
  refine ⟨⟨rfl, rfl, rfl, rfl⟩, ⟨rfl, rfl, rfl, rfl⟩, lost, thrown, ?_, ?_⟩
  · rintro ⟨loaded, loads, valid, _⟩
    rw [loads, Option.map_some, valid.reservation] at lost
    cases lost
  · rintro ⟨loaded, loads, _⟩
    rw [thrown] at loads
    cases loads

end Proximity.Apps.Commercant.StorePolicy
