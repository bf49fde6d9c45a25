import Proximity.Systems.Json

/-!
# The merchant's app: the policy of a store and the form it is made with

The classes of a policy have constructors, encoders and decoders of their own.  An `Option`
that is `none` where a value is built means that the code throws.
-/

namespace Proximity.Apps.Commercant.StorePolicy

open Proximity.Systems

/-! ## The classes of a policy -/

structure PickupPolicy where
  timeLimit : Option Int
  deriving DecidableEq, Repr

structure DeliveryPolicy where
  delivery : Option Bool
  deriving DecidableEq, Repr

/-- The class of `Partial`, `Restrictions`, `OrderRefund` and `ShippingRefund`; the field
`fix` of `Restrictions` is `fixe` here, as its key is. -/
structure Amount where
  fixe : Option Double
  percentage : Option Double
  deriving DecidableEq, Repr

abbrev Partial := Amount

abbrev Restrictions := Amount

abbrev OrderRefund := Amount

abbrev ShippingRefund := Amount

/-- `partialPayment` is the field `partial`. -/
structure ReservationPayment where
  free : Option Bool
  partialPayment : Option Partial
  total : Option Bool
  deriving DecidableEq, Repr

structure ReservationCancelation where
  restrictions : Option Restrictions
  deriving DecidableEq, Repr

structure ReservationPolicy where
  duration : Option Int
  payment : ReservationPayment
  cancelation : Option ReservationCancelation
  deriving DecidableEq, Repr

structure Refund where
  order : OrderRefund
  shipping : Option ShippingRefund
  deriving DecidableEq, Repr

structure ReturnPolicy where
  duration : Option Int
  productStatus : Option String
  returnMethod : Option String
  refund : Refund
  deriving DecidableEq, Repr

structure SendMode where
  mail : Option Bool
  sms : Option Bool
  popup : Option Bool
  vibration : Option Bool
  ringing : Option Bool
  deriving DecidableEq, Repr

structure OrderNotification where
  realtime : Option Bool
  time : Option Int
  perOrdersNbr : Option Int
  sendMode : Option SendMode
  deriving DecidableEq, Repr

structure OrderPolicy where
  notification : Option OrderNotification
  deriving DecidableEq, Repr

structure Policy where
  pickupPolicy : Option PickupPolicy
  deliveryPolicy : Option DeliveryPolicy
  reservationPolicy : Option ReservationPolicy
  returnPolicy : Option ReturnPolicy
  orderPolicy : Option OrderPolicy
  deriving DecidableEq, Repr

/-- The constructor's parameter `total` is none of the class: it is dropped. -/
def ReservationPayment.new (free : Option Bool) (partialPayment : Option Partial)
    (_total : Option Bool) : ReservationPayment :=
  ⟨free, partialPayment, none⟩

/-! ## Encoders -/

def PickupPolicy.toJson (policy : PickupPolicy) : Json :=
  .object [("timeLimit", .ofInt policy.timeLimit)]

def DeliveryPolicy.toJson (policy : DeliveryPolicy) : Json :=
  .object [("delivery", .ofBool policy.delivery)]

def Amount.toJson (amount : Amount) : Json :=
  .object [("fixe", .ofDouble amount.fixe), ("percentage", .ofDouble amount.percentage)]

def ReservationPayment.toJson (payment : ReservationPayment) : Json :=
  .object ([("free", .ofBool payment.free)] ++
    Json.optional "partial" Amount.toJson payment.partialPayment ++
    [("total", .ofBool payment.total)])

def ReservationCancelation.toJson (cancelation : ReservationCancelation) : Json :=
  .object (Json.optional "restrictions" Amount.toJson cancelation.restrictions)

def ReservationPolicy.toJson (policy : ReservationPolicy) : Json :=
  .object ([("duration", .ofInt policy.duration), ("payment", policy.payment.toJson)] ++
    Json.optional "cancelation" ReservationCancelation.toJson policy.cancelation)

def Refund.toJson (refund : Refund) : Json :=
  .object ([("order", refund.order.toJson)] ++
    Json.optional "shipping" Amount.toJson refund.shipping)

def ReturnPolicy.toJson (policy : ReturnPolicy) : Json :=
  .object [("duration", .ofInt policy.duration),
    ("productStatus", .ofString policy.productStatus),
    ("returnMethod", .ofString policy.returnMethod), ("refund", policy.refund.toJson)]

def SendMode.toJson (mode : SendMode) : Json :=
  .object [("mail", .ofBool mode.mail), ("sms", .ofBool mode.sms), ("popup", .ofBool mode.popup),
    ("vibration", .ofBool mode.vibration), ("ringing", .ofBool mode.ringing)]

def OrderNotification.toJson (notification : OrderNotification) : Json :=
  .object ([("realtime", .ofBool notification.realtime), ("time", .ofInt notification.time),
    ("perOrdersNbr", .ofInt notification.perOrdersNbr)] ++
    Json.optional "sendMode" SendMode.toJson notification.sendMode)

def OrderPolicy.toJson (policy : OrderPolicy) : Json :=
  .object (Json.optional "notification" OrderNotification.toJson policy.notification)

/-- What `toJson` encodes. -/
def Policy.toJson (policy : Policy) : Json :=
  .object [("pickup", .ofPart PickupPolicy.toJson policy.pickupPolicy),
    ("delivery", .ofPart DeliveryPolicy.toJson policy.deliveryPolicy),
    ("reservation", .ofPart ReservationPolicy.toJson policy.reservationPolicy),
    ("return", .ofPart ReturnPolicy.toJson policy.returnPolicy),
    ("order", .ofPart OrderPolicy.toJson policy.orderPolicy)]

/-! ## Decoders -/

def PickupPolicy.fromJson (json : Json) : Option PickupPolicy := do
  return ⟨← (← json.member? "timeLimit").toInt?⟩

def DeliveryPolicy.fromJson (json : Json) : Option DeliveryPolicy := do
  return ⟨← (← json.member? "delivery").asBool?⟩

def Amount.fromJson (json : Json) : Option Amount := do
  let fixe ← (← json.member? "fixe").toDouble?
  let percentage ← (← json.member? "percentage").toDouble?
  return ⟨fixe, percentage⟩

/-- `partial` is read without a test for `null`. -/
def ReservationPayment.fromJson (json : Json) : Option ReservationPayment := do
  let free ← (← json.member? "free").asBool?
  let partialPayment ← Amount.fromJson (← json.member? "partial")
  let total ← (← json.member? "total").asBool?
  return .new free (some partialPayment) total

def ReservationCancelation.fromJson (json : Json) : Option ReservationCancelation := do
  return ⟨some (← Amount.fromJson (← json.member? "restrictions"))⟩

/-- `cancelation` is read without a test for `null`. -/
def ReservationPolicy.fromJson (json : Json) : Option ReservationPolicy := do
  let duration ← (← json.member? "duration").asInt?
  let payment ← ReservationPayment.fromJson (← json.member? "payment")
  let cancelation ← ReservationCancelation.fromJson (← json.member? "cancelation")
  return ⟨duration, payment, some cancelation⟩

/-- `shipping` is read without a test for `null`. -/
def Refund.fromJson (json : Json) : Option Refund := do
  let order ← Amount.fromJson (← json.member? "order")
  let shipping ← Amount.fromJson (← json.member? "shipping")
  return ⟨order, some shipping⟩

def ReturnPolicy.fromJson (json : Json) : Option ReturnPolicy := do
  let duration ← (← json.member? "duration").asInt?
  let productStatus ← (← json.member? "productStatus").asString?
  let returnMethod ← (← json.member? "returnMethod").asString?
  let refund ← Refund.fromJson (← json.member? "refund")
  return ⟨duration, productStatus, returnMethod, refund⟩

def SendMode.fromJson (json : Json) : Option SendMode := do
  let mail ← (← json.member? "mail").asBool?
  let sms ← (← json.member? "sms").asBool?
  let popup ← (← json.member? "popup").asBool?
  let vibration ← (← json.member? "vibration").asBool?
  let ringing ← (← json.member? "ringing").asBool?
  return ⟨mail, sms, popup, vibration, ringing⟩

/-- `sendMode` is read without a test for `null`. -/
def OrderNotification.fromJson (json : Json) : Option OrderNotification := do
  let realtime ← (← json.member? "realtime").asBool?
  let time ← (← json.member? "time").asInt?
  let perOrdersNbr ← (← json.member? "perOrdersNbr").asInt?
  let sendMode ← SendMode.fromJson (← json.member? "sendMode")
  return ⟨realtime, time, perOrdersNbr, some sendMode⟩

def OrderPolicy.fromJson (json : Json) : Option OrderPolicy := do
  return ⟨← (← json.member? "notification").toPart? OrderNotification.fromJson⟩

def Policy.fromJson (json : Json) : Option Policy := do
  let pickupPolicy ← (← json.member? "pickup").toPart? PickupPolicy.fromJson
  let deliveryPolicy ← (← json.member? "delivery").toPart? DeliveryPolicy.fromJson
  let returnPolicy ← (← json.member? "return").toPart? ReturnPolicy.fromJson
  let reservationPolicy ← (← json.member? "reservation").toPart? ReservationPolicy.fromJson
  let orderPolicy ← (← json.member? "order").toPart? OrderPolicy.fromJson
  return ⟨pickupPolicy, deliveryPolicy, reservationPolicy, returnPolicy, orderPolicy⟩

/-! ## The form -/

/-- The fields of the form that a policy is made of or that say which ones are asked for. -/
structure PolicyValidation where
  selfPickup : Bool
  selfPickUpMaxDays : Option Int
  delivery : Bool
  reservationAccept : Bool
  reservationFree : Bool
  reservationPartial : Bool
  reservationTotal : Bool
  reservationtax : Option Double
  reservationDuration : Option Int
  reservationConcelationFree : Bool
  reservationConcelationPartial : Bool
  reservationcancelationtax : Option Double
  returnAccept : Bool
  returnMaxDays : Option Int
  returnCondition : Option String
  returnMethode : Option String
  returnShippingFee : Bool
  returnTotalFee : Bool
  returnPartialFee : Bool
  returnPerFee : Option Double
  notifRealTime : Bool
  notifHourly : Bool
  notifBatch : Bool
  notifDuration : Option Int
  notifSms : Bool
  notifEmail : Bool
  notifInPlateforme : Bool
  notifPopUp : Bool
  deriving DecidableEq, Repr

namespace PolicyValidation

/-- The values the fields start with. -/
def initial : PolicyValidation where
  selfPickup := false
  selfPickUpMaxDays := none
  delivery := false
  reservationAccept := false
  reservationFree := false
  reservationPartial := false
  reservationTotal := false
  reservationtax := none
  reservationDuration := none
  reservationConcelationFree := false
  reservationConcelationPartial := false
  reservationcancelationtax := none
  returnAccept := false
  returnMaxDays := none
  returnCondition := none
  returnMethode := none
  returnShippingFee := false
  returnTotalFee := false
  returnPartialFee := false
  returnPerFee := none
  notifRealTime := false
  notifHourly := false
  notifBatch := false
  notifDuration := none
  notifSms := false
  notifEmail := false
  notifInPlateforme := true
  notifPopUp := false

def shippingIsValid (form : PolicyValidation) : Bool :=
  (form.selfPickup && form.selfPickUpMaxDays.isSome) || form.delivery

def reservationIsValid (form : PolicyValidation) : Bool :=
  !form.reservationAccept ||
    ((form.reservationFree || (form.reservationPartial && form.reservationtax.isSome) ||
        form.reservationTotal) &&
      form.reservationDuration.isSome &&
      (form.reservationConcelationFree ||
        (form.reservationConcelationPartial && form.reservationcancelationtax.isSome)))

def returnIsValid (form : PolicyValidation) : Bool :=
  !form.returnAccept ||
    (form.returnMaxDays.isSome &&
      (form.returnShippingFee || form.returnTotalFee ||
        (form.returnPartialFee && form.returnPerFee.isSome)))

def ordersIsValid (form : PolicyValidation) : Bool :=
  form.notifRealTime || form.notifDuration.isSome

/-- The four tests of the form. -/
structure Valid (form : PolicyValidation) : Prop where
  shipping : form.shippingIsValid = true
  reservation : form.reservationIsValid = true
  returned : form.returnIsValid = true
  orders : form.ordersIsValid = true

/-! ## From the form to the policy -/

/-- The part of the price that a return costs. -/
def refundPercentage (form : PolicyValidation) : Option Double :=
  if form.returnTotalFee = true then some (.finite 1)
  else form.returnPerFee.map fun fee => fee.divided 100

def getPolicy (form : PolicyValidation) : Policy where
  pickupPolicy := if form.selfPickup = true then some ⟨form.selfPickUpMaxDays⟩ else none
  deliveryPolicy := if form.delivery = true then some ⟨some form.delivery⟩ else none
  reservationPolicy :=
    if form.reservationAccept = true then
      some {
        duration := form.reservationDuration
        payment := .new (some form.reservationFree)
          (if form.reservationPartial = true then
            some ⟨form.reservationtax, form.reservationtax⟩
          else none)
          (some form.reservationTotal)
        cancelation :=
          if form.reservationConcelationFree = true then none
          else some ⟨some ⟨form.reservationcancelationtax, none⟩⟩ }
    else none
  returnPolicy :=
    if form.returnAccept = true then
      some {
        duration := form.returnMaxDays
        productStatus := form.returnCondition
        returnMethod := form.returnMethode
        refund := {
          order := ⟨none, form.refundPercentage⟩
          shipping :=
            if form.returnShippingFee = true then some ⟨none, form.refundPercentage⟩ else none } }
    else none
  orderPolicy := some ⟨some {
    realtime := some form.notifRealTime
    time := form.notifDuration
    perOrdersNbr := form.notifDuration
    sendMode := some ⟨some form.notifEmail, some form.notifSms, some form.notifPopUp,
      some form.notifInPlateforme, none⟩ }⟩

/-- The decoded value of `policy`; the policy is built once more, just as in `getPolicy`. -/
def policytoFormData (form : PolicyValidation) : Option Json := form.getPolicy.toJson.decoded?

/-! ## From the policy to the form -/

/-- The pickup is read with its days only. -/
def setPickup (policy : Policy) (form : PolicyValidation) : PolicyValidation :=
  match policy.pickupPolicy.bind PickupPolicy.timeLimit with
  | none => form
  | some days => { form with selfPickup := true, selfPickUpMaxDays := some days }

def setDelivery (policy : DeliveryPolicy) (form : PolicyValidation) : PolicyValidation :=
  if policy.delivery.isSome = true then { form with delivery := true } else form

def setPayment (payment : ReservationPayment) (form : PolicyValidation) :
    Option PolicyValidation := do
  let form := match payment.free with
    | none => form
    | some free =>
        { form with
          reservationFree := free, reservationTotal := false, reservationPartial := false }
  let form := if payment.total.isSome = true then
      { form with reservationTotal := true, reservationFree := false, reservationPartial := false }
    else form
  let partialPayment ← payment.partialPayment
  return match partialPayment.fixe with
    | none => form
    | some fixe => { form with reservationPartial := true, reservationtax := some fixe }

def setCancelation (cancelation : Option ReservationCancelation) (form : PolicyValidation) :
    Option PolicyValidation := do
  let restrictions ← (← cancelation).restrictions
  return match restrictions.fixe with
    | none => { form with reservationConcelationFree := true }
    | some fix =>
        { form with reservationConcelationPartial := true, reservationcancelationtax := some fix }

/-- The duration is tested, and not taken. -/
def setReservation (policy : Option ReservationPolicy) (form : PolicyValidation) :
    Option PolicyValidation :=
  match policy with
  | none => some form
  | some policy =>
      if policy.duration.isSome = true then do
        let form ← setPayment policy.payment { form with reservationAccept := true }
        setCancelation policy.cancelation form
      else some form

def setReturn (policy : Option ReturnPolicy) (form : PolicyValidation) :
    Option PolicyValidation :=
  match policy with
  | none => some form
  | some policy =>
      if policy.duration.isSome = true then do
        let form := { form with
          returnAccept := true
          returnMaxDays := policy.duration
          returnCondition := policy.productStatus
          returnMethode := policy.returnMethod }
        let shipping ← policy.refund.shipping
        let form := if shipping.fixe.isSome = true then { form with returnShippingFee := true }
          else form
        return if policy.refund.order.fixe.isSome = true then
            { form with returnPartialFee := true, returnPerFee := policy.refund.order.fixe }
          else form
      else some form

def setOrders (policy : Option OrderPolicy) (form : PolicyValidation) :
    Option PolicyValidation := do
  let notification ← (← policy).notification
  let form := { form with notifRealTime := ← notification.realtime }
  let form := if notification.perOrdersNbr.isSome = true then
      { form with notifBatch := true, notifDuration := notification.perOrdersNbr }
    else form
  let form ← if notification.time.isSome = true then do
      let perOrdersNbr ← notification.perOrdersNbr
      pure { form with notifHourly := true, notifDuration := some perOrdersNbr }
    else some form
  let sendMode ← notification.sendMode
  return { form with
    notifEmail := ← sendMode.mail
    notifPopUp := ← sendMode.popup
    notifSms := ← sendMode.sms
    notifInPlateforme := ← sendMode.vibration }

/-- Everything after the pickup is read only of a policy with a delivery. -/
def setPolicy (policy : Policy) : Option PolicyValidation :=
  let form := setPickup policy initial
  match policy.deliveryPolicy with
  | none => some form
  | some delivery => do
      let form ← setReservation policy.reservationPolicy (setDelivery delivery form)
      let form ← setReturn policy.returnPolicy form
      setOrders policy.orderPolicy form

end PolicyValidation

end Proximity.Apps.Commercant.StorePolicy
