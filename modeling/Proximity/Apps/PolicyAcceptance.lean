import Proximity.Apps.PolicyCodec
import Proximity.Systems.Joi

/-!
# The merchant's policy before the server

The middleware checks the policy of an update, and the schema of the database says of what
type its values are stored.
-/

namespace Proximity.Apps.Commercant.StorePolicy

open Proximity.Systems

/-! ## The validator -/

section Validator

open Schema

variable (conversions : Conversions)

/-- `fixe` and `percentage`, both asked for and both possibly `null`. -/
def amountSchema : Schema :=
  object conversions [("fixe", required (allowNull (number conversions))),
    ("percentage", required (allowNull (number conversions)))]

def pickupSchema : Schema := object conversions [("timeLimit", required (number conversions))]

def deliverySchema : Schema :=
  object conversions [("delivery", required (allowNull (boolean conversions)))]

def paymentSchema : Schema :=
  object conversions [("free", required (allowNull (boolean conversions))),
    ("partial", allowNull (amountSchema conversions)),
    ("total", required (allowNull (boolean conversions)))]

def cancelationSchema : Schema :=
  object conversions [("restrictions", allowNull (amountSchema conversions))]

def reservationSchema : Schema :=
  object conversions [("duration", required (allowNull (number conversions))),
    ("payment", allowNull (paymentSchema conversions)),
    ("cancelation", allowNull (cancelationSchema conversions))]

def refundSchema : Schema :=
  object conversions [("order", allowNull (amountSchema conversions)),
    ("shipping", allowNull (amountSchema conversions))]

def returnSchema : Schema :=
  object conversions [("duration", required (allowNull (number conversions))),
    ("productStatus", required (allowNull (allowEmpty string))),
    ("returnMethod", required (allowNull (allowEmpty string))),
    ("refund", allowNull (refundSchema conversions))]

def sendModeSchema : Schema :=
  object conversions [("mail", required (allowNull (boolean conversions))),
    ("sms", required (allowNull (boolean conversions))),
    ("popup", required (allowNull (boolean conversions))),
    ("vibration", required (allowNull (boolean conversions))),
    ("ringing", required (allowNull (boolean conversions)))]

/-- The `time` is to be a string. -/
def notificationSchema : Schema :=
  object conversions [("realtime", required (allowNull (boolean conversions))),
    ("time", required (allowNull string)),
    ("perOrdersNbr", required (allowNull (number conversions))),
    ("sendMode", allowNull (sendModeSchema conversions))]

def orderSchema : Schema :=
  object conversions [("notification", allowNull (notificationSchema conversions))]

/-- `updateSchema.policy`. -/
def policyValidation : Schema :=
  allowNull (object conversions [
    ("workingTime", allowNull (object conversions [
      ("openTime", required string), ("closeTime", required string)])),
    ("pickup", allowNull (pickupSchema conversions)),
    ("delivery", allowNull (deliverySchema conversions)),
    ("reservation", allowNull (reservationSchema conversions)),
    ("return", allowNull (returnSchema conversions)),
    ("order", allowNull (orderSchema conversions))])

end Validator

/-! ## The schema of the database -/

/-- A type of the database: `null` is stored everywhere. -/
abbrev Shape := Json → Bool

def Shape.number : Shape
  | .null | .int _ | .double _ => true
  | _ => false

def Shape.boolean : Shape
  | .null | .bool _ => true
  | _ => false

def Shape.string : Shape
  | .null | .string _ => true
  | _ => false

/-- A key that the schema does not have is dropped. -/
def Shape.document (paths : List (String × Shape)) : Shape
  | .null => true
  | .object members => members.all fun member => (paths.lookup member.1).any fun shape =>
      shape member.2
  | _ => false

def amountShape : Shape := .document [("fixe", .number), ("percentage", .number)]

def pickupShape : Shape := .document [("timeLimit", .number)]

def deliveryShape : Shape :=
  .document [("delivery", .boolean),
    ("zone", .document [
      ("centerPoint", .document [("latitude", .number), ("longitude", .number)]),
      ("radius", .number)]),
    ("pricing", .document [("fixe", .number), ("km", .number)])]

def reservationShape : Shape :=
  .document [("duration", .number),
    ("payment", .document [("free", .boolean), ("partial", amountShape), ("total", .boolean)]),
    ("cancelation", .document [("restrictions", amountShape)])]

def returnShape : Shape :=
  .document [("duration", .number), ("productStatus", .string), ("returnMethod", .string),
    ("refund", .document [("order", amountShape), ("shipping", amountShape)])]

def orderShape : Shape :=
  .document [("notification", .document [
    ("realtime", .boolean), ("time", .number), ("perOrdersNbr", .number),
    ("sendMode", .document [("mail", .boolean), ("sms", .boolean), ("popup", .boolean),
      ("vibration", .boolean), ("ringing", .boolean)])])]

def policySchema : Shape :=
  .document [("workingTime", .document [("openTime", .string), ("closeTime", .string)]),
    ("pickup", pickupShape), ("delivery", deliveryShape), ("reservation", reservationShape),
    ("return", returnShape), ("order", orderShape)]

/-! ## What is chosen -/

/-- A chosen value, with the path at which it is stored. -/
abbrev Choice := List String × Json

/-- The choices of a section that is switched on. -/
def chosenIf (switch : Bool) (choices : List Choice) : List Choice :=
  if switch = true then choices else []

def PolicyValidation.reservationChosen (form : PolicyValidation) : List Choice :=
  [(["reservation", "duration"], .ofInt form.reservationDuration)] ++
  chosenIf form.reservationFree [(["reservation", "payment", "free"], .bool true)] ++
  chosenIf form.reservationPartial
    [(["reservation", "payment", "partial", "fixe"], .ofDouble form.reservationtax)] ++
  chosenIf form.reservationTotal [(["reservation", "payment", "total"], .bool true)] ++
  chosenIf (!form.reservationConcelationFree)
    [(["reservation", "cancelation", "restrictions", "fixe"],
      .ofDouble form.reservationcancelationtax)]

def PolicyValidation.returnChosen (form : PolicyValidation) : List Choice :=
  [(["return", "duration"], .ofInt form.returnMaxDays),
    (["return", "productStatus"], .ofString form.returnCondition),
    (["return", "returnMethod"], .ofString form.returnMethode),
    (["return", "refund", "order", "percentage"], .ofDouble form.refundPercentage)] ++
  chosenIf form.returnShippingFee
    [(["return", "refund", "shipping", "percentage"], .ofDouble form.refundPercentage)]

def PolicyValidation.orderChosen (form : PolicyValidation) : List Choice :=
  [(["order", "notification", "realtime"], .bool form.notifRealTime),
    (["order", "notification", "time"], .ofInt form.notifDuration),
    (["order", "notification", "perOrdersNbr"], .ofInt form.notifDuration),
    (["order", "notification", "sendMode", "mail"], .bool form.notifEmail),
    (["order", "notification", "sendMode", "sms"], .bool form.notifSms),
    (["order", "notification", "sendMode", "popup"], .bool form.notifPopUp),
    (["order", "notification", "sendMode", "vibration"], .bool form.notifInPlateforme)]

/-- What the form has chosen, and where the schema stores it. -/
def PolicyValidation.chosen (form : PolicyValidation) : List Choice :=
  chosenIf form.selfPickup [(["pickup", "timeLimit"], .ofInt form.selfPickUpMaxDays)] ++
  chosenIf form.delivery [(["delivery", "delivery"], .bool true)] ++
  chosenIf form.reservationAccept form.reservationChosen ++
  chosenIf form.returnAccept form.returnChosen ++
  form.orderChosen

/-- The policy is accepted, and each of its values is of the type that is stored. -/
def PolicyValidation.Accepted (conversions : Conversions) (form : PolicyValidation) : Prop :=
  ∃ policy, form.policytoFormData = some policy ∧
    policyValidation conversions (some policy) = true ∧ policySchema policy = true

/-- The policy has everything that is chosen. -/
def PolicyValidation.Kept (form : PolicyValidation) : Prop :=
  ∀ choice ∈ form.chosen, form.getPolicy.toJson.at? choice.1 = some choice.2

/-- The pickup has its days, there is no delay of notifications, and every number that is
sent is one that a `double` counts in ones. -/
structure PolicyValidation.Acceptable (form : PolicyValidation) : Prop where
  pickup : form.selfPickup = true → ∃ days, form.selfPickUpMaxDays = some days ∧
    safeNumber days = true
  reservation : form.reservationAccept = true →
    (form.reservationDuration.all fun days => safeNumber days) = true ∧
    (form.reservationPartial = true → form.reservationtax.all Double.isSafe = true) ∧
    (form.reservationConcelationFree = false →
      form.reservationcancelationtax.all Double.isSafe = true)
  returned : form.returnAccept = true →
    (form.returnMaxDays.all fun days => safeNumber days) = true ∧
    (form.returnTotalFee = false →
      (form.returnPerFee.all fun fee => (fee.divided 100).isSafe) = true)
  notification : form.notifDuration = none

/-! ## The validator on an encoded policy -/

section Accepting

open Schema

variable {conversions : Conversions}

theorem number_of_ofInt (value : Option Int) :
    number conversions (some (.ofInt value)) = value.any fun value => safeNumber value := by
  cases value with
  | none => rfl
  | some value => rfl

theorem allowNull_ofPart {α : Type} (toJson : α → Json) (schema : Schema)
    (objects : ∀ part, ∃ members, toJson part = .object members) (part : Option α) :
    allowNull schema (some (.ofPart toJson part)) =
      part.all fun part => schema (some (toJson part)) := by
  cases part with
  | none => rfl
  | some part =>
      obtain ⟨members, written⟩ := objects part
      rw [Json.ofPart, written, Option.all_some, written, allowNull_object]

/-! An encoded class is never `null`. -/

@[simp] theorem allowNull_amount (schema : Schema) (amount : Amount) :
    schema.allowNull (some amount.toJson) = schema (some amount.toJson) := rfl

@[simp] theorem allowNull_payment (schema : Schema) (payment : ReservationPayment) :
    schema.allowNull (some payment.toJson) = schema (some payment.toJson) := rfl

@[simp] theorem allowNull_cancelation (schema : Schema) (cancelation : ReservationCancelation) :
    schema.allowNull (some cancelation.toJson) = schema (some cancelation.toJson) := rfl

@[simp] theorem allowNull_refund (schema : Schema) (refund : Refund) :
    schema.allowNull (some refund.toJson) = schema (some refund.toJson) := rfl

@[simp] theorem allowNull_sendMode (schema : Schema) (mode : SendMode) :
    schema.allowNull (some mode.toJson) = schema (some mode.toJson) := rfl

@[simp] theorem allowNull_notification (schema : Schema) (notification : OrderNotification) :
    schema.allowNull (some notification.toJson) = schema (some notification.toJson) := rfl

theorem pickupSchema_toJson (policy : PickupPolicy) :
    pickupSchema conversions (some policy.toJson) =
      policy.timeLimit.any fun days => safeNumber days := by
  simp [pickupSchema, PickupPolicy.toJson, fields, number_of_ofInt]

theorem deliverySchema_toJson (policy : DeliveryPolicy) :
    deliverySchema conversions (some policy.toJson) = true := by
  simp [deliverySchema, DeliveryPolicy.toJson, fields]

theorem amountSchema_toJson (amount : Amount) :
    amountSchema conversions (some amount.toJson) =
      (amount.fixe.all Double.isSafe && amount.percentage.all Double.isSafe) := by
  simp [amountSchema, Amount.toJson, fields, List.lookup_cons]

theorem paymentSchema_toJson (payment : ReservationPayment) :
    paymentSchema conversions (some payment.toJson) =
      payment.partialPayment.all fun given => amountSchema conversions (some given.toJson) := by
  obtain ⟨free, partialPayment, total⟩ := payment
  cases partialPayment with
  | none =>
      simp [paymentSchema, amountSchema, ReservationPayment.toJson, Json.optional, fields,
        List.lookup_cons]
  | some given =>
      simp [paymentSchema, ReservationPayment.toJson, Json.optional, fields, List.lookup_cons]

theorem cancelationSchema_toJson (cancelation : ReservationCancelation) :
    cancelationSchema conversions (some cancelation.toJson) =
      cancelation.restrictions.all fun restrictions =>
        amountSchema conversions (some restrictions.toJson) := by
  obtain ⟨restrictions⟩ := cancelation
  cases restrictions with
  | none => simp [cancelationSchema, amountSchema, ReservationCancelation.toJson, Json.optional,
      fields]
  | some restrictions =>
      simp [cancelationSchema, ReservationCancelation.toJson, Json.optional, fields]

theorem reservationSchema_toJson (policy : ReservationPolicy) :
    reservationSchema conversions (some policy.toJson) =
      ((policy.duration.all fun days => safeNumber days) &&
        paymentSchema conversions (some policy.payment.toJson) &&
        policy.cancelation.all fun cancelation =>
          cancelationSchema conversions (some cancelation.toJson)) := by
  obtain ⟨duration, payment, cancelation⟩ := policy
  cases cancelation with
  | none =>
      simp [reservationSchema, cancelationSchema, ReservationPolicy.toJson, Json.optional, fields,
        List.lookup_cons]
  | some cancelation =>
      simp [reservationSchema, ReservationPolicy.toJson, Json.optional, fields, List.lookup_cons,
        Bool.and_assoc]

theorem refundSchema_toJson (refund : Refund) :
    refundSchema conversions (some refund.toJson) =
      (amountSchema conversions (some refund.order.toJson) &&
        refund.shipping.all fun shipping => amountSchema conversions (some shipping.toJson)) := by
  obtain ⟨order, shipping⟩ := refund
  cases shipping with
  | none =>
      simp [refundSchema, amountSchema, Refund.toJson, Json.optional, fields, List.lookup_cons]
  | some shipping =>
      simp [refundSchema, Refund.toJson, Json.optional, fields, List.lookup_cons]

theorem returnSchema_toJson (policy : ReturnPolicy) :
    returnSchema conversions (some policy.toJson) =
      ((policy.duration.all fun days => safeNumber days) &&
        refundSchema conversions (some policy.refund.toJson)) := by
  simp [returnSchema, ReturnPolicy.toJson, fields, List.lookup_cons]

theorem sendModeSchema_toJson (mode : SendMode) :
    sendModeSchema conversions (some mode.toJson) = true := by
  simp [sendModeSchema, SendMode.toJson, fields, List.lookup_cons]

theorem notificationSchema_toJson (notification : OrderNotification) :
    notificationSchema conversions (some notification.toJson) =
      (notification.time.isNone &&
        notification.perOrdersNbr.all fun number => safeNumber number) := by
  obtain ⟨realtime, time, perOrdersNbr, sendMode⟩ := notification
  cases sendMode with
  | none =>
      simp [notificationSchema, sendModeSchema, OrderNotification.toJson, Json.optional, fields,
        List.lookup_cons]
  | some sendMode =>
      simp [notificationSchema, OrderNotification.toJson, Json.optional, fields, List.lookup_cons,
        sendModeSchema_toJson]

theorem orderSchema_toJson (policy : OrderPolicy) :
    orderSchema conversions (some policy.toJson) =
      policy.notification.all fun notification =>
        notificationSchema conversions (some notification.toJson) := by
  obtain ⟨notification⟩ := policy
  cases notification with
  | none => simp [orderSchema, notificationSchema, OrderPolicy.toJson, Json.optional, fields]
  | some notification => simp [orderSchema, OrderPolicy.toJson, Json.optional, fields]

/-- The validator takes a policy exactly when it takes each of its parts. -/
theorem policyValidation_toJson (policy : Policy) :
    policyValidation conversions (some policy.toJson) =
      ((policy.pickupPolicy.all fun part => pickupSchema conversions (some part.toJson)) &&
        (policy.reservationPolicy.all fun part =>
          reservationSchema conversions (some part.toJson)) &&
        (policy.returnPolicy.all fun part => returnSchema conversions (some part.toJson)) &&
        policy.orderPolicy.all fun part => orderSchema conversions (some part.toJson)) := by
  simp [policyValidation, Policy.toJson, fields, List.lookup_cons,
    allowNull_ofPart PickupPolicy.toJson _ fun part => ⟨_, rfl⟩,
    allowNull_ofPart DeliveryPolicy.toJson _ fun part => ⟨_, rfl⟩,
    allowNull_ofPart ReservationPolicy.toJson _ fun part => ⟨_, rfl⟩,
    allowNull_ofPart ReturnPolicy.toJson _ fun part => ⟨_, rfl⟩,
    allowNull_ofPart OrderPolicy.toJson _ fun part => ⟨_, rfl⟩, deliverySchema_toJson,
    Bool.and_assoc]

end Accepting

/-! ## The types of an encoded policy -/

section Shapes

@[simp] theorem Shape.number_ofInt (value : Option Int) : Shape.number (.ofInt value) = true := by
  cases value with
  | none => rfl
  | some value => rfl

@[simp] theorem Shape.number_ofDouble (value : Option Double) :
    Shape.number (.ofDouble value) = true := by
  cases value with
  | none => rfl
  | some value => rfl

@[simp] theorem Shape.boolean_ofBool (value : Option Bool) :
    Shape.boolean (.ofBool value) = true := by
  cases value with
  | none => rfl
  | some value => rfl

@[simp] theorem Shape.string_ofString (value : Option String) :
    Shape.string (.ofString value) = true := by
  cases value with
  | none => rfl
  | some value => rfl

@[simp] theorem amountShape_toJson (amount : Amount) : amountShape amount.toJson = true := by
  simp [amountShape, Amount.toJson, Shape.document, List.lookup_cons]

theorem pickupShape_toJson (policy : PickupPolicy) : pickupShape policy.toJson = true := by
  simp [pickupShape, PickupPolicy.toJson, Shape.document]

theorem deliveryShape_toJson (policy : DeliveryPolicy) : deliveryShape policy.toJson = true := by
  simp [deliveryShape, DeliveryPolicy.toJson, Shape.document]

theorem paymentShape_toJson (payment : ReservationPayment) :
    Shape.document [("free", .boolean), ("partial", amountShape), ("total", .boolean)]
      payment.toJson = true := by
  obtain ⟨free, partialPayment, total⟩ := payment
  cases partialPayment with
  | none => simp [ReservationPayment.toJson, Json.optional, Shape.document, List.lookup_cons]
  | some given => simp [ReservationPayment.toJson, Json.optional, Shape.document, List.lookup_cons]

theorem cancelationShape_toJson (cancelation : ReservationCancelation) :
    Shape.document [("restrictions", amountShape)] cancelation.toJson = true := by
  obtain ⟨restrictions⟩ := cancelation
  cases restrictions with
  | none => simp [ReservationCancelation.toJson, Json.optional, Shape.document]
  | some given => simp [ReservationCancelation.toJson, Json.optional, Shape.document]

theorem reservationShape_toJson (policy : ReservationPolicy) :
    reservationShape policy.toJson = true := by
  have document : reservationShape policy.toJson =
      ([("duration", Json.ofInt policy.duration), ("payment", policy.payment.toJson)] ++
        Json.optional "cancelation" ReservationCancelation.toJson policy.cancelation).all
        fun member => (List.lookup member.1 [("duration", Shape.number),
          ("payment", .document [("free", .boolean), ("partial", amountShape),
            ("total", .boolean)]),
          ("cancelation", .document [("restrictions", amountShape)])]).any fun shape =>
            shape member.2 := rfl
  rw [document]
  cases policy.cancelation with
  | none => simp [Json.optional, List.lookup_cons, paymentShape_toJson]
  | some cancelation =>
      simp [Json.optional, List.lookup_cons, paymentShape_toJson, cancelationShape_toJson]

theorem returnShape_toJson (policy : ReturnPolicy) : returnShape policy.toJson = true := by
  obtain ⟨duration, productStatus, returnMethod, ⟨order, shipping⟩⟩ := policy
  cases shipping with
  | none => simp [returnShape, ReturnPolicy.toJson, Refund.toJson, Json.optional, Shape.document,
      List.lookup_cons]
  | some shipping => simp [returnShape, ReturnPolicy.toJson, Refund.toJson, Json.optional,
      Shape.document, List.lookup_cons]

theorem orderShape_toJson (policy : OrderPolicy) : orderShape policy.toJson = true := by
  obtain ⟨notification⟩ := policy
  cases notification with
  | none => simp [orderShape, OrderPolicy.toJson, Json.optional, Shape.document]
  | some notification =>
      obtain ⟨realtime, time, perOrdersNbr, sendMode⟩ := notification
      cases sendMode with
      | none => simp [orderShape, OrderPolicy.toJson, OrderNotification.toJson, Json.optional,
          Shape.document, List.lookup_cons]
      | some mode => simp [orderShape, OrderPolicy.toJson, OrderNotification.toJson,
          SendMode.toJson, Json.optional, Shape.document, List.lookup_cons]

theorem Shape.ofPart {α : Type} {shape : Shape} {toJson : α → Json} (null : shape .null = true)
    (fits : ∀ part, shape (toJson part) = true) (part : Option α) :
    shape (.ofPart toJson part) = true := by
  cases part with
  | none => exact null
  | some part => exact fits part

/-- Every policy is of the types that are stored. -/
theorem policySchema_toJson (policy : Policy) : policySchema policy.toJson = true := by
  simp [policySchema, Policy.toJson, Shape.document, List.lookup_cons,
    Shape.ofPart rfl pickupShape_toJson, Shape.ofPart rfl deliveryShape_toJson,
    Shape.ofPart rfl reservationShape_toJson, Shape.ofPart rfl returnShape_toJson,
    Shape.ofPart rfl orderShape_toJson]

end Shapes

/-! ## The policies of the form -/

section Forms

variable {conversions : Conversions} {form : PolicyValidation}

theorem all_isFinite {number : Option Double} (safe : number.all Double.isSafe = true) :
    number.all Double.isFinite = true := by
  cases number with
  | none => rfl
  | some number => exact Double.isFinite_of_isSafe safe

theorem encodable_of_amountSchema {amount : Amount}
    (accepted : amountSchema conversions (some amount.toJson) = true) :
    amount.toJson.encodable = true := by
  rw [amountSchema_toJson, Bool.and_eq_true] at accepted
  rw [Amount.encodable_toJson, Bool.and_eq_true]
  exact ⟨all_isFinite accepted.1, all_isFinite accepted.2⟩

theorem all_encodable {amount : Option Amount}
    (accepted : (amount.all fun amount => amountSchema conversions (some amount.toJson)) = true) :
    (amount.all fun amount => amount.toJson.encodable) = true := by
  cases amount with
  | none => rfl
  | some amount => exact encodable_of_amountSchema accepted

/-- What the validator takes can be encoded. -/
theorem encodable_of_accepted {policy : Policy}
    (accepted : policyValidation conversions (some policy.toJson) = true) :
    policy.toJson.encodable = true := by
  rw [policyValidation_toJson, Bool.and_eq_true, Bool.and_eq_true, Bool.and_eq_true] at accepted
  obtain ⟨⟨⟨_, reservation⟩, returned⟩, _⟩ := accepted
  rw [Policy.encodable_toJson, Bool.and_eq_true]
  constructor
  · cases given : policy.reservationPolicy with
    | none => rfl
    | some part =>
        rw [given, Option.all_some, reservationSchema_toJson, Bool.and_eq_true,
          Bool.and_eq_true, paymentSchema_toJson] at reservation
        rw [Option.all_some, ReservationPolicy.encodable_toJson, Bool.and_eq_true]
        refine ⟨all_encodable reservation.1.2, ?_⟩
        cases cancelation : part.cancelation with
        | none => rfl
        | some cancelation =>
            have restricted := reservation.2
            rw [cancelation, Option.all_some, cancelationSchema_toJson] at restricted
            exact all_encodable restricted
  · cases given : policy.returnPolicy with
    | none => rfl
    | some part =>
        rw [given, Option.all_some, returnSchema_toJson, refundSchema_toJson, Bool.and_eq_true,
          Bool.and_eq_true] at returned
        rw [Option.all_some, ReturnPolicy.encodable_toJson, Bool.and_eq_true]
        exact ⟨encodable_of_amountSchema returned.2.1, all_encodable returned.2.2⟩

theorem accepted_iff_policyValidation : form.Accepted conversions ↔
    policyValidation conversions (some form.getPolicy.toJson) = true := by
  constructor
  · rintro ⟨policy, sent, accepted, _⟩
    unfold PolicyValidation.policytoFormData Json.decoded? at sent
    split at sent
    case isTrue =>
      cases sent
      exact accepted
    case isFalse => cases sent
  · intro accepted
    refine ⟨form.getPolicy.toJson, ?_, accepted, policySchema_toJson _⟩
    rw [PolicyValidation.policytoFormData, Json.decoded?,
      if_pos (encodable_of_accepted accepted)]

theorem pickup_accepted_iff : (form.getPolicy.pickupPolicy.all fun part =>
      pickupSchema conversions (some part.toJson)) = true ↔
    (form.selfPickup = true → ∃ days, form.selfPickUpMaxDays = some days ∧
      safeNumber days = true) := by
  unfold PolicyValidation.getPolicy
  cases form.selfPickup with
  | false => simp
  | true =>
      cases form.selfPickUpMaxDays with
      | none => simp [pickupSchema_toJson]
      | some days => simp [pickupSchema_toJson]

theorem reservation_accepted_iff : (form.getPolicy.reservationPolicy.all fun part =>
      reservationSchema conversions (some part.toJson)) = true ↔
    (form.reservationAccept = true →
      (form.reservationDuration.all fun days => safeNumber days) = true ∧
      (form.reservationPartial = true → form.reservationtax.all Double.isSafe = true) ∧
      (form.reservationConcelationFree = false →
        form.reservationcancelationtax.all Double.isSafe = true)) := by
  unfold PolicyValidation.getPolicy
  cases form.reservationAccept with
  | false => simp
  | true =>
      cases form.reservationPartial with
      | false =>
          cases form.reservationConcelationFree with
          | true => simp [reservationSchema_toJson, paymentSchema_toJson, ReservationPayment.new]
          | false =>
              simp [reservationSchema_toJson, paymentSchema_toJson, ReservationPayment.new,
                cancelationSchema_toJson, amountSchema_toJson]
      | true =>
          cases form.reservationConcelationFree with
          | true =>
              simp [reservationSchema_toJson, paymentSchema_toJson, ReservationPayment.new,
                amountSchema_toJson]
          | false =>
              simp [reservationSchema_toJson, paymentSchema_toJson, ReservationPayment.new,
                cancelationSchema_toJson, amountSchema_toJson, and_assoc]

theorem return_accepted_iff : (form.getPolicy.returnPolicy.all fun part =>
      returnSchema conversions (some part.toJson)) = true ↔
    (form.returnAccept = true →
      (form.returnMaxDays.all fun days => safeNumber days) = true ∧
      (form.returnTotalFee = false →
        (form.returnPerFee.all fun fee => (fee.divided 100).isSafe) = true)) := by
  have whole : safeNumber 1 = true := by decide +kernel
  unfold PolicyValidation.getPolicy PolicyValidation.refundPercentage
  cases form.returnAccept with
  | false => simp
  | true =>
      cases form.returnShippingFee with
      | false =>
          cases form.returnTotalFee with
          | false => simp [returnSchema_toJson, refundSchema_toJson, amountSchema_toJson,
              Option.all_map]
          | true => simp [returnSchema_toJson, refundSchema_toJson, amountSchema_toJson,
              Double.isSafe, whole]
      | true =>
          cases form.returnTotalFee with
          | false => simp [returnSchema_toJson, refundSchema_toJson, amountSchema_toJson,
              Option.all_map]
          | true => simp [returnSchema_toJson, refundSchema_toJson, amountSchema_toJson,
              Double.isSafe, whole]

theorem order_accepted_iff : (form.getPolicy.orderPolicy.all fun part =>
      orderSchema conversions (some part.toJson)) = true ↔ form.notifDuration = none := by
  unfold PolicyValidation.getPolicy
  cases form.notifDuration with
  | none => simp [orderSchema_toJson, notificationSchema_toJson]
  | some duration => simp [orderSchema_toJson, notificationSchema_toJson]

/-- The server takes the form's policy exactly when it is acceptable. -/
theorem accepted_iff : form.Accepted conversions ↔ form.Acceptable := by
  rw [accepted_iff_policyValidation, policyValidation_toJson, Bool.and_eq_true, Bool.and_eq_true,
    Bool.and_eq_true, pickup_accepted_iff, reservation_accepted_iff, return_accepted_iff,
    order_accepted_iff]
  exact ⟨fun ⟨⟨⟨pickup, reservation⟩, returned⟩, notification⟩ =>
      ⟨pickup, reservation, returned, notification⟩,
    fun acceptable => ⟨⟨⟨acceptable.pickup, acceptable.reservation⟩, acceptable.returned⟩,
      acceptable.notification⟩⟩

/-! ## What is kept of the choices -/

theorem forall_mem_chosenIf {switch : Bool} {choices : List Choice} {Holds : Choice → Prop} :
    (∀ choice ∈ chosenIf switch choices, Holds choice) ↔
      (switch = true → ∀ choice ∈ choices, Holds choice) := by
  cases switch with
  | false => simp [chosenIf]
  | true => simp [chosenIf]

/-- The policy has a value at the end of a path exactly when its section has it. -/
theorem at?_toJson (policy : Policy) (path : List String) :
    policy.toJson.at? ("pickup" :: path) =
        (Json.ofPart PickupPolicy.toJson policy.pickupPolicy).at? path ∧
      policy.toJson.at? ("delivery" :: path) =
        (Json.ofPart DeliveryPolicy.toJson policy.deliveryPolicy).at? path ∧
      policy.toJson.at? ("reservation" :: path) =
        (Json.ofPart ReservationPolicy.toJson policy.reservationPolicy).at? path ∧
      policy.toJson.at? ("return" :: path) =
        (Json.ofPart ReturnPolicy.toJson policy.returnPolicy).at? path ∧
      policy.toJson.at? ("order" :: path) =
        (Json.ofPart OrderPolicy.toJson policy.orderPolicy).at? path :=
  ⟨rfl, rfl, rfl, rfl, rfl⟩

theorem pickup_kept (picked : form.selfPickup = true) :
    form.getPolicy.toJson.at? ["pickup", "timeLimit"] = some (.ofInt form.selfPickUpMaxDays) := by
  rw [(at?_toJson _ _).1, PolicyValidation.getPolicy, if_pos picked]
  rfl

theorem delivery_kept (delivered : form.delivery = true) :
    form.getPolicy.toJson.at? ["delivery", "delivery"] = some (.bool true) := by
  rw [(at?_toJson _ _).2.1, PolicyValidation.getPolicy, if_pos delivered, delivered]
  rfl

/-- Everything of a reservation is sent but its total. -/
theorem reservation_kept_iff (accept : form.reservationAccept = true) :
    (∀ choice ∈ form.reservationChosen,
      form.getPolicy.toJson.at? choice.1 = some choice.2) ↔ form.reservationTotal = false := by
  simp only [PolicyValidation.reservationChosen, List.forall_mem_append, forall_mem_chosenIf,
    List.forall_mem_singleton, (at?_toJson _ _).2.2.1]
  unfold PolicyValidation.getPolicy
  rw [if_pos accept]
  constructor
  · rintro ⟨⟨-, total⟩, -⟩
    refine Bool.eq_false_iff.mpr fun chosen => ?_
    have unsent : some Json.null = some (.bool true) := by
      -- The constructor has put `null` in the place of the total.
      rw [← total chosen]
      cases form.reservationPartial with
      | false => rfl
      | true => rfl
    exact absurd unsent nofun
  · intro partly
    refine ⟨⟨⟨⟨?duration, ?free⟩, ?part⟩, ?total⟩, ?cancelation⟩
    case duration => rfl
    case free =>
      intro free
      rw [free]
      rfl
    case part =>
      intro part
      rw [if_pos part]
      rfl
    case total => exact fun chosen => absurd chosen (Bool.eq_false_iff.mp partly)
    case cancelation =>
      intro restricted
      rw [Bool.not_eq_true'] at restricted
      rw [restricted]
      rfl

theorem return_kept (accept : form.returnAccept = true) :
    ∀ choice ∈ form.returnChosen, form.getPolicy.toJson.at? choice.1 = some choice.2 := by
  simp only [PolicyValidation.returnChosen, List.forall_mem_append, forall_mem_chosenIf,
    List.forall_mem_singleton, List.forall_mem_cons, (at?_toJson _ _).2.2.2.1]
  unfold PolicyValidation.getPolicy
  rw [if_pos accept]
  refine ⟨⟨rfl, rfl, rfl, rfl⟩, ?shipping⟩
  case shipping =>
    intro shipping
    rw [if_pos shipping]
    rfl

theorem order_kept (form : PolicyValidation) :
    ∀ choice ∈ form.orderChosen, form.getPolicy.toJson.at? choice.1 = some choice.2 := by
  simp only [PolicyValidation.orderChosen, List.forall_mem_cons, (at?_toJson _ _).2.2.2.2]
  exact ⟨rfl, rfl, rfl, rfl, rfl, rfl, rfl, List.forall_mem_nil _⟩

/-- The policy keeps every choice but a total payment of a reservation. -/
theorem kept_iff (form : PolicyValidation) : form.Kept ↔
    (form.reservationAccept = true → form.reservationTotal = false) := by
  unfold PolicyValidation.Kept PolicyValidation.chosen
  simp only [List.forall_mem_append, forall_mem_chosenIf, List.forall_mem_singleton]
  constructor
  · intro kept accept
    exact (reservation_kept_iff accept).mp (kept.1.1.2 accept)
  · intro partly
    exact ⟨⟨⟨⟨pickup_kept, delivery_kept⟩,
      fun accept => (reservation_kept_iff accept).mpr (partly accept)⟩, return_kept⟩,
      order_kept form⟩

end Forms

/-- The policy is accepted exactly when the form is acceptable, and then every choice is
kept unless a reservation is to be paid in total. -/
theorem acceptedAndKept_iff (conversions : Conversions) (form : PolicyValidation) :
    (form.Accepted conversions ↔ form.Acceptable) ∧
      (form.Accepted conversions ∧ form.Kept ↔
        form.Acceptable ∧ (form.reservationAccept = true → form.reservationTotal = false)) :=
  ⟨accepted_iff, and_congr accepted_iff (kept_iff form)⟩

/-- Deliveries, with one notification for ten orders. -/
def batchForm : PolicyValidation :=
  { PolicyValidation.initial with delivery := true, notifBatch := true, notifDuration := some 10 }

/-- Deliveries, and reservations that are paid in total. -/
def totalReservation : PolicyValidation :=
  { PolicyValidation.initial with
    delivery := true
    reservationAccept := true
    reservationTotal := true
    reservationDuration := some 3
    reservationConcelationFree := true
    notifRealTime := true }

/-- The delay is sent as a number where a string is asked for; the total is not sent. -/
theorem batch_not_accepted :
    batchForm.Valid ∧ (∀ conversions, ¬ batchForm.Accepted conversions) ∧
      totalReservation.Valid ∧ ¬ totalReservation.Kept := by
  refine ⟨⟨rfl, rfl, rfl, rfl⟩, fun conversions accepted => ?_, ⟨rfl, rfl, rfl, rfl⟩,
    fun kept => ?_⟩
  · cases (accepted_iff.mp accepted).notification
  · cases (kept_iff totalReservation).mp kept rfl

end Proximity.Apps.Commercant.StorePolicy
