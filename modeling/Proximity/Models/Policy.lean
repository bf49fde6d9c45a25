import Mathlib.Data.Rat.Defs
import Proximity.Models.Account

/-!
# Policies as they are stored

The parts of the policy of a product or a seller that a pre-order reads.  Numbers and
flags default to `null`.
-/

namespace Proximity.Models

structure PickupPolicy where
  timeLimit : Option ℚ
  deriving DecidableEq, Repr

structure DeliveryPricing where
  fixe : Option ℚ
  km : Option ℚ
  deriving DecidableEq, Repr

structure DeliveryPolicy where
  pricing : Option DeliveryPricing
  deriving DecidableEq, Repr

structure PartialPayment where
  fixe : Option ℚ
  percentage : Option ℚ
  deriving DecidableEq, Repr

/-- `partialPayment` is the field `partial`. -/
structure ReservationPayment where
  free : Option Bool
  partialPayment : Option PartialPayment
  total : Option Bool
  deriving DecidableEq, Repr

structure ReservationPolicy where
  payment : Option ReservationPayment
  deriving DecidableEq, Repr

structure Policy where
  pickup : Option PickupPolicy
  delivery : Option DeliveryPolicy
  reservation : Option ReservationPolicy
  deriving DecidableEq, Repr

/-- `policy && policy.pickup && policy.pickup.timeLimit`. -/
def Policy.timeLimit? (policy : Option Policy) : Option ℚ :=
  policy.bind fun policy => policy.pickup.bind PickupPolicy.timeLimit

/-- `policy && policy.delivery && policy.delivery.pricing`. -/
def Policy.pricing? (policy : Option Policy) : Option DeliveryPricing :=
  policy.bind fun policy => policy.delivery.bind DeliveryPolicy.pricing

/-- `policy && policy.reservation && policy.reservation.payment`. -/
def Policy.payment? (policy : Option Policy) : Option ReservationPayment :=
  policy.bind fun policy => policy.reservation.bind ReservationPolicy.payment

end Proximity.Models
