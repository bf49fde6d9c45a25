import Proximity.Dispatch.Coursier
import Proximity.Models.Account

/-!
# Deliveries of the orders that couriers are given

`coursierService.js` stores a delivery for an order that a courier accepts, and changes its
status later.  The orders of the city queues are known by their ids here; the rest of an
order's text is read by the routing service alone.
-/

namespace Proximity.Dispatch

open Proximity.Systems Proximity.Models

inductive DeliveryStatus where
  | confirmed
  | cancelled
  | ongoing
  | beingCancelled
  deriving DecidableEq, Repr

structure Delivery where
  id : ObjectId
  coursierId : ObjectId
  orderId : ObjectId
  deliveryDate : Time
  status : DeliveryStatus
  earning : ℚ
  distance : Option ℚ
  isCollected : Bool
  deriving DecidableEq, Repr

instance : Document Delivery ObjectId := ⟨Delivery.id⟩

@[simp] theorem Delivery.document_id (delivery : Delivery) :
    Document.id delivery = delivery.id := rfl

namespace Deliveries

inductive Failure where
  | notSaved
  | referenceError
  deriving DecidableEq, Repr

/-- The body of an acceptance; `distance` is `none` when it is no number, and `some none`
when it is `null`. -/
structure AcceptBody where
  orderId : Option ObjectId
  coursierId : Option ObjectId
  distance : Option (Option ℚ)
  deriving DecidableEq, Repr

/-- `new Delivery({..}).save()`: both ids are required, and an earning that is `NaN` is not
stored.  No other delivery of the order is looked for. -/
def acceptedDelivery (deliveries : Collection Delivery) (newId : ObjectId) (now : Time)
    (body : AcceptBody) : Except Failure (Collection Delivery) :=
  match body.orderId, body.coursierId, body.distance, deliveries.findById? newId with
  | some orderId, some coursierId, some distance, none =>
      .ok (deliveries.insert {
        id := newId
        coursierId := coursierId
        orderId := orderId
        deliveryDate := now
        status := .ongoing
        -- `null * 2.5` is 0.
        earning := distance.getD 0 * (5 / 2)
        distance := distance
        isCollected := false })
  | _, _, _, _ => .error .notSaved

/-- The update is made for an `id` that no declaration introduces, so reading it throws. -/
def collectDelivery (_deliveries : Collection Delivery) : Except Failure (Collection Delivery) :=
  .error .referenceError

def confirm : Update Delivery where
  apply delivery := { delivery with status := .confirmed }
  keepsId _ := rfl

/-- An update by id, whatever the status was. -/
def confirmDelivery (deliveries : Collection Delivery) (deliveryId : Option ObjectId) :
    Except Failure (Collection Delivery) :=
  match deliveryId with
  | some deliveryId => .ok (deliveries.update deliveryId confirm)
  | none => .ok deliveries

/-- The test `!confirmedDelivery.isCollected` stands before the blocks that declare
`confirmedDelivery`, so it throws before either of them is entered. -/
def cancelDelivery (_deliveries : Collection Delivery) (_deliveryId : Option ObjectId) :
    Except Failure (Collection Delivery) :=
  .error .referenceError

/-! ## The queues and the deliveries together -/

/-- `coursiers` names the courier of each `getDeliveries` call. -/
structure State (City : Type) where
  queues : Dispatch.State City ObjectId
  coursiers : List ObjectId
  deliveries : Collection Delivery

def State.initial {City : Type} : State City :=
  ⟨Dispatch.State.initial, [], Collection.empty⟩

inductive Action (City : Type) where
  | addOrder (city : City) (order : ObjectId)
  | getDeliveries (coursier : ObjectId) (coursierInfo : CoursierInfo City)
  | redis (call : Nat)
  | distance (call : Nat) (reply : Option ℚ)
  | acceptedDelivery (newId : ObjectId) (now : Time) (body : AcceptBody)
  | collectDelivery
  | confirmDelivery (deliveryId : Option ObjectId)
  | cancelDelivery (deliveryId : Option ObjectId)
  deriving DecidableEq, Repr

/-- A service that throws leaves the deliveries as they are. -/
def stored (deliveries : Collection Delivery) :
    Except Failure (Collection Delivery) → Collection Delivery
  | .ok after => after
  | .error _ => deliveries

variable {City : Type} [DecidableEq City]

def State.answer (source : State City) (answered : Except Failure (Collection Delivery)) :
    State City :=
  { source with deliveries := stored source.deliveries answered }

def step? (source : State City) : Action City → Option (State City)
  | .addOrder city order =>
      (Dispatch.step? source.queues (.addOrder city order)).map fun queues =>
        { source with queues := queues }
  | .getDeliveries coursier coursierInfo =>
      (Dispatch.step? source.queues (.getDeliveries coursierInfo)).map fun queues =>
        { source with queues := queues, coursiers := source.coursiers ++ [coursier] }
  | .redis call =>
      (Dispatch.step? source.queues (.redis call)).map fun queues =>
        { source with queues := queues }
  | .distance call reply =>
      (Dispatch.step? source.queues (.distance call reply)).map fun queues =>
        { source with queues := queues }
  | .acceptedDelivery newId now body =>
      some (source.answer (acceptedDelivery source.deliveries newId now body))
  | .collectDelivery => some (source.answer (collectDelivery source.deliveries))
  | .confirmDelivery deliveryId =>
      some (source.answer (confirmDelivery source.deliveries deliveryId))
  | .cancelDelivery deliveryId =>
      some (source.answer (cancelDelivery source.deliveries deliveryId))

end Deliveries

end Proximity.Dispatch
