import Mathlib.Data.Rat.Defs
import Mathlib.Algebra.Order.Ring.Unbundled.Rat
import Mathlib.Logic.Function.Basic
import Proximity.Systems.RedisList
import Proximity.Systems.Run
import Proximity.Systems.Tally

/-!
# Courier dispatch over the city queues

`setupredis.js` keeps one Redis list of order texts per city, and `getDeliveries`
of `coursierService.js` scans it for the nearest order.  Every Redis command and
every reply of the routing service is one atomic step here, so the steps of any
number of `getDeliveries` calls and `addOrder` calls interleave freely.
-/

namespace Proximity.Dispatch

open Proximity.Systems

/-- What a city list holds: the JSON text of an order, or the text `REMOVEIT`
that `getOrderAtRemove` writes over the entry it is about to delete. -/
inductive Entry (Order : Type) where
  | json (order : Order)
  | toremove
  deriving DecidableEq, Repr

/-- The part of the courier's request body that `getDeliveries` reads, less the
coordinates, which only the routing service sees. -/
structure CoursierInfo (City : Type) where
  city : City
  rayon : ℚ
  deriving DecidableEq, Repr

/-- The local `closestOrder`; the distance is `undefined` when the routing
request failed. -/
structure Closest (Order : Type) where
  order : Order
  distance : Option ℚ
  deriving DecidableEq, Repr

/-- The comparison `a < b` of two possibly undefined distances. -/
def nearer : Option ℚ → Option ℚ → Bool
  | some first, some second => decide (first < second)
  | _, _ => false

/-- The comparison `distance <= coursierInfo.rayon`. -/
def within : Option ℚ → ℚ → Bool
  | some distance, rayon => decide (distance ≤ rayon)
  | none, _ => false

/-- The await point a `getDeliveries` call stands at, with the locals that are
still read.  `looked` is the reply to the `LINDEX` of `getOrderAtRemove`; `taken`
records the entry that the call's `RPOP` or `LSET` took from the list. -/
inductive Await (Order : Type) where
  | getLen
  | addCoursier
  | brpoplpush
  | getOrder
  | distanceOfRemoved (order : Order)
  | addOrder (order : Order)
  | getOrderAtFirst
  | distanceOfFirst (order : Order)
  | loopLen (curs closestIndex : Nat) (closest : Closest Order)
  | getOrderAt (curs closestIndex : Nat) (closest : Closest Order)
  | distanceOfCurrent (curs closestIndex : Nat) (closest : Closest Order) (current : Order)
  | removeLindex (closestIndex : Nat) (closest : Closest Order)
  | removeLset (closestIndex : Nat) (closest : Closest Order) (looked : Option (Entry Order))
  | removeLrem (closest : Closest Order) (looked : Option (Entry Order)) (taken : Entry Order)
  | returned (result : Closest Order) (taken : Entry Order)
  | undefined
  deriving DecidableEq, Repr

/-- One `getDeliveries` call; `count` is the number of distances asked for. -/
structure Call (City Order : Type) where
  coursierInfo : CoursierInfo City
  count : Nat
  await : Await Order
  deriving DecidableEq, Repr

/-- After the `while` test fails: remove the nearest order when it is in range. -/
def afterScan (rayon : ℚ) (closestIndex : Nat) (closest : Closest Order) : Await Order :=
  if within closest.distance rayon then .removeLindex closestIndex closest else .undefined

/-- The body of the scan once the distance of the entry at `curs` is known. -/
def updateClosest (curs closestIndex : Nat) (closest : Closest Order) (current : Order)
    (currentDistance : Option ℚ) : Await Order :=
  if nearer currentDistance closest.distance then
    .loopLen (curs + 1) curs ⟨current, currentDistance⟩
  else .loopLen (curs + 1) closestIndex closest

section Steps

variable {City Order : Type} [DecidableEq Order]

/-- The Redis command a call waits for, executed on the list of its city; `none`
when the call waits for something else or its command blocks.  A reply that is
missing or is the bare `REMOVEIT` makes `JSON.parse` or the field access after it
throw, and the `catch` of `getDeliveries` ends the call without a result. -/
def redisCommand? (rayon : ℚ) (list : List (Entry Order)) :
    Await Order → Option (List (Entry Order) × Await Order)
  | .getLen => some (list, if RedisList.llen list = 0 then .addCoursier else .getOrderAtFirst)
  | .addCoursier => some (list, .brpoplpush)
  | .brpoplpush => (RedisList.brpoplpush? list).map fun rotated => (rotated, .getOrder)
  | .getOrder =>
      some ((RedisList.rpop list).2,
        match (RedisList.rpop list).1 with
        | some (.json order) => .distanceOfRemoved order
        | _ => .undefined)
  | .addOrder order => some (RedisList.rpush list (.json order), .brpoplpush)
  | .getOrderAtFirst =>
      some (list,
        match RedisList.lindex list 0 with
        | some (.json order) => .distanceOfFirst order
        | _ => .undefined)
  | .loopLen curs closestIndex closest =>
      some (list,
        if curs < RedisList.llen list then .getOrderAt curs closestIndex closest
        else afterScan rayon closestIndex closest)
  | .getOrderAt curs closestIndex closest =>
      some (list,
        match RedisList.lindex list curs with
        | some (.json current) => .distanceOfCurrent curs closestIndex closest current
        | _ => .undefined)
  | .removeLindex closestIndex closest =>
      some (list, .removeLset closestIndex closest (RedisList.lindex list closestIndex))
  | .removeLset closestIndex closest looked =>
      -- The error reply of `LSET` on an index past the end is thrown.
      match RedisList.lindex list closestIndex, RedisList.lset? list closestIndex .toremove with
      | some taken, some marked => some (marked, .removeLrem closest looked taken)
      | _, _ => some (list, .undefined)
  | .removeLrem closest looked taken =>
      -- `getOrderAtRemove` parses what its `LINDEX` read; its result is not used.
      some (RedisList.lrem list .toremove,
        if looked = some .toremove then .undefined else .returned closest taken)
  | _ => none

/-- The reply of the routing service; `none` is the `undefined` of a failure. -/
def distanceReply? (rayon : ℚ) (distance : Option ℚ) : Await Order → Option (Await Order)
  | .distanceOfRemoved order =>
      some (if within distance rayon then .returned ⟨order, distance⟩ (.json order)
        else .addOrder order)
  | .distanceOfFirst order => some (.loopLen 1 0 ⟨order, distance⟩)
  | .distanceOfCurrent curs closestIndex closest current =>
      some (updateClosest curs closestIndex closest current distance)
  | _ => none

/-- The city lists, the calls of all couriers, and the history of `addOrder`. -/
structure State (City Order : Type) where
  lists : City → List (Entry Order)
  calls : List (Call City Order)
  added : City → List Order

def State.initial : State City Order := ⟨fun _ => [], [], fun _ => []⟩

inductive Action (City Order : Type) where
  | addOrder (city : City) (order : Order)
  | getDeliveries (coursierInfo : CoursierInfo City)
  | redis (call : Nat)
  | distance (call : Nat) (reply : Option ℚ)
  deriving DecidableEq, Repr

variable [DecidableEq City]

def step? (source : State City Order) : Action City Order → Option (State City Order)
  | .addOrder city order =>
      some { source with
        lists := Function.update source.lists city
          (RedisList.rpush (source.lists city) (.json order))
        added := Function.update source.added city (source.added city ++ [order]) }
  | .getDeliveries coursierInfo =>
      some { source with calls := source.calls ++ [⟨coursierInfo, 0, .getLen⟩] }
  | .redis index => do
      let call ← source.calls[index]?
      let (list, await) ← redisCommand? call.coursierInfo.rayon
        (source.lists call.coursierInfo.city) call.await
      some { source with
        lists := Function.update source.lists call.coursierInfo.city list
        calls := source.calls.set index { call with await := await } }
  | .distance index reply => do
      let call ← source.calls[index]?
      let await ← distanceReply? call.coursierInfo.rayon reply call.await
      some { source with
        calls := source.calls.set index { call with count := call.count + 1, await := await } }

end Steps

end Proximity.Dispatch
