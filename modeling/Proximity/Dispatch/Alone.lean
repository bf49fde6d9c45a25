import Proximity.Dispatch.Places

/-!
# A courier alone at a queue

While nobody else uses the queue of its city, what a `getDeliveries` call does next is a
function of the queue, of the call itself, and of what the routing service will reply.
-/

namespace Proximity.Dispatch

open Proximity.Systems StateTransition

/-- The order whose distance the call waits for. -/
def Await.asks {Order : Type} : Await Order → Option Order
  | .distanceOfRemoved order => some order
  | .distanceOfFirst order => some order
  | .distanceOfCurrent _ _ _ current => some current
  | _ => none

/-- The queue of a call's city and the call; `asked` is the history of the orders whose
distance it asked for. -/
structure Alone (City Order : Type) where
  list : List (Entry Order)
  call : Call City Order
  asked : List Order
  deriving DecidableEq, Repr

variable {City Order : Type} [DecidableEq Order]

/-- What the call does next.  The reply of the routing service may depend on how many
distances were asked for before. -/
def Alone.next? (reply : Nat → Order → Option ℚ) (source : Alone City Order) :
    Option (Alone City Order) :=
  match source.call.await.asks with
  | some order =>
      (distanceReply? source.call.coursierInfo.rayon (reply source.call.count order)
        source.call.await).map fun await =>
          { source with
            call := { source.call with count := source.call.count + 1, await := await }
            asked := source.asked ++ [order] }
  | none =>
      (redisCommand? source.call.coursierInfo.rayon source.list source.call.await).map
        fun after =>
          { source with list := after.1, call := { source.call with await := after.2 } }

namespace Alone

theorem next?_of_asks {reply : Nat → Order → Option ℚ} {source target : Alone City Order}
    {order : Order} (asks : source.call.await.asks = some order)
    (next : source.next? reply = some target) :
    ∃ await, distanceReply? source.call.coursierInfo.rayon (reply source.call.count order)
        source.call.await = some await ∧
      target = { source with
        call := { source.call with count := source.call.count + 1, await := await }
        asked := source.asked ++ [order] } := by
  simp only [next?, asks] at next
  obtain ⟨await, replied, rfl⟩ := Option.map_eq_some_iff.mp next
  exact ⟨await, replied, rfl⟩

theorem next?_of_command {reply : Nat → Order → Option ℚ} {source target : Alone City Order}
    (asks : source.call.await.asks = none) (next : source.next? reply = some target) :
    ∃ list await, redisCommand? source.call.coursierInfo.rayon source.list source.call.await =
        some (list, await) ∧
      target = { source with list := list, call := { source.call with await := await } } := by
  simp only [next?, asks] at next
  obtain ⟨⟨list, await⟩, replied, rfl⟩ := Option.map_eq_some_iff.mp next
  exact ⟨list, await, replied, rfl⟩

/-- Only the answered call, and the call that waits at an empty queue, do nothing more. -/
theorem next?_eq_none_iff {reply : Nat → Order → Option ℚ} {source : Alone City Order} :
    source.next? reply = none ↔
      (∃ result taken, source.call.await = .returned result taken) ∨
        source.call.await = .undefined ∨ source.call.await = .brpoplpush ∧ source.list = [] := by
  obtain ⟨list, ⟨coursierInfo, count, await⟩, asked⟩ := source
  cases await with
  | brpoplpush => simp [next?, Await.asks, redisCommand?, RedisList.brpoplpush?]
  | returned result taken => simp [next?, Await.asks, redisCommand?]
  | undefined => simp [next?, Await.asks, redisCommand?]
  | removeLset closestIndex closest looked =>
      simp only [next?, Await.asks, redisCommand?]
      split <;> simp
  | _ => simp [next?, Await.asks, redisCommand?, distanceReply?]

theorem coursierInfo_of_next? {reply : Nat → Order → Option ℚ} {source target : Alone City Order}
    (next : source.next? reply = some target) :
    target.call.coursierInfo = source.call.coursierInfo := by
  cases asks : source.call.await.asks with
  | none =>
      obtain ⟨list, await, -, rfl⟩ := next?_of_command asks next
      rfl
  | some order =>
      obtain ⟨await, -, rfl⟩ := next?_of_asks asks next
      rfl

end Alone

/-! ## The steps of the system -/

section Steps

variable [DecidableEq City]

/-- The steps of one call, when the routing service replies as `reply` says. -/
def Own (reply : Nat → Order → Option ℚ) (index : Nat) (source : State City Order) :
    Action City Order → Prop
  | .redis other => other = index
  | .distance other distance => other = index ∧
      ∀ call order, source.calls[index]? = some call → call.await.asks = some order →
        distance = reply call.count order
  | _ => False

/-- A call and the list of its city. -/
def State.alone? (source : State City Order) (index : Nat) (asked : List Order) :
    Option (Alone City Order) :=
  source.calls[index]?.map fun call => ⟨source.lists call.coursierInfo.city, call, asked⟩

omit [DecidableEq Order] [DecidableEq City] in
theorem alone?_eq_some_iff {source : State City Order} {index : Nat} {asked : List Order}
    {alone : Alone City Order} :
    source.alone? index asked = some alone ↔
      source.calls[index]? = some alone.call ∧
        alone.list = source.lists alone.call.coursierInfo.city ∧ alone.asked = asked := by
  obtain ⟨list, call, history⟩ := alone
  simp only [State.alone?, Option.map_eq_some_iff, Alone.mk.injEq]
  constructor
  · rintro ⟨call, found, rfl, rfl, rfl⟩
    exact ⟨found, rfl, rfl⟩
  · rintro ⟨found, rfl, rfl⟩
    exact ⟨call, found, rfl, rfl, rfl⟩

omit [DecidableEq Order] in
theorem alone?_proceed {source : State City Order} {index : Nat} {before : Call City Order}
    (found : source.calls[index]? = some before) {after : Call City Order}
    (same : after.coursierInfo = before.coursierInfo) (list : List (Entry Order))
    (asked : List Order) :
    (source.proceed index after list).alone? index asked = some ⟨list, after, asked⟩ := by
  have inside := (List.getElem?_eq_some_iff.mp found).1
  rw [alone?_eq_some_iff]
  exact ⟨List.getElem?_set_self inside, by simp [State.proceed, same], rfl⟩

theorem step?_of_next? {reply : Nat → Order → Option ℚ} {source : State City Order} {index : Nat}
    {asked : List Order} {alone after : Alone City Order}
    (stands : source.alone? index asked = some alone) (next : alone.next? reply = some after) :
    ∃ action, Own reply index source action ∧
      step? source action = some (source.proceed index after.call after.list) := by
  obtain ⟨found, list, -⟩ := alone?_eq_some_iff.mp stands
  cases asks : alone.call.await.asks with
  | none =>
      obtain ⟨after_list, await, replied, rfl⟩ := Alone.next?_of_command asks next
      refine ⟨.redis index, rfl, ?_⟩
      simp [step?, found, ← list, replied, State.proceed]
  | some order =>
      obtain ⟨await, replied, rfl⟩ := Alone.next?_of_asks asks next
      refine ⟨.distance index (reply alone.call.count order), ⟨rfl, ?_⟩, ?_⟩
      · intro call other there waits
        cases found.symm.trans there
        cases asks.symm.trans waits
        rfl
      · simp [step?, found, list, replied, State.proceed]

theorem next?_of_step? {reply : Nat → Order → Option ℚ} {source target : State City Order}
    {index : Nat} {asked : List Order} {alone : Alone City Order} {action : Action City Order}
    (stands : source.alone? index asked = some alone) (own : Own reply index source action)
    (stepped : step? source action = some target) :
    ∃ after, alone.next? reply = some after ∧
      target.alone? index after.asked = some after := by
  obtain ⟨found, list, -⟩ := alone?_eq_some_iff.mp stands
  cases action with
  | addOrder city order => cases own
  | getDeliveries coursierInfo => cases own
  | redis other =>
      cases own
      obtain ⟨call, there, rest⟩ := Option.bind_eq_some_iff.mp stepped
      cases found.symm.trans there
      obtain ⟨⟨after_list, await⟩, replied, reached⟩ := Option.bind_eq_some_iff.mp rest
      cases reached
      rw [← list] at replied
      have silent : alone.call.await.asks = none := by
        revert replied
        cases alone.call.await <;> simp [redisCommand?, Await.asks]
      refine ⟨{ alone with list := after_list, call := { alone.call with await := await } },
        ?_, alone?_proceed found (by rfl) _ _⟩
      simp [Alone.next?, silent, replied]
  | distance other reply' =>
      obtain ⟨rfl, replies⟩ := own
      obtain ⟨call, there, rest⟩ := Option.bind_eq_some_iff.mp stepped
      cases found.symm.trans there
      obtain ⟨await, replied, reached⟩ := Option.bind_eq_some_iff.mp rest
      cases reached
      obtain ⟨order, asks⟩ : ∃ order, alone.call.await.asks = some order := by
        revert replied
        cases alone.call.await <;> simp [distanceReply?, Await.asks]
      rw [replies alone.call order found asks] at replied
      refine ⟨{ alone with
          call := { alone.call with count := alone.call.count + 1, await := await }
          asked := alone.asked ++ [order] }, ?_, ?_⟩
      · simp [Alone.next?, asks, replied]
      · rw [alone?_eq_some_iff]
        exact ⟨List.getElem?_set_self (List.getElem?_eq_some_iff.mp found).1, list, rfl⟩

/-- A run in which nobody else uses the queue of the call is, for the call, one alone. -/
theorem reaches_of_run {reply : Nat → Order → Option ℚ} {source target : State City Order}
    {index : Nat} {asked : List Order} {alone : Alone City Order}
    {actions : List (Action City Order)}
    (stands : source.alone? index asked = some alone)
    (undisturbed : EveryStep step? (fun before action after => Own reply index before action ∨
      ∀ asked, after.alone? index asked = before.alone? index asked) source actions)
    (reached : run? step? source actions = some target) :
    ∃ after, Reaches (Alone.next? reply) alone after ∧
      target.alone? index after.asked = some after := by
  induction actions generalizing source asked alone with
  | nil =>
      cases reached
      obtain ⟨-, -, rfl⟩ := alone?_eq_some_iff.mp stands
      exact ⟨alone, Relation.ReflTransGen.refl, stands⟩
  | cons action rest ih =>
      obtain ⟨middle, stepped, remaining⟩ := Option.bind_eq_some_iff.mp reached
      obtain ⟨here, later⟩ := undisturbed middle stepped
      rcases here with own | elsewhere
      · obtain ⟨next, goes, stands_next⟩ := next?_of_step? stands own stepped
        obtain ⟨after, reaches, ends⟩ := ih stands_next later remaining
        exact ⟨after, reaches.head goes, ends⟩
      · exact ih ((elsewhere asked).trans stands) later remaining

/-- What a call does alone, it can do in the system, whatever the other calls stand at. -/
theorem run_of_reaches {reply : Nat → Order → Option ℚ} {source : State City Order}
    {index : Nat} {asked : List Order} {alone after : Alone City Order}
    (stands : source.alone? index asked = some alone)
    (reaches : Reaches (Alone.next? reply) alone after) :
    ∃ actions target, run? step? source actions = some target ∧
      EveryStep step? (fun before action _ => Own reply index before action) source actions ∧
      target.alone? index after.asked = some after := by
  induction reaches using Relation.ReflTransGen.head_induction_on generalizing source asked with
  | refl =>
      obtain ⟨-, -, rfl⟩ := alone?_eq_some_iff.mp stands
      exact ⟨[], source, rfl, trivial, stands⟩
  | @head before middle next _ ih =>
      obtain ⟨action, own, stepped⟩ := step?_of_next? stands next
      obtain ⟨found, -, -⟩ := alone?_eq_some_iff.mp stands
      have stands_next := alone?_proceed found (Alone.coursierInfo_of_next? next)
        middle.list middle.asked
      obtain ⟨actions, target, reached, every, ends⟩ := ih stands_next
      refine ⟨action :: actions, target, ?_, EveryStep.cons stepped own every, ends⟩
      rw [run?, stepped]
      exact reached

end Steps

end Proximity.Dispatch
