import Proximity.Dispatch.Places
import Proximity.Systems.Interleaving

/-!
# One scan at a time

While at most one `getDeliveries` call runs, new orders come behind everything it has read,
so its `LSET` finds the list as the scan left it.
-/

namespace Proximity.Dispatch

open Proximity.Systems

namespace Await

variable {Order : Type}

/-- The call has been answered. -/
def ended : Await Order → Bool
  | .returned _ _ | .undefined => true
  | _ => false

/-- What the call has read of the list is still there. -/
def Sees (list : List (Entry Order)) : Await Order → Prop
  | .distanceOfFirst order => list[0]? = some (.json order)
  | .loopLen _ closestIndex closest => list[closestIndex]? = some (.json closest.order)
  | .getOrderAt _ closestIndex closest => list[closestIndex]? = some (.json closest.order)
  | .distanceOfCurrent curs closestIndex closest current =>
      list[closestIndex]? = some (.json closest.order) ∧ list[curs]? = some (.json current)
  | .removeLindex closestIndex closest => list[closestIndex]? = some (.json closest.order)
  | .removeLset closestIndex closest looked =>
      list[closestIndex]? = some (.json closest.order) ∧ looked = some (.json closest.order)
  | _ => True

theorem sees_of_ended {list : List (Entry Order)} {await : Await Order}
    (ended : await.ended = true) : await.Sees list := by
  cases await with
  | returned result taken => trivial
  | undefined => trivial
  | _ => cases ended

/-- Orders are added behind everything that was read. -/
theorem Sees.rpush {list : List (Entry Order)} {await : Await Order} (sees : await.Sees list)
    (entry : Entry Order) : await.Sees (RedisList.rpush list entry) := by
  have stays : ∀ {index : Nat} {read : Entry Order}, list[index]? = some read →
      (RedisList.rpush list entry)[index]? = some read := by
    intro index read there
    have inside := (List.getElem?_eq_some_iff.mp there).1
    rw [RedisList.rpush, List.getElem?_append_left inside, there]
  cases await with
  | distanceOfFirst order => exact stays sees
  | loopLen curs closestIndex closest => exact stays sees
  | getOrderAt curs closestIndex closest => exact stays sees
  | distanceOfCurrent curs closestIndex closest current => exact ⟨stays sees.1, stays sees.2⟩
  | removeLindex closestIndex closest => exact stays sees
  | removeLset closestIndex closest looked => exact ⟨stays sees.1, sees.2⟩
  | _ => trivial

theorem Sees.undisturbed [DecidableEq Order] {list : List (Entry Order)} {await : Await Order}
    (sees : await.Sees list) : await.Undisturbed list := by
  cases await with
  | removeLset closestIndex closest looked =>
      obtain ⟨there, rfl⟩ := sees
      simp [Undisturbed, RedisList.lindex, there]
  | _ => trivial

end Await

section Calls

variable {Order : Type} [DecidableEq Order]

/-- A call's own command keeps what the call has read, or ends its use. -/
theorem redisCommand_sees {rayon : ℚ} {list list' : List (Entry Order)}
    {await await' : Await Order} (sees : await.Sees list)
    (replied : redisCommand? rayon list await = some (list', await')) : await'.Sees list' := by
  cases await with
  | getLen =>
      obtain ⟨rfl, rfl⟩ := Prod.mk.inj (Option.some.inj replied)
      split <;> trivial
  | addCoursier =>
      obtain ⟨rfl, rfl⟩ := Prod.mk.inj (Option.some.inj replied)
      trivial
  | brpoplpush =>
      obtain ⟨rotated, -, same⟩ := Option.map_eq_some_iff.mp replied
      obtain ⟨rfl, rfl⟩ := Prod.mk.inj same
      trivial
  | getOrder =>
      obtain ⟨rfl, rfl⟩ := Prod.mk.inj (Option.some.inj replied)
      split <;> trivial
  | addOrder order =>
      obtain ⟨rfl, rfl⟩ := Prod.mk.inj (Option.some.inj replied)
      trivial
  | getOrderAtFirst =>
      obtain ⟨rfl, rfl⟩ := Prod.mk.inj (Option.some.inj replied)
      split
      case h_1 order there => exact there
      case h_2 => trivial
  | loopLen curs closestIndex closest =>
      obtain ⟨rfl, rfl⟩ := Prod.mk.inj (Option.some.inj replied)
      unfold afterScan
      split
      · exact sees
      · split
        · exact sees
        · trivial
  | getOrderAt curs closestIndex closest =>
      obtain ⟨rfl, rfl⟩ := Prod.mk.inj (Option.some.inj replied)
      split
      case h_1 current there => exact ⟨sees, there⟩
      case h_2 => trivial
  | removeLindex closestIndex closest =>
      obtain ⟨rfl, rfl⟩ := Prod.mk.inj (Option.some.inj replied)
      exact ⟨sees, sees⟩
  | removeLset closestIndex closest looked =>
      simp only [redisCommand?] at replied
      split at replied <;> obtain ⟨rfl, rfl⟩ := Prod.mk.inj (Option.some.inj replied) <;> trivial
  | removeLrem closest looked taken =>
      obtain ⟨rfl, rfl⟩ := Prod.mk.inj (Option.some.inj replied)
      split <;> trivial
  | _ => cases replied

omit [DecidableEq Order] in
theorem distanceReply_sees {rayon : ℚ} {distance : Option ℚ} {list : List (Entry Order)}
    {await await' : Await Order} (sees : await.Sees list)
    (replied : distanceReply? rayon distance await = some await') : await'.Sees list := by
  cases await with
  | distanceOfRemoved order =>
      cases replied
      split <;> trivial
  | distanceOfFirst order =>
      cases replied
      exact sees
  | distanceOfCurrent curs closestIndex closest current =>
      cases replied
      unfold updateClosest
      split
      · exact sees.2
      · exact sees.1
  | _ => cases replied

/-- An answered call has no command to send and no reply to wait for. -/
theorem ended_of_command {rayon : ℚ} {list : List (Entry Order)} {await : Await Order}
    {after : List (Entry Order) × Await Order}
    (replied : redisCommand? rayon list await = some after) : await.ended = false := by
  cases await with
  | returned result taken => cases replied
  | undefined => cases replied
  | _ => rfl

omit [DecidableEq Order] in
theorem ended_of_reply {rayon : ℚ} {distance : Option ℚ} {await await' : Await Order}
    (replied : distanceReply? rayon distance await = some await') : await.ended = false := by
  cases await with
  | returned result taken => cases replied
  | undefined => cases replied
  | _ => rfl

omit [DecidableEq Order] in
theorem result_of_running {await : Await Order} (running : await.ended = false) :
    await.result = none := by
  cases await with
  | returned result taken => cases running
  | _ => rfl

end Calls

section Scans

variable {City Order : Type} [DecidableEq City] [DecidableEq Order]

/-- A running call has a key, and so no two of them may run. -/
def Call.running (call : Call City Order) : Option Unit :=
  if call.await.ended = true then none else some ()

/-- At most one call runs, and it finds what it has read. -/
structure Steady (queues : State City Order) : Prop where
  dispatched : Dispatched queues
  alone : Exclusive Call.running queues.calls
  sees : ∀ call ∈ queues.calls, call.await.Sees (queues.lists call.coursierInfo.city)

omit [DecidableEq City] [DecidableEq Order] in
theorem running_eq_some_iff {call : Call City Order} {key : Unit} :
    call.running = some key ↔ call.await.ended = false := by
  unfold Call.running
  cases call.await.ended with
  | true => simp
  | false => simp

/-- The one running call goes on with a list that it still sees. -/
theorem proceed_steady {source : State City Order} (steady : Steady source) {index : Nat}
    {before : Call City Order} (found : source.calls[index]? = some before)
    (running : before.await.ended = false) (after : Call City Order)
    (same : after.coursierInfo = before.coursierInfo) {list : List (Entry Order)}
    (sees : after.await.Sees list) (dispatched : Dispatched (source.proceed index after list)) :
    Steady (source.proceed index after list) where
  dispatched := dispatched
  alone := steady.alone.set found fun _ _ => Or.inl (running_eq_some_iff.mpr running)
  sees := by
    intro call member
    rcases List.mem_or_eq_of_mem_set member with old | rfl
    · cases ended : call.await.ended with
      | true => exact Await.sees_of_ended ended
      | false =>
          obtain ⟨place, stands⟩ := List.mem_iff_getElem?.mp member
          have here : place = index := by
            by_contra elsewhere
            have there : source.calls[place]? = some call := by
              rw [← stands]
              exact (List.getElem?_set_ne (Ne.symm elsewhere)).symm
            exact elsewhere (steady.alone place index call before () there found
              (running_eq_some_iff.mpr ended) (running_eq_some_iff.mpr running))
          subst here
          have inside := (List.getElem?_eq_some_iff.mp found).1
          cases (List.getElem?_set_self inside).symm.trans stands
          simpa [State.proceed, same] using sees
    · simpa [State.proceed, same] using sees

omit [DecidableEq City] [DecidableEq Order] in
theorem steady_initial [DecidableEq City] [DecidableEq Order] :
    Steady (State.initial : State City Order) where
  dispatched := dispatched_initial
  alone := fun _ _ _ _ _ stands => absurd stands (by simp [State.initial])
  sees := fun _ member => absurd member (by simp [State.initial])

theorem addOrder_steady {source : State City Order} (steady : Steady source) (city : City)
    (order : Order) :
    Steady { source with
      lists := Function.update source.lists city
        (RedisList.rpush (source.lists city) (.json order))
      added := Function.update source.added city (source.added city ++ [order]) } where
  dispatched := addOrder_dispatched steady.dispatched city order
  alone := steady.alone
  sees := by
    intro call member
    have sees := steady.sees call member
    by_cases same : call.coursierInfo.city = city
    · simpa only [same, Function.update_self] using (same ▸ sees).rpush (.json order)
    · simpa only [Function.update_of_ne same] using sees

/-- A call begins when every earlier one has been answered. -/
theorem getDeliveries_steady {source : State City Order} (steady : Steady source)
    (ended : ∀ call ∈ source.calls, call.await.ended = true) (coursierInfo : CoursierInfo City) :
    Steady { source with calls := source.calls ++ [⟨coursierInfo, 0, .getLen⟩] } where
  dispatched := getDeliveries_dispatched steady.dispatched coursierInfo
  alone := by
    have last : ∀ {index : Nat} {call : Call City Order},
        (source.calls ++ [⟨coursierInfo, 0, .getLen⟩])[index]? = some call →
        call.await.ended = false → index = source.calls.length := by
      intro index call stands running
      rcases Nat.lt_trichotomy index source.calls.length with inside | here | past
      · rw [List.getElem?_append_left inside] at stands
        rw [ended call (List.mem_of_getElem? stands)] at running
        cases running
      · exact here
      · have bound := (List.getElem?_eq_some_iff.mp stands).1
        rw [List.length_append, List.length_singleton] at bound
        omega
    intro left right first second key at_left at_right first_runs second_runs
    exact (last at_left (running_eq_some_iff.mp first_runs)).trans
      (last at_right (running_eq_some_iff.mp second_runs)).symm
  sees := by
    intro call member
    rcases List.mem_append.mp member with old | new
    · exact steady.sees call old
    · cases List.mem_singleton.mp new
      trivial

theorem redis_steady {source target : State City Order} (steady : Steady source) {index : Nat}
    (stepped : step? source (.redis index) = some target) : Steady target := by
  have dispatched : Dispatched target :=
    (redis_dispatched_iff steady.dispatched stepped).mpr fun call found =>
      (steady.sees call (List.mem_of_getElem? found)).undisturbed
  obtain ⟨call, found, rest⟩ := Option.bind_eq_some_iff.mp stepped
  obtain ⟨⟨list, await⟩, replied, reached⟩ := Option.bind_eq_some_iff.mp rest
  cases reached
  exact proceed_steady steady found (ended_of_command replied) { call with await := await } rfl
    (redisCommand_sees (steady.sees call (List.mem_of_getElem? found)) replied) dispatched

theorem distance_steady {source target : State City Order} (steady : Steady source)
    {index : Nat} {reply : Option ℚ}
    (stepped : step? source (.distance index reply) = some target) : Steady target := by
  have dispatched := distance_dispatched steady.dispatched stepped
  obtain ⟨call, found, rest⟩ := Option.bind_eq_some_iff.mp stepped
  obtain ⟨await, replied, reached⟩ := Option.bind_eq_some_iff.mp rest
  cases reached
  have next := proceed_steady steady found (ended_of_reply replied)
    { call with count := call.count + 1, await := await } rfl
    (distanceReply_sees (steady.sees call (List.mem_of_getElem? found)) replied)
  simpa [State.proceed] using next (by simpa [State.proceed] using dispatched)

/-! ## What the steps of a call leave alone -/

theorem added_of_redis {source target : State City Order} {index : Nat}
    (stepped : step? source (.redis index) = some target) : target.added = source.added := by
  obtain ⟨call, -, rest⟩ := Option.bind_eq_some_iff.mp stepped
  obtain ⟨next, -, reached⟩ := Option.bind_eq_some_iff.mp rest
  cases reached
  rfl

theorem added_of_distance {source target : State City Order} {index : Nat} {reply : Option ℚ}
    (stepped : step? source (.distance index reply) = some target) :
    target.added = source.added := by
  obtain ⟨call, -, rest⟩ := Option.bind_eq_some_iff.mp stepped
  obtain ⟨await, -, reached⟩ := Option.bind_eq_some_iff.mp rest
  cases reached
  rfl

/-- A call that goes on had returned nothing. -/
theorem proceed_returned {source : State City Order} {index : Nat} {before : Call City Order}
    (found : source.calls[index]? = some before) (running : before.await.ended = false)
    (after : Call City Order) (list : List (Entry Order)) (city : City) (order : Order) :
    source.returned city order ≤ (source.proceed index after list).returned city order := by
  have change := tally_set (fun call : Call City Order =>
    if call.coursierInfo.city = city then call.await.returns order else 0) found after
  have nothing := returns_of_eq_none (result_of_running running) order
  simp only [nothing, ite_self, Nat.add_zero] at change
  simp only [State.proceed, State.returned, change]
  exact Nat.le_add_right _ _

theorem returned_mono {source target : State City Order} {action : Action City Order}
    (stepped : step? source action = some target) (city : City) (order : Order) :
    source.returned city order ≤ target.returned city order := by
  cases action with
  | addOrder _ _ =>
      cases stepped
      exact Nat.le_refl _
  | getDeliveries coursierInfo =>
      cases stepped
      simp only [State.returned, tally_concat]
      exact Nat.le_add_right _ _
  | redis index =>
      obtain ⟨call, found, rest⟩ := Option.bind_eq_some_iff.mp stepped
      obtain ⟨⟨list, await⟩, replied, reached⟩ := Option.bind_eq_some_iff.mp rest
      cases reached
      exact proceed_returned found (ended_of_command replied) { call with await := await } list
        city order
  | distance index reply =>
      obtain ⟨call, found, rest⟩ := Option.bind_eq_some_iff.mp stepped
      obtain ⟨await, replied, reached⟩ := Option.bind_eq_some_iff.mp rest
      cases reached
      exact proceed_returned found (ended_of_reply replied)
        { call with count := call.count + 1, await := await }
        (source.lists call.coursierInfo.city) city order

/-- A call that has returned an order counts in its city. -/
theorem returned_pos {source : State City Order} {call : Call City Order} {order : Order}
    (member : call ∈ source.calls) (returned : call.await.result = some order) :
    0 < source.returned call.coursierInfo.city order := by
  have weighed := weight_le_tally (fun other : Call City Order =>
    if other.coursierInfo.city = call.coursierInfo.city then other.await.returns order else 0)
    member
  simp only [if_true] at weighed
  rw [Await.returns, if_pos returned] at weighed
  exact weighed

end Scans

end Proximity.Dispatch
