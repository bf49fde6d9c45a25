import Proximity.Dispatch.Coursier

/-!
# Where an order is

An order that `addOrder` pushed is queued in its city list, held by a running
`getDeliveries` call that will return it or push it back, or returned.  Every
step keeps that account, except an `LSET` of `getOrderAtRemove` that finds the
list disturbed since the scan.
-/

namespace Proximity.Dispatch

open Proximity.Systems

namespace Await

variable {Order : Type} [DecidableEq Order]

/-- The order the call is bound to return or to push back. -/
def holding : Await Order → Option Order
  | .distanceOfRemoved order => some order
  | .addOrder order => some order
  | .removeLrem closest looked _ => if looked = some .toremove then none else some closest.order
  | _ => none

/-- The order the call has returned. -/
def result : Await Order → Option Order
  | .returned closest _ => some closest.order
  | _ => none

/-- The entry that the call's `getOrder` or `getOrderAtRemove` took from the list. -/
def taken : Await Order → Option (Entry Order)
  | .distanceOfRemoved order => some (.json order)
  | .addOrder order => some (.json order)
  | .removeLrem _ _ taken => some taken
  | .returned _ taken => some taken
  | _ => none

/-- The order held or returned is the entry that was taken. -/
def TookItsOrder (await : Await Order) : Prop :=
  ∀ order, await.holding = some order ∨ await.result = some order →
    await.taken = some (.json order)

def holds (order : Order) (await : Await Order) : Nat :=
  if await.holding = some order then 1 else 0

def returns (order : Order) (await : Await Order) : Nat :=
  if await.result = some order then 1 else 0

/-- The `LSET` of `getOrderAtRemove` finds what the scan chose: nothing at the
index, the chosen order, or the mark its own `LINDEX` already read. -/
def Undisturbed (list : List (Entry Order)) : Await Order → Prop
  | .removeLset closestIndex closest looked =>
      match RedisList.lindex list closestIndex with
      | none => True
      | some (.json order) => order = closest.order ∧ looked ≠ some .toremove
      | some .toremove => looked = some .toremove
  | _ => True

end Await

section Call

variable {Order : Type} [DecidableEq Order]

/-- One call's command neither loses nor duplicates an order. -/
def Balanced (list list' : List (Entry Order)) (await await' : Await Order) : Prop :=
  ∀ order, list'.count (.json order) + await'.holds order + await'.returns order =
    list.count (.json order) + await.holds order + await.returns order

theorem holds_of_eq_none {await : Await Order} (free : await.holding = none) (order : Order) :
    await.holds order = 0 := by
  simp [Await.holds, free]

theorem returns_of_eq_none {await : Await Order} (running : await.result = none)
    (order : Order) : await.returns order = 0 := by
  simp [Await.returns, running]

/-- A call that holds and has returned nothing, before and after, is balanced
when its command keeps the count of every order. -/
theorem balanced_of_count {list list' : List (Entry Order)} {await await' : Await Order}
    (count : ∀ order, list'.count (.json order) = list.count (.json order))
    (before : await.holding = none ∧ await.result = none)
    (after : await'.holding = none ∧ await'.result = none) : Balanced list list' await await' := by
  intro order
  rw [count order, holds_of_eq_none before.1, returns_of_eq_none before.2,
    holds_of_eq_none after.1, returns_of_eq_none after.2]

theorem took_of_eq_none {await : Await Order}
    (free : await.holding = none ∧ await.result = none) : await.TookItsOrder := by
  intro order held
  rw [free.1, free.2] at held
  rcases held with held | held <;> cases held

/-! ## Commands -/

theorem getOrder_balanced (list : List (Entry Order)) :
    Balanced list (RedisList.rpop list).2 .getOrder
      (match (RedisList.rpop list).1 with
        | some (.json order) => .distanceOfRemoved order
        | _ => .undefined) := by
  intro order
  have popped := RedisList.count_rpop list (.json order)
  cases reply : (RedisList.rpop list).1 with
  | none =>
      rw [reply] at popped
      simpa [Await.holds, Await.returns, Await.holding, Await.result] using popped
  | some entry =>
      rw [reply] at popped
      cases entry with
      | json removed =>
          simpa [Await.holds, Await.returns, Await.holding, Await.result] using popped
      | toremove =>
          simpa [Await.holds, Await.returns, Await.holding, Await.result] using popped

theorem getOrder_took (list : List (Entry Order)) :
    Await.TookItsOrder (match (RedisList.rpop list).1 with
      | some (.json order) => .distanceOfRemoved order
      | _ => .undefined) := by
  cases (RedisList.rpop list).1 with
  | none => exact took_of_eq_none ⟨rfl, rfl⟩
  | some entry =>
      cases entry with
      | json removed =>
          rintro order (held | ended)
          · cases held
            rfl
          · cases ended
      | toremove => exact took_of_eq_none ⟨rfl, rfl⟩

/-- A command that leaves the orders of the list alone, between two points where the
call neither holds nor returns one. -/
theorem idle_balanced {list list' : List (Entry Order)} {before after : Await Order}
    (count : ∀ order, list'.count (.json order) = list.count (.json order))
    (idle_before : before.holding = none ∧ before.result = none)
    (idle_after : after.holding = none ∧ after.result = none) :
    Balanced list list' before after ∧ after.TookItsOrder :=
  ⟨balanced_of_count count idle_before idle_after, took_of_eq_none idle_after⟩

theorem addOrder_balanced (list : List (Entry Order)) (order : Order) :
    Balanced list (RedisList.rpush list (.json order)) (.addOrder order) .brpoplpush := by
  intro pushed
  rw [RedisList.count_rpush]
  simp [Await.holds, Await.returns, Await.holding, Await.result]

/-- The mark is no order, so deleting it keeps the count of every order. -/
theorem removeLrem_balanced (list : List (Entry Order)) (closest : Closest Order)
    (looked : Option (Entry Order)) (taken : Entry Order) :
    Balanced list (RedisList.lrem list .toremove) (.removeLrem closest looked taken)
      (if looked = some .toremove then .undefined else .returned closest taken) := by
  intro order
  rw [RedisList.count_lrem_of_ne list (by simp)]
  by_cases mark : looked = some .toremove
  · simp [Await.holds, Await.returns, Await.holding, Await.result, mark]
  · simp [Await.holds, Await.returns, Await.holding, Await.result, mark]

theorem removeLrem_took {closest : Closest Order} {looked : Option (Entry Order)}
    {taken : Entry Order} (took : (Await.removeLrem closest looked taken).TookItsOrder) :
    Await.TookItsOrder
      (if looked = some .toremove then .undefined else .returned closest taken) := by
  by_cases mark : looked = some .toremove
  · rw [if_pos mark]
    exact took_of_eq_none ⟨rfl, rfl⟩
  · rw [if_neg mark]
    rintro order (held | ended)
    · cases held
    · exact took order (Or.inl (by simpa [Await.holding, Await.result, mark] using ended))

/-- The account of the `LSET` of `getOrderAtRemove`, entry by entry: it is kept
exactly when the overwritten entry is the order the call is now bound to return. -/
theorem removeLset_exact {list : List (Entry Order)} {closestIndex : Nat}
    {closest : Closest Order} {looked : Option (Entry Order)} {taken : Entry Order}
    (found : list[closestIndex]? = some taken) :
    (Balanced list (list.set closestIndex .toremove) (.removeLset closestIndex closest looked)
        (.removeLrem closest looked taken) ∧
      (Await.removeLrem closest looked taken).TookItsOrder) ↔
    (Await.removeLset closestIndex closest looked).Undisturbed list := by
  have traded (order : Order) := RedisList.count_set found .toremove (Entry.json order)
  simp only [reduceCtorEq, if_false, Nat.add_zero] at traded
  simp only [Await.Undisturbed, RedisList.lindex, found]
  constructor
  · rintro ⟨balanced, -⟩
    cases taken with
    | toremove =>
        by_contra unmarked
        have kept := balanced closest.order
        have same := traded closest.order
        simp [Await.holds, Await.returns, Await.holding, Await.result, unmarked] at kept same
        omega
    | json order =>
        have kept := balanced order
        have same := traded order
        by_cases mark : looked = some .toremove
        · simp [Await.holds, Await.returns, Await.holding, Await.result, mark] at kept same
          omega
        · refine ⟨?_, mark⟩
          by_contra other
          simp [Await.holds, Await.returns, Await.holding, Await.result, mark,
            Ne.symm other] at kept same
          omega
  · intro undisturbed
    cases taken with
    | toremove =>
        have mark : looked = some .toremove := undisturbed
        constructor
        · intro order
          have same := traded order
          simp [Await.holds, Await.returns, Await.holding, Await.result, mark] at same ⊢
          exact same
        · exact took_of_eq_none ⟨by simp [Await.holding, mark], rfl⟩
    | json order =>
        obtain ⟨rfl, unmarked⟩ := undisturbed
        constructor
        · intro other
          have same := traded other
          simp [Await.holds, Await.returns, Await.holding, Await.result, unmarked] at same ⊢
          exact same
        · rintro other (held | ended)
          · simp only [Await.holding, unmarked, if_false, Option.some.injEq] at held
            rw [Await.taken, held]
          · cases ended

/-- The `LSET` command keeps the account exactly when the list is undisturbed; past
the end of the list it changes nothing. -/
theorem removeLset_command_exact {rayon : ℚ} {list list' : List (Entry Order)}
    {closestIndex : Nat} {closest : Closest Order} {looked : Option (Entry Order)}
    {await' : Await Order}
    (replied : redisCommand? rayon list (.removeLset closestIndex closest looked) =
      some (list', await')) :
    (Balanced list list' (.removeLset closestIndex closest looked) await' ∧
      await'.TookItsOrder) ↔ (Await.removeLset closestIndex closest looked).Undisturbed list := by
  simp only [redisCommand?, RedisList.lindex] at replied
  split at replied
  case h_1 taken marked found written =>
      obtain ⟨rfl, rfl⟩ := Prod.mk.inj (Option.some.inj replied)
      obtain ⟨replaced, _, rfl⟩ := RedisList.lset?_eq_some written
      exact removeLset_exact found
  case h_2 missed =>
      obtain ⟨rfl, rfl⟩ := Prod.mk.inj (Option.some.inj replied)
      refine iff_of_true (idle_balanced (fun _ => rfl) ⟨rfl, rfl⟩ ⟨rfl, rfl⟩) ?_
      cases found : list[closestIndex]? with
      | none => simp [Await.Undisturbed, RedisList.lindex, found]
      | some entry =>
          have inside := (List.getElem?_eq_some_iff.mp found).1
          exact (missed entry _ found (if_pos inside)).elim

/-- Every other command keeps the account whatever the list holds. -/
theorem redisCommand_exact {rayon : ℚ} {list list' : List (Entry Order)}
    {await await' : Await Order} (took : await.TookItsOrder)
    (replied : redisCommand? rayon list await = some (list', await')) :
    (Balanced list list' await await' ∧ await'.TookItsOrder) ↔ await.Undisturbed list := by
  cases await with
  | getLen =>
      obtain ⟨rfl, rfl⟩ := Prod.mk.inj (Option.some.inj replied)
      refine iff_of_true (idle_balanced (fun _ => rfl) ⟨rfl, rfl⟩ ?_) trivial
      split <;> exact ⟨rfl, rfl⟩
  | addCoursier =>
      obtain ⟨rfl, rfl⟩ := Prod.mk.inj (Option.some.inj replied)
      exact iff_of_true (idle_balanced (fun _ => rfl) ⟨rfl, rfl⟩ ⟨rfl, rfl⟩) trivial
  | brpoplpush =>
      obtain ⟨rotated, moved, same⟩ := Option.map_eq_some_iff.mp replied
      obtain ⟨rfl, rfl⟩ := Prod.mk.inj same
      exact iff_of_true (idle_balanced (fun order => RedisList.count_brpoplpush moved (.json order))
        ⟨rfl, rfl⟩ ⟨rfl, rfl⟩) trivial
  | getOrder =>
      obtain ⟨rfl, rfl⟩ := Prod.mk.inj (Option.some.inj replied)
      exact iff_of_true ⟨getOrder_balanced list, getOrder_took list⟩ trivial
  | addOrder order =>
      obtain ⟨rfl, rfl⟩ := Prod.mk.inj (Option.some.inj replied)
      exact iff_of_true ⟨addOrder_balanced list order, took_of_eq_none ⟨rfl, rfl⟩⟩ trivial
  | getOrderAtFirst =>
      obtain ⟨rfl, rfl⟩ := Prod.mk.inj (Option.some.inj replied)
      refine iff_of_true (idle_balanced (fun _ => rfl) ⟨rfl, rfl⟩ ?_) trivial
      split <;> exact ⟨rfl, rfl⟩
  | loopLen curs closestIndex closest =>
      obtain ⟨rfl, rfl⟩ := Prod.mk.inj (Option.some.inj replied)
      refine iff_of_true (idle_balanced (fun _ => rfl) ⟨rfl, rfl⟩ ?_) trivial
      unfold afterScan
      split
      · exact ⟨rfl, rfl⟩
      · split <;> exact ⟨rfl, rfl⟩
  | getOrderAt curs closestIndex closest =>
      obtain ⟨rfl, rfl⟩ := Prod.mk.inj (Option.some.inj replied)
      refine iff_of_true (idle_balanced (fun _ => rfl) ⟨rfl, rfl⟩ ?_) trivial
      split <;> exact ⟨rfl, rfl⟩
  | removeLindex closestIndex closest =>
      obtain ⟨rfl, rfl⟩ := Prod.mk.inj (Option.some.inj replied)
      exact iff_of_true (idle_balanced (fun _ => rfl) ⟨rfl, rfl⟩ ⟨rfl, rfl⟩) trivial
  | removeLset closestIndex closest looked => exact removeLset_command_exact replied
  | removeLrem closest looked taken =>
      obtain ⟨rfl, rfl⟩ := Prod.mk.inj (Option.some.inj replied)
      exact iff_of_true ⟨removeLrem_balanced list closest looked taken, removeLrem_took took⟩
        trivial
  | distanceOfRemoved order => cases replied
  | distanceOfFirst order => cases replied
  | distanceOfCurrent curs closestIndex closest current => cases replied
  | returned result taken => cases replied
  | undefined => cases replied

/-- A reply of the routing service touches no list. -/
theorem distanceReply_balanced {rayon : ℚ} {distance : Option ℚ} {await await' : Await Order}
    (replied : distanceReply? rayon distance await = some await') (list : List (Entry Order)) :
    Balanced list list await await' ∧ await'.TookItsOrder := by
  cases await with
  | distanceOfRemoved order =>
      cases replied
      split
      · constructor
        · intro other
          simp [Await.holds, Await.returns, Await.holding, Await.result]
        · rintro other (held | ended)
          · cases held
          · cases ended
            rfl
      · constructor
        · intro other
          simp [Await.holds, Await.returns, Await.holding, Await.result]
        · rintro other (held | ended)
          · cases held
            rfl
          · cases ended
  | distanceOfFirst order =>
      cases replied
      exact idle_balanced (fun _ => rfl) ⟨rfl, rfl⟩ ⟨rfl, rfl⟩
  | distanceOfCurrent curs closestIndex closest current =>
      cases replied
      have after : (updateClosest curs closestIndex closest current distance).holding = none ∧
          (updateClosest curs closestIndex closest current distance).result = none := by
        unfold updateClosest
        split <;> exact ⟨rfl, rfl⟩
      exact idle_balanced (fun _ => rfl) ⟨rfl, rfl⟩ after
  | _ => cases replied

end Call

/-! ## The account of the whole system -/

section System

variable {City Order : Type} [DecidableEq City] [DecidableEq Order]

/-- How often the running calls of a city hold the order. -/
def State.held (state : State City Order) (city : City) (order : Order) : Nat :=
  tally (fun call => if call.coursierInfo.city = city then call.await.holds order else 0)
    state.calls

/-- How often the calls of a city have returned the order. -/
def State.returned (state : State City Order) (city : City) (order : Order) : Nat :=
  tally (fun call => if call.coursierInfo.city = city then call.await.returns order else 0)
    state.calls

/-- Every order is queued, held or returned as often as `addOrder` pushed it, and
a call holds or returns no other order than the one it took from the list. -/
structure Dispatched (state : State City Order) : Prop where
  placed : ∀ city order, (state.lists city).count (.json order) + state.held city order +
    state.returned city order = (state.added city).count order
  took : ∀ call ∈ state.calls, call.await.TookItsOrder

/-- The step is no `LSET` over a list that was disturbed since the scan. -/
def Undisturbed (state : State City Order) : Action City Order → Prop
  | .redis index => ∀ call, state.calls[index]? = some call →
      call.await.Undisturbed (state.lists call.coursierInfo.city)
  | _ => True

theorem dispatched_initial : Dispatched (State.initial : State City Order) where
  placed := fun _ _ => rfl
  took := fun _ member => absurd member (by simp [State.initial])

theorem addOrder_dispatched {source : State City Order} (dispatched : Dispatched source)
    (city : City) (order : Order) :
    Dispatched { source with
      lists := Function.update source.lists city
        (RedisList.rpush (source.lists city) (.json order))
      added := Function.update source.added city (source.added city ++ [order]) } where
  placed := by
    intro other pushed
    have before := dispatched.placed other pushed
    by_cases same : other = city
    · subst same
      simp only [State.held, State.returned, Function.update_self, RedisList.count_rpush,
        List.count_append, List.count_singleton, Entry.json.injEq, beq_iff_eq] at before ⊢
      omega
    · simpa [State.held, State.returned, Function.update_of_ne same] using before
  took := dispatched.took

theorem getDeliveries_dispatched {source : State City Order} (dispatched : Dispatched source)
    (coursierInfo : CoursierInfo City) :
    Dispatched { source with calls := source.calls ++ [⟨coursierInfo, 0, .getLen⟩] } where
  placed := by
    intro city order
    have before := dispatched.placed city order
    simpa [State.held, State.returned, tally_concat, Await.holds, Await.returns, Await.holding,
      Await.result] using before
  took := by
    intro call member
    rcases List.mem_append.mp member with old | new
    · exact dispatched.took call old
    · rw [List.mem_singleton.mp new]
      exact took_of_eq_none ⟨rfl, rfl⟩

/-- The state after one call went on, with the list of its city as that left it. -/
def State.proceed (source : State City Order) (index : Nat) (call : Call City Order)
    (list : List (Entry Order)) : State City Order :=
  { source with
    lists := Function.update source.lists call.coursierInfo.city list
    calls := source.calls.set index call }

/-- A call's step is accounted for in the whole system exactly when it is
balanced by itself: the other calls and the other cities do not take part. -/
theorem proceed_dispatched_iff {source : State City Order} (dispatched : Dispatched source)
    {index : Nat} {before : Call City Order} (found : source.calls[index]? = some before)
    (after : Call City Order) (same : after.coursierInfo = before.coursierInfo)
    (list : List (Entry Order)) :
    Dispatched (source.proceed index after list) ↔
      Balanced (source.lists before.coursierInfo.city) list before.await after.await ∧
        after.await.TookItsOrder := by
  have placed (order : Order) := dispatched.placed before.coursierInfo.city order
  have heldChange (city : City) (order : Order) := tally_set (fun call : Call City Order =>
    if call.coursierInfo.city = city then call.await.holds order else 0) found after
  have returnedChange (city : City) (order : Order) := tally_set (fun call : Call City Order =>
    if call.coursierInfo.city = city then call.await.returns order else 0) found after
  constructor
  · intro next
    refine ⟨fun order => ?_, next.took after ?_⟩
    · have old := placed order
      have new := next.placed before.coursierInfo.city order
      have heldNew := heldChange before.coursierInfo.city order
      have returnedNew := returnedChange before.coursierInfo.city order
      simp only [State.proceed, State.held, State.returned, same, Function.update_self,
        if_true] at old new heldNew returnedNew
      omega
    · exact List.mem_set (List.getElem?_eq_some_iff.mp found).1 after
  · rintro ⟨balanced, took⟩
    constructor
    · intro city order
      have old := dispatched.placed city order
      have heldNew := heldChange city order
      have returnedNew := returnedChange city order
      by_cases here : before.coursierInfo.city = city
      · subst here
        have kept := balanced order
        simp only [State.proceed, State.held, State.returned, same, Function.update_self,
          if_true] at old heldNew returnedNew ⊢
        omega
      · simp only [State.proceed, State.held, State.returned, same, here, if_false,
          Function.update_of_ne (Ne.symm here)] at old heldNew returnedNew ⊢
        omega
    · intro call member
      rcases List.mem_or_eq_of_mem_set member with old | rfl
      · exact dispatched.took call old
      · exact took

theorem redis_dispatched_iff {source target : State City Order} (dispatched : Dispatched source)
    {index : Nat} (stepped : step? source (.redis index) = some target) :
    Dispatched target ↔ Undisturbed source (.redis index) := by
  obtain ⟨call, found, rest⟩ := Option.bind_eq_some_iff.mp stepped
  obtain ⟨⟨list, await⟩, replied, reached⟩ := Option.bind_eq_some_iff.mp rest
  cases reached
  have exact_call := redisCommand_exact
    (dispatched.took call (List.mem_of_getElem? found)) replied
  have whole := proceed_dispatched_iff dispatched found { call with await := await } rfl list
  refine (whole.trans exact_call).trans ⟨fun undisturbed other here => ?_, fun undisturbed => ?_⟩
  · rw [found] at here
    cases here
    exact undisturbed
  · exact undisturbed call found

theorem distance_dispatched {source target : State City Order} (dispatched : Dispatched source)
    {index : Nat} {reply : Option ℚ}
    (stepped : step? source (.distance index reply) = some target) :
    Dispatched target := by
  obtain ⟨call, found, rest⟩ := Option.bind_eq_some_iff.mp stepped
  obtain ⟨await, replied, reached⟩ := Option.bind_eq_some_iff.mp rest
  cases reached
  have balanced := distanceReply_balanced replied (source.lists call.coursierInfo.city)
  have whole := (proceed_dispatched_iff dispatched found
    { call with count := call.count + 1, await := await } rfl
    (source.lists call.coursierInfo.city)).mpr balanced
  simpa [State.proceed] using whole

theorem step_dispatched_iff {source target : State City Order} {action : Action City Order}
    (dispatched : Dispatched source) (stepped : step? source action = some target) :
    Dispatched target ↔ Undisturbed source action := by
  cases action with
  | addOrder city order =>
      cases stepped
      exact iff_of_true (addOrder_dispatched dispatched city order) trivial
  | getDeliveries coursierInfo =>
      cases stepped
      exact iff_of_true (getDeliveries_dispatched dispatched coursierInfo) trivial
  | redis index => exact redis_dispatched_iff dispatched stepped
  | distance index reply => exact iff_of_true (distance_dispatched dispatched stepped) trivial

/-- In every interleaving of `addOrder` and `getDeliveries` calls, orders are
neither lost nor assigned twice exactly as long as every `LSET` of
`getOrderAtRemove` finds the list as the scan left it. -/
theorem dispatched_iff_undisturbed (actions : List (Action City Order)) :
    Always step? Dispatched State.initial actions ↔
      EveryStep step? (fun source action _ => Undisturbed source action)
        State.initial actions :=
  always_iff_everyStep (fun _ _ _ dispatched stepped => step_dispatched_iff dispatched stepped)
    dispatched_initial

end System

/-- Two couriers scan the queue of orders 1 and 2, both choose order 1 at index 0,
and each then removes the entry that is at index 0 at that moment. -/
def racingCouriers : List (Action Nat Nat) :=
  [.addOrder 0 1, .addOrder 0 2, .getDeliveries ⟨0, 10⟩, .getDeliveries ⟨0, 10⟩] ++
    [.redis 0, .redis 0, .distance 0 (some 1), .redis 0, .redis 0, .distance 0 (some 5),
      .redis 0] ++
    [.redis 1, .redis 1, .distance 1 (some 1), .redis 1, .redis 1, .distance 1 (some 5),
      .redis 1] ++
    [.redis 0, .redis 0, .redis 0] ++ [.redis 1, .redis 1, .redis 1]

/-- Order 1 is returned to both couriers, and order 2 is nowhere. -/
theorem racingCouriers_not_dispatched :
    ¬ Always step? Dispatched State.initial racingCouriers := by
  intro always
  have lost : (run? step? State.initial racingCouriers).any (fun final =>
      decide (final.returned 0 1 = 2 ∧ (final.lists 0).count (.json 2) + final.held 0 2 +
        final.returned 0 2 ≠ (final.added 0).count 2)) = true := by decide +kernel
  obtain ⟨final, reached, places⟩ := (Option.any_eq_true _ _).mp lost
  exact (of_decide_eq_true places).2 ((always.target reached).placed 0 2)

end Proximity.Dispatch
