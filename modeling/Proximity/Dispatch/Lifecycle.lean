import Proximity.Dispatch.Delivery
import Proximity.Dispatch.Scans

/-!
# The life of a delivery

With one `getDeliveries` call at a time an order that was added is in one place of the
queues.  Accepting it moves it to a delivery, which ends confirmed; no call ever cancels it.
-/

namespace Proximity.Dispatch.Deliveries

open Proximity.Systems Proximity.Models

section Situations

variable {City : Type} [DecidableEq City]

/-- How many deliveries of the order pass the test. -/
def State.inDeliveries (state : State City) (order : ObjectId) (test : Delivery → Bool) : Nat :=
  state.deliveries.docs.countP fun delivery => decide (delivery.orderId = order) && test delivery

/-- Queued in the city, or taken from its queue by a call that is still deciding. -/
def State.waiting (state : State City) (city : City) (order : ObjectId) : Nat :=
  (state.queues.lists city).count (.json order) + state.queues.held city order

/-- Returned to a courier who has not accepted it yet. -/
def State.handedOut (state : State City) (city : City) (order : ObjectId) : Nat :=
  state.queues.returned city order - state.inDeliveries order fun _ => true

def State.ongoing (state : State City) (order : ObjectId) : Nat :=
  state.inDeliveries order fun delivery => decide (delivery.status = .ongoing)

def State.confirmed (state : State City) (order : ObjectId) : Nat :=
  state.inDeliveries order fun delivery => decide (delivery.status = .confirmed)

/-- In a delivery that is being cancelled after it was collected. -/
def State.cancelling (state : State City) (order : ObjectId) : Nat :=
  state.inDeliveries order fun delivery =>
    decide (delivery.status = .beingCancelled) && delivery.isCollected

/-- An order that was added is in exactly one situation, and waits in its own city alone. -/
structure Situated (state : State City) : Prop where
  one : ∀ city order, order ∈ state.queues.added city →
    state.waiting city order + state.handedOut city order + state.ongoing order +
      state.confirmed order + state.cancelling order = 1
  home : ∀ city order, order ∉ state.queues.added city →
    state.waiting city order + state.handedOut city order = 0

/-- A confirmed delivery stays confirmed. -/
def KeepsConfirmed (source target : State City) : Prop :=
  ∀ delivery ∈ source.deliveries.docs, delivery.status = .confirmed →
    ∃ after ∈ target.deliveries.docs, after.id = delivery.id ∧ after.status = .confirmed

/-- Cancelling an ongoing delivery that was not collected puts its order back in its queue. -/
def PutsBack (source : State City) (action : Action City) (target : State City) : Prop :=
  ∀ id delivery, action = .cancelDelivery (some id) →
    source.deliveries.findById? id = some delivery → delivery.status = .ongoing →
    delivery.isCollected = false →
    ∃ city, delivery.orderId ∈ source.queues.added city ∧
      .json delivery.orderId ∈ target.queues.lists city

/-! ## The runs -/

/-- Each order is added once, a call begins when the earlier ones have been answered, and an
order is accepted once, by the courier it was returned to. -/
def Allowed (source : State City) : Action City → Prop
  | .addOrder _ order => ∀ city, order ∉ source.queues.added city
  | .getDeliveries _ _ => ∀ call ∈ source.queues.calls, call.await.ended = true
  | .acceptedDelivery _ _ body => ∀ order, body.orderId = some order →
      (∃ (index : Nat) (call : Call City ObjectId) (coursier : ObjectId),
        source.queues.calls[index]? = some call ∧ call.await.result = some order ∧
        source.coursiers[index]? = some coursier ∧ body.coursierId = some coursier) ∧
      ∀ delivery ∈ source.deliveries.docs, delivery.orderId ≠ order
  | _ => True

/-- No ongoing delivery is asked to be cancelled. -/
def SparesOngoing (source : State City) : Action City → Prop
  | .cancelDelivery (some id) =>
      ∀ delivery, source.deliveries.findById? id = some delivery → delivery.status ≠ .ongoing
  | _ => True

/-- No order is added twice, and every delivery is of an order that was returned. -/
structure Sound (state : State City) : Prop where
  steady : Steady state.queues
  once : ∀ city, (state.queues.added city).Nodup
  oneCity : ∀ order first second, order ∈ state.queues.added first →
    order ∈ state.queues.added second → first = second
  alive : ∀ delivery ∈ state.deliveries.docs,
    (delivery.status = .ongoing ∨ delivery.status = .confirmed) ∧ delivery.isCollected = false
  known : ∀ delivery ∈ state.deliveries.docs, ∃ city, delivery.orderId ∈ state.queues.added city
  accepted : ∀ city order, order ∈ state.queues.added city →
    (state.inDeliveries order fun _ => true) ≤ state.queues.returned city order

theorem sound_initial : Sound (State.initial : State City) where
  steady := steady_initial
  once := fun _ => List.nodup_nil
  oneCity := fun _ _ _ member => absurd member List.not_mem_nil
  alive := fun _ member => absurd member List.not_mem_nil
  known := fun _ member => absurd member List.not_mem_nil
  accepted := fun _ _ member => absurd member List.not_mem_nil

omit [DecidableEq City] in
/-- Two tests that exclude each other and leave nothing out count everything. -/
theorem inDeliveries_add {state : State City} {first second : Delivery → Bool}
    (split : ∀ delivery ∈ state.deliveries.docs, second delivery = !first delivery)
    (order : ObjectId) :
    state.inDeliveries order first + state.inDeliveries order second =
      state.inDeliveries order fun _ => true := by
  unfold State.inDeliveries
  generalize state.deliveries.docs = deliveries at split
  induction deliveries with
  | nil => rfl
  | cons delivery rest ih =>
      have remaining := ih fun other member => split other (List.mem_cons_of_mem delivery member)
      simp only [List.countP_cons, split delivery List.mem_cons_self] at remaining ⊢
      by_cases same : delivery.orderId = order
      · cases first delivery with
        | true =>
            simp only [same, decide_true, Bool.true_and, Bool.not_true, if_true] at remaining ⊢
            simp at remaining ⊢
            omega
        | false =>
            simp [same] at remaining ⊢
            omega
      · simpa [same] using remaining

/-- The deliveries of an order are ongoing or confirmed. -/
theorem Sound.ongoing_add_confirmed {state : State City} (sound : Sound state)
    (order : ObjectId) :
    state.ongoing order + state.confirmed order = state.inDeliveries order fun _ => true := by
  refine inDeliveries_add (fun delivery stored => ?_) order
  rcases (sound.alive delivery stored).1 with status | status
  · simp [status]
  · simp [status]

theorem Sound.cancelling_eq_zero {state : State City} (sound : Sound state) (order : ObjectId) :
    state.cancelling order = 0 := by
  refine List.countP_eq_zero.mpr fun delivery stored => ?_
  simp [(sound.alive delivery stored).2]

theorem Sound.situated {state : State City} (sound : Sound state) : Situated state := by
  constructor
  · intro city order added
    have placed := sound.steady.dispatched.placed city order
    have accepted := sound.accepted city order added
    have split := sound.ongoing_add_confirmed order
    have none_cancelling := sound.cancelling_eq_zero order
    rw [List.count_eq_one_of_mem (sound.once city) added] at placed
    unfold State.waiting State.handedOut
    omega
  · intro city order missing
    have placed := sound.steady.dispatched.placed city order
    rw [List.count_eq_zero_of_not_mem missing] at placed
    unfold State.waiting State.handedOut
    omega

/-! ## Steps -/

/-- The queues move on, and no delivery changes. -/
theorem Sound.proceed {source : State City} (sound : Sound source)
    {queues : Dispatch.State City ObjectId} (steady : Steady queues) (coursiers : List ObjectId)
    (added : queues.added = source.queues.added)
    (returned : ∀ city order, source.queues.returned city order ≤ queues.returned city order) :
    Sound { source with queues := queues, coursiers := coursiers } where
  steady := steady
  once := by
    rw [added]
    exact sound.once
  oneCity := by
    rw [added]
    exact sound.oneCity
  alive := sound.alive
  known := by
    rw [added]
    exact sound.known
  accepted := by
    rw [added]
    exact fun city order member =>
      (sound.accepted city order member).trans (returned city order)

/-- An order that nobody added is in no delivery yet. -/
theorem Sound.addOrder {source : State City} (sound : Sound source) {city : City}
    {order : ObjectId} {queues : Dispatch.State City ObjectId}
    (fresh : ∀ city, order ∉ source.queues.added city)
    (stepped : Dispatch.step? source.queues (.addOrder city order) = some queues) :
    Sound { source with queues := queues } := by
  cases stepped
  have mem_added : ∀ {other : City} {pushed : ObjectId},
      pushed ∈ Function.update source.queues.added city (source.queues.added city ++ [order])
        other ↔ pushed ∈ source.queues.added other ∨ other = city ∧ pushed = order := by
    intro other pushed
    by_cases same : other = city
    · subst same
      simp
    · simp [same]
  constructor
  case steady => exact addOrder_steady sound.steady city order
  case once =>
    intro other
    by_cases same : other = city
    · subst same
      simpa [List.concat_eq_append] using (sound.once other).concat (fresh other)
    · simpa [Function.update_of_ne same] using sound.once other
  case oneCity =>
    intro pushed first second at_first at_second
    rcases mem_added.mp at_first with old | ⟨rfl, rfl⟩
    · rcases mem_added.mp at_second with there | ⟨rfl, rfl⟩
      · exact sound.oneCity pushed first second old there
      · exact absurd old (fresh first)
    · rcases mem_added.mp at_second with there | ⟨rfl, -⟩
      · exact absurd there (fresh second)
      · rfl
  case alive => exact sound.alive
  case known =>
    intro delivery stored
    obtain ⟨home, there⟩ := sound.known delivery stored
    exact ⟨home, mem_added.mpr (Or.inl there)⟩
  case accepted =>
    intro other pushed member
    rcases mem_added.mp member with old | ⟨rfl, rfl⟩
    · exact sound.accepted other pushed old
    · have unknown : (source.inDeliveries pushed fun _ => true) = 0 := by
        refine List.countP_eq_zero.mpr fun delivery stored => ?_
        obtain ⟨home, there⟩ := sound.known delivery stored
        have apart : delivery.orderId ≠ pushed := fun same => fresh home (same ▸ there)
        simp [apart]
      exact (Nat.le_of_eq unknown).trans (Nat.zero_le _)

omit [DecidableEq City] in
theorem acceptedDelivery_eq_ok {deliveries after : Collection Delivery} {newId : ObjectId}
    {now : Time} {body : AcceptBody}
    (answered : acceptedDelivery deliveries newId now body = .ok after) :
    ∃ delivery, body.orderId = some delivery.orderId ∧
      body.coursierId = some delivery.coursierId ∧ delivery.status = .ongoing ∧
      delivery.isCollected = false ∧ delivery.id = newId ∧
      deliveries.findById? newId = none ∧ after = deliveries.insert delivery := by
  unfold acceptedDelivery at answered
  split at answered
  case h_1 orderId coursierId distance named accepts given fresh =>
      cases answered
      exact ⟨_, named, accepts, rfl, rfl, rfl, fresh, rfl⟩
  case h_2 => cases answered

omit [DecidableEq City] in
/-- A new delivery counts for its own order. -/
theorem inDeliveries_insert {source : State City} {delivery : Delivery}
    (fresh : source.deliveries.findById? delivery.id = none) (order : ObjectId)
    (test : Delivery → Bool) :
    (State.inDeliveries { source with deliveries := source.deliveries.insert delivery } order
      test) = source.inDeliveries order test +
        if decide (delivery.orderId = order) && test delivery then 1 else 0 := by
  have untaken : Document.id delivery ∉ source.deliveries.docs.map Document.id := by
    intro taken
    obtain ⟨other, stored, same⟩ := List.mem_map.mp taken
    exact Collection.findById?_eq_none_iff.mp fresh other stored same
  have docs : (source.deliveries.insert delivery).docs = source.deliveries.docs ++ [delivery] := by
    rw [Collection.insert, dif_neg untaken]
  simp only [State.inDeliveries, docs, List.countP_append, List.countP_singleton]

/-- The one delivery of a returned order. -/
theorem Sound.accept {source : State City} (sound : Sound source) {newId : ObjectId} {now : Time}
    {body : AcceptBody} (allowed : Allowed source (.acceptedDelivery newId now body))
    {after : Collection Delivery}
    (answered : acceptedDelivery source.deliveries newId now body = .ok after) :
    Sound { source with deliveries := after } := by
  obtain ⟨delivery, named, -, ongoing, uncollected, rfl, fresh, rfl⟩ :=
    acceptedDelivery_eq_ok answered
  obtain ⟨⟨index, call, coursier, found, returned, -, -⟩, first⟩ := allowed _ named
  have member := List.mem_of_getElem? found
  have home : delivery.orderId ∈ source.queues.added call.coursierInfo.city := by
    have placed := sound.steady.dispatched.placed call.coursierInfo.city delivery.orderId
    have positive := returned_pos member returned
    exact List.count_pos_iff.mp (by omega)
  constructor
  case steady => exact sound.steady
  case once => exact sound.once
  case oneCity => exact sound.oneCity
  case alive =>
    intro other stored
    rcases Collection.mem_insert.mp stored with old | ⟨-, rfl⟩
    · exact sound.alive other old
    · exact ⟨Or.inl ongoing, uncollected⟩
  case known =>
    intro other stored
    rcases Collection.mem_insert.mp stored with old | ⟨-, rfl⟩
    · exact sound.known other old
    · exact ⟨_, home⟩
  case accepted =>
    intro city order added
    rw [inDeliveries_insert fresh]
    by_cases same : delivery.orderId = order
    · subst same
      have unaccepted : (source.inDeliveries delivery.orderId fun _ => true) = 0 := by
        refine List.countP_eq_zero.mpr fun other stored => ?_
        simp [first other stored]
      have positive := returned_pos member returned
      rw [sound.oneCity _ _ _ home added] at positive
      simpa [unaccepted] using Nat.succ_le_of_lt positive
    · simpa [same] using sound.accepted city order added

/-- A confirmation changes the status of a delivery alone. -/
theorem Sound.confirm {source : State City} (sound : Sound source) (id : ObjectId) :
    Sound { source with deliveries := source.deliveries.update id confirm } where
  steady := sound.steady
  once := sound.once
  oneCity := sound.oneCity
  alive := Collection.forall_update sound.alive fun delivery stored _ =>
    ⟨Or.inr rfl, (sound.alive delivery stored).2⟩
  known := Collection.forall_update sound.known fun delivery stored _ => sound.known delivery stored
  accepted := by
    intro city order added
    have kept : (State.inDeliveries { source with
        deliveries := source.deliveries.update id Deliveries.confirm } order fun _ => true) =
        source.inDeliveries order fun _ => true := by
      simp only [State.inDeliveries, Collection.update, List.countP_map]
      refine List.countP_congr fun delivery _ => ?_
      simp only [Function.comp_apply]
      split <;> rfl
    rw [kept]
    exact sound.accepted city order added

theorem Sound.step {source target : State City} {action : Action City} (sound : Sound source)
    (stepped : step? source action = some target) (allowed : Allowed source action) :
    Sound target := by
  cases action with
  | addOrder city order =>
      obtain ⟨queues, moved, rfl⟩ := by simpa only [step?, Option.map_eq_some_iff] using stepped
      exact sound.addOrder allowed moved
  | getDeliveries coursier coursierInfo =>
      obtain ⟨queues, moved, rfl⟩ := by simpa only [step?, Option.map_eq_some_iff] using stepped
      have returned := returned_mono moved
      cases moved
      exact sound.proceed (getDeliveries_steady sound.steady allowed coursierInfo) _ rfl returned
  | redis call =>
      obtain ⟨queues, moved, rfl⟩ := by simpa only [step?, Option.map_eq_some_iff] using stepped
      exact sound.proceed (redis_steady sound.steady moved) _ (added_of_redis moved)
        (returned_mono moved)
  | distance call reply =>
      obtain ⟨queues, moved, rfl⟩ := by simpa only [step?, Option.map_eq_some_iff] using stepped
      exact sound.proceed (distance_steady sound.steady moved) _ (added_of_distance moved)
        (returned_mono moved)
  | acceptedDelivery newId now body =>
      cases stepped
      cases answered : acceptedDelivery source.deliveries newId now body with
      | error failure => simpa only [State.answer, answered, stored] using sound
      | ok after => simpa only [State.answer, answered, stored] using sound.accept allowed answered
  | collectDelivery =>
      cases stepped
      exact sound
  | confirmDelivery deliveryId =>
      cases stepped
      cases deliveryId with
      | none => exact sound
      | some id => exact sound.confirm id
  | cancelDelivery deliveryId =>
      cases stepped
      exact sound

omit [DecidableEq City] in
theorem keepsConfirmed_of_eq {source target : State City}
    (same : target.deliveries = source.deliveries) : KeepsConfirmed source target :=
  fun delivery member confirmed => ⟨delivery, same ▸ member, rfl, confirmed⟩

/-- No service takes a confirmed delivery back. -/
theorem keepsConfirmed {source target : State City} {action : Action City}
    (stepped : step? source action = some target) : KeepsConfirmed source target := by
  cases action with
  | acceptedDelivery newId now body =>
      cases stepped
      cases answered : acceptedDelivery source.deliveries newId now body with
      | error failure => exact keepsConfirmed_of_eq (by simp only [State.answer, stored])
      | ok after =>
          obtain ⟨delivery, -, -, -, -, -, -, rfl⟩ := acceptedDelivery_eq_ok answered
          intro other member confirmed
          refine ⟨other, ?_, rfl, confirmed⟩
          simpa only [State.answer, answered, stored] using
            Collection.mem_insert_of_mem delivery member
  | confirmDelivery deliveryId =>
      cases stepped
      cases deliveryId with
      | none => exact keepsConfirmed_of_eq rfl
      | some id =>
          intro other member confirmed
          by_cases here : other.id = id
          · exact ⟨confirm.apply other, Collection.mem_update.mpr (Or.inr ⟨other,
              Collection.findById?_eq_some_iff.mpr ⟨member, here⟩, rfl⟩), rfl, rfl⟩
          · exact ⟨other, Collection.mem_update.mpr (Or.inl ⟨member, here⟩), rfl, confirmed⟩
  | collectDelivery =>
      cases stepped
      exact keepsConfirmed_of_eq rfl
  | cancelDelivery deliveryId =>
      cases stepped
      exact keepsConfirmed_of_eq rfl
  | _ =>
      obtain ⟨queues, -, rfl⟩ := by simpa only [step?, Option.map_eq_some_iff] using stepped
      exact keepsConfirmed_of_eq rfl

omit [DecidableEq City] in
/-- An order in an ongoing delivery counts as such. -/
theorem ongoing_pos {state : State City} {delivery : Delivery}
    (member : delivery ∈ state.deliveries.docs) (status : delivery.status = .ongoing) :
    0 < state.ongoing delivery.orderId :=
  List.countP_pos_iff.mpr ⟨delivery, member, by simp [status]⟩

/-- Since cancelling changes nothing, an order is put back only if there is none to put back. -/
theorem Sound.putsBack_iff {source target : State City} {action : Action City}
    (sound : Sound source) (stepped : step? source action = some target) :
    PutsBack source action target ↔ SparesOngoing source action := by
  cases action with
  | cancelDelivery deliveryId =>
      cases stepped
      cases deliveryId with
      | none => exact iff_of_true nofun trivial
      | some id =>
          constructor
          · intro back delivery found status
            have member := (Collection.findById?_eq_some_iff.mp found).1
            obtain ⟨city, added, queued⟩ :=
              back id delivery rfl found status (sound.alive delivery member).2
            have situated := sound.situated.one city delivery.orderId added
            have delivering := ongoing_pos member status
            have waits : 0 < (source.queues.lists city).count (.json delivery.orderId) :=
              List.count_pos_iff.mpr queued
            unfold State.waiting at situated
            omega
          · rintro spares _ delivery ⟨⟩ found status
            exact absurd status (spares delivery found)
  | _ => exact iff_of_true (fun _ _ => nofun) trivial

/-- In every run of calls one at a time, every order is in exactly one situation and no
confirmed delivery changes; cancelling puts the order back exactly as long as no ongoing
delivery is cancelled. -/
theorem lifecycle_iff_sparesOngoing {actions : List (Action City)}
    (allowed : EveryStep step? (fun source action _ => Allowed source action)
      State.initial actions) :
    (Always step? Situated State.initial actions ∧
      EveryStep step? (fun source action target =>
        KeepsConfirmed source target ∧ PutsBack source action target) State.initial actions) ↔
      EveryStep step? (fun source action _ => SparesOngoing source action)
        State.initial actions := by
  have preserved : ∀ (source : State City) action target, Sound source →
      step? source action = some target → Allowed source action → Sound target :=
    fun _ _ _ sound stepped permitted => sound.step stepped permitted
  have situated : Always step? Situated State.initial actions :=
    (always_of_everyStep preserved sound_initial allowed).mono fun _ => Sound.situated
  constructor
  · rintro ⟨-, every⟩
    refine everyStep_of_invariant Sound (fun source action target sound stepped both => ?_)
      sound_initial (allowed.and every)
    exact ⟨(sound.putsBack_iff stepped).mp both.2.2, sound.step stepped both.1⟩
  · intro spares
    refine ⟨situated, everyStep_of_invariant Sound
      (fun source action target sound stepped both => ?_) sound_initial (allowed.and spares)⟩
    exact ⟨⟨keepsConfirmed stepped, (sound.putsBack_iff stepped).mpr both.2⟩,
      sound.step stepped both.1⟩

end Situations

/-! ## One order and one courier -/

/-- In the only city, order 7 is returned to courier 3, who accepts it as delivery 50. -/
def acceptance : List (Action Unit) :=
  [.addOrder () 7, .getDeliveries 3 ⟨(), 10⟩, .redis 0, .redis 0, .distance 0 (some 5), .redis 0,
    .redis 0, .redis 0, .redis 0, .acceptedDelivery 50 0 ⟨some 7, some 3, some (some 5)⟩]

theorem acceptance_allowed (last : Action Unit)
    (permitted : ∀ source : State Unit, Allowed source last) :
    EveryStep step? (fun source action _ => Allowed source action) State.initial
      (acceptance ++ [last]) := by
  refine .cons rfl (fun _ => List.not_mem_nil) ?_
  refine .cons rfl (List.forall_mem_nil _) ?_
  refine .cons rfl trivial <| .cons rfl trivial <| .cons rfl trivial <| .cons rfl trivial <|
    .cons rfl trivial <| .cons rfl trivial <| .cons rfl trivial ?_
  refine .cons rfl ?_ ?_
  · rintro order ⟨⟩
    exact ⟨⟨0, _, 3, rfl, rfl, rfl, rfl⟩, List.forall_mem_nil _⟩
  · exact fun _ _ => ⟨permitted _, trivial⟩

theorem confirmed_lifecycle_iff :
    (Always step? Situated State.initial (acceptance ++ [.confirmDelivery (some 50)]) ∧
      EveryStep step? (fun source action target =>
        KeepsConfirmed source target ∧ PutsBack source action target) State.initial
        (acceptance ++ [.confirmDelivery (some 50)])) ↔
      EveryStep step? (fun source action _ => SparesOngoing source action) State.initial
        (acceptance ++ [.confirmDelivery (some 50)]) :=
  lifecycle_iff_sparesOngoing (acceptance_allowed _ fun _ => trivial)

/-- Delivery 50 is not collected, and order 7 is not back in its queue. -/
theorem cancelled_not_putBack :
    ¬ (Always step? Situated State.initial (acceptance ++ [.cancelDelivery (some 50)]) ∧
      EveryStep step? (fun source action target =>
        KeepsConfirmed source target ∧ PutsBack source action target) State.initial
        (acceptance ++ [.cancelDelivery (some 50)])) := by
  rintro ⟨-, every⟩
  have last := every.of_run rfl rfl
  obtain ⟨⟨⟩, -, queued⟩ := last.2 50 _ rfl rfl rfl rfl
  exact absurd queued (by decide)

end Proximity.Dispatch.Deliveries
