import Proximity.Dispatch.Alone
import Proximity.Systems.FirstLeast

/-!
# The nearest order first

The scan of `getDeliveries` keeps the nearest order that it has met.  A comparison with an
unknown distance fails, so it stays at the first order when the distance of that one is unknown.
-/

namespace Proximity.Dispatch

open Proximity.Systems StateTransition

variable {City Order : Type}

/-- The call in front of its first command. -/
def entering (coursierInfo : CoursierInfo City) (queue : List Order) : Alone City Order :=
  ⟨queue.map .json, ⟨coursierInfo, 0, .getLen⟩, []⟩

/-- The order that is to be delivered first: the first one of minimum known distance, when that
is in range. -/
def Nearest (distance : Order → Option ℚ) (rayon : ℚ) (queue : List Order) (index : Nat)
    (order : Order) (known : ℚ) : Prop :=
  FirstLeast distance queue index order known ∧ known ≤ rayon

/-- The call has returned the order to be delivered first, which alone has left the queue, or
nothing when there is none. -/
structure Served (distance : Order → Option ℚ) (queue : List Order) (finish : Alone City Order) :
    Prop where
  nearest : ∀ index order known,
    Nearest distance finish.call.coursierInfo.rayon queue index order known →
    finish.call.await = .returned ⟨order, some known⟩ (.json order) ∧
      finish.list = (queue.eraseIdx index).map .json
  nothing : (¬ ∃ index order known,
      Nearest distance finish.call.coursierInfo.rayon queue index order known) →
    finish.call.await = .undefined ∧ finish.list = queue.map .json

/-- What the scan knows about the entries that it has read. -/
inductive Scanned (distance : Order → Option ℚ) (read : List Order) (closestIndex : Nat) :
    Closest Order → Prop where
  | unknown (order : Order) (stands : read[closestIndex]? = some order)
      (first : read[0]? = some order) (lost : distance order = none) :
      Scanned distance read closestIndex ⟨order, none⟩
  | known (order : Order) (value : ℚ)
      (least : FirstLeast distance read closestIndex order value)
      (first : ∃ opening, read[0]? = some opening ∧ (distance opening).isSome = true) :
      Scanned distance read closestIndex ⟨order, some value⟩

theorem Scanned.stands {distance : Order → Option ℚ} {read : List Order} {closestIndex : Nat}
    {closest : Closest Order} (scanned : Scanned distance read closestIndex closest) :
    read[closestIndex]? = some closest.order := by
  cases scanned with
  | unknown order stands first lost => exact stands
  | known order value least first => exact least.stands

theorem Scanned.singleton (distance : Order → Option ℚ) (order : Order) :
    Scanned distance [order] 0 ⟨order, distance order⟩ := by
  cases same : distance order with
  | none => exact .unknown order rfl rfl same
  | some value =>
      exact .known order value (FirstLeast.singleton same) ⟨order, rfl, by simp [same]⟩

/-- One more entry is compared. -/
theorem Scanned.concat {distance : Order → Option ℚ} {read : List Order} {closestIndex : Nat}
    {closest : Closest Order} (scanned : Scanned distance read closestIndex closest)
    (current : Order) :
    if nearer (distance current) closest.distance = true then
      Scanned distance (read ++ [current]) read.length ⟨current, distance current⟩
    else Scanned distance (read ++ [current]) closestIndex closest := by
  have inside := (List.getElem?_eq_some_iff.mp scanned.stands).1
  have opens : (read ++ [current])[0]? = read[0]? := List.getElem?_append_left (by omega)
  cases scanned with
  | unknown order stands first lost =>
      have stays : nearer (distance current) none = false := by
        cases distance current <;> rfl
      rw [if_neg (by simp [stays])]
      refine .unknown order ?_ (opens.trans first) lost
      rw [List.getElem?_append_left inside, stands]
  | known order value least first =>
      rw [← opens] at first
      cases same : distance current with
      | none =>
          rw [if_neg (by simp [nearer])]
          exact .known order value (least.concat fun compared found => by
            rw [same] at found
            cases found) first
      | some compared =>
          by_cases less : compared < value
          · rw [if_pos (by simp [nearer, less])]
            exact .known current compared (FirstLeast.concat_of_lt same
              fun other member before found =>
                lt_of_lt_of_le less (least.least other member before found)) first
          · rw [if_neg (by simp [nearer, less])]
            exact .known order value (least.concat fun other found => by
              cases same.symm.trans found
              exact le_of_not_gt less) first

/-- Where the scan of an undisturbed queue stands. -/
inductive Scan (distance : Order → Option ℚ) (coursierInfo : CoursierInfo City)
    (orders : List Order) : Alone City Order → Prop where
  | getLen (count : Nat) (asked : List Order) :
      Scan distance coursierInfo orders
        ⟨orders.map .json, ⟨coursierInfo, count, .getLen⟩, asked⟩
  | getOrderAtFirst (count : Nat) (asked : List Order) :
      Scan distance coursierInfo orders
        ⟨orders.map .json, ⟨coursierInfo, count, .getOrderAtFirst⟩, asked⟩
  | distanceOfFirst (count : Nat) (asked : List Order) (order : Order)
      (stands : orders[0]? = some order) :
      Scan distance coursierInfo orders
        ⟨orders.map .json, ⟨coursierInfo, count, .distanceOfFirst order⟩, asked⟩
  | loopLen (count : Nat) (asked : List Order) (curs closestIndex : Nat)
      (closest : Closest Order)
      (scanned : Scanned distance (orders.take curs) closestIndex closest)
      (bound : curs ≤ orders.length) :
      Scan distance coursierInfo orders
        ⟨orders.map .json, ⟨coursierInfo, count, .loopLen curs closestIndex closest⟩, asked⟩
  | getOrderAt (count : Nat) (asked : List Order) (curs closestIndex : Nat)
      (closest : Closest Order)
      (scanned : Scanned distance (orders.take curs) closestIndex closest)
      (bound : curs < orders.length) :
      Scan distance coursierInfo orders
        ⟨orders.map .json, ⟨coursierInfo, count, .getOrderAt curs closestIndex closest⟩, asked⟩
  | distanceOfCurrent (count : Nat) (asked : List Order) (curs closestIndex : Nat)
      (closest : Closest Order) (current : Order)
      (scanned : Scanned distance (orders.take curs) closestIndex closest)
      (stands : orders[curs]? = some current) :
      Scan distance coursierInfo orders
        ⟨orders.map .json,
          ⟨coursierInfo, count, .distanceOfCurrent curs closestIndex closest current⟩, asked⟩
  | removeLindex (count : Nat) (asked : List Order) (closestIndex : Nat)
      (closest : Closest Order) (scanned : Scanned distance orders closestIndex closest)
      (near : within closest.distance coursierInfo.rayon = true) :
      Scan distance coursierInfo orders
        ⟨orders.map .json, ⟨coursierInfo, count, .removeLindex closestIndex closest⟩, asked⟩
  | removeLset (count : Nat) (asked : List Order) (closestIndex : Nat)
      (closest : Closest Order) (scanned : Scanned distance orders closestIndex closest)
      (near : within closest.distance coursierInfo.rayon = true) :
      Scan distance coursierInfo orders
        ⟨orders.map .json,
          ⟨coursierInfo, count, .removeLset closestIndex closest (some (.json closest.order))⟩,
          asked⟩
  | removeLrem (count : Nat) (asked : List Order) (closestIndex : Nat)
      (closest : Closest Order) (scanned : Scanned distance orders closestIndex closest)
      (near : within closest.distance coursierInfo.rayon = true) :
      Scan distance coursierInfo orders
        ⟨(orders.map .json).set closestIndex .toremove,
          ⟨coursierInfo, count,
            .removeLrem closest (some (.json closest.order)) (.json closest.order)⟩, asked⟩
  | returned (count : Nat) (asked : List Order) (closestIndex : Nat)
      (closest : Closest Order) (scanned : Scanned distance orders closestIndex closest)
      (near : within closest.distance coursierInfo.rayon = true) :
      Scan distance coursierInfo orders
        ⟨(orders.eraseIdx closestIndex).map .json,
          ⟨coursierInfo, count, .returned closest (.json closest.order)⟩, asked⟩
  | undefined (count : Nat) (asked : List Order) (closestIndex : Nat)
      (closest : Closest Order) (scanned : Scanned distance orders closestIndex closest)
      (far : within closest.distance coursierInfo.rayon = false) :
      Scan distance coursierInfo orders
        ⟨orders.map .json, ⟨coursierInfo, count, .undefined⟩, asked⟩

/-- Three steps for every entry, and those that end the scan. -/
def scanProgress (long : Nat) (source : Alone City Order) : Nat :=
  match source.call.await with
  | .getLen => 0
  | .getOrderAtFirst => 1
  | .distanceOfFirst _ => 2
  | .loopLen curs _ _ => 3 * curs
  | .getOrderAt curs _ _ => 3 * curs + 1
  | .distanceOfCurrent curs _ _ _ => 3 * curs + 2
  | .removeLindex _ _ => 3 * long + 1
  | .removeLset _ _ _ => 3 * long + 2
  | .removeLrem _ _ _ => 3 * long + 3
  | _ => 3 * long + 4

section Scan

variable [DecidableEq Order] {distance : Order → Option ℚ} {coursierInfo : CoursierInfo City}
  {orders : List Order}

theorem Scan.next (queued : orders ≠ []) {source target : Alone City Order}
    (scan : Scan distance coursierInfo orders source)
    (next : source.next? (fun _ => distance) = some target) :
    Scan distance coursierInfo orders target ∧
      scanProgress orders.length source < scanProgress orders.length target := by
  cases scan with
  | getLen count asked =>
      have long : orders.length ≠ 0 := fun none => queued (List.eq_nil_of_length_eq_zero none)
      simp only [Alone.next?, Await.asks, redisCommand?, RedisList.llen, List.length_map,
        if_neg long, Option.map_some, Option.some.injEq] at next
      subst next
      exact ⟨.getOrderAtFirst count asked, by simp [scanProgress]⟩
  | getOrderAtFirst count asked =>
      obtain ⟨first, rest, rfl⟩ := List.exists_cons_of_ne_nil queued
      simp only [Alone.next?, Await.asks, redisCommand?, RedisList.lindex, List.map_cons,
        List.getElem?_cons_zero, Option.map_some, Option.some.injEq] at next
      subst next
      exact ⟨.distanceOfFirst count asked first rfl, by simp [scanProgress]⟩
  | distanceOfFirst count asked order stands =>
      simp only [Alone.next?, Await.asks, distanceReply?, Option.map_some,
        Option.some.injEq] at next
      subst next
      obtain ⟨first, rest, rfl⟩ := List.exists_cons_of_ne_nil queued
      cases stands
      exact ⟨.loopLen _ _ 1 0 _ (Scanned.singleton distance order) (by simp),
        by simp [scanProgress]⟩
  | loopLen count asked curs closestIndex closest scanned bound =>
      simp only [Alone.next?, Await.asks, redisCommand?, RedisList.llen, List.length_map,
        Option.map_some, Option.some.injEq] at next
      subst next
      by_cases more : curs < orders.length
      · rw [if_pos more]
        exact ⟨.getOrderAt count asked curs closestIndex closest scanned more,
          by simp [scanProgress]⟩
      · rw [if_neg more]
        have all : curs = orders.length := Nat.le_antisymm bound (Nat.le_of_not_lt more)
        subst all
        rw [List.take_length] at scanned
        unfold afterScan
        cases reach : within closest.distance coursierInfo.rayon with
        | true =>
            exact ⟨.removeLindex count asked closestIndex closest scanned reach,
              by simp [scanProgress]⟩
        | false =>
            exact ⟨.undefined count asked closestIndex closest scanned reach,
              by simp [scanProgress]⟩
  | getOrderAt count asked curs closestIndex closest scanned bound =>
      have there : (orders.map Entry.json)[curs]? = some (Entry.json orders[curs]) := by
        simp [bound]
      simp only [Alone.next?, Await.asks, redisCommand?, RedisList.lindex, there,
        Option.map_some, Option.some.injEq] at next
      subst next
      exact ⟨.distanceOfCurrent count asked curs closestIndex closest _ scanned
        (List.getElem?_eq_getElem bound), by simp [scanProgress]⟩
  | distanceOfCurrent count asked curs closestIndex closest current scanned stands =>
      simp only [Alone.next?, Await.asks, distanceReply?, Option.map_some,
        Option.some.injEq] at next
      subst next
      obtain ⟨inside, here⟩ := List.getElem?_eq_some_iff.mp stands
      have read : orders.take (curs + 1) = orders.take curs ++ [current] := by
        rw [← List.take_append_getElem inside, here]
      have long : (orders.take curs).length = curs :=
        List.length_take_of_le (Nat.le_of_lt inside)
      have compared := scanned.concat current
      rw [← read, long] at compared
      unfold updateClosest
      split
      case isTrue less =>
        rw [if_pos less] at compared
        exact ⟨.loopLen _ _ (curs + 1) curs _ compared inside, by simp [scanProgress]; omega⟩
      case isFalse same =>
        rw [if_neg same] at compared
        exact ⟨.loopLen _ _ (curs + 1) closestIndex _ compared inside,
          by simp [scanProgress]; omega⟩
  | removeLindex count asked closestIndex closest scanned near =>
      have there : (orders.map Entry.json)[closestIndex]? = some (Entry.json closest.order) := by
        simp [scanned.stands]
      simp only [Alone.next?, Await.asks, redisCommand?, RedisList.lindex, there,
        Option.map_some, Option.some.injEq] at next
      subst next
      exact ⟨.removeLset count asked closestIndex closest scanned near, by simp [scanProgress]⟩
  | removeLset count asked closestIndex closest scanned near =>
      have there : (orders.map Entry.json)[closestIndex]? = some (Entry.json closest.order) := by
        simp [scanned.stands]
      have inside := (List.getElem?_eq_some_iff.mp there).1
      simp only [Alone.next?, Await.asks, redisCommand?, RedisList.lindex, RedisList.lset?, there,
        if_pos inside, Option.map_some, Option.some.injEq] at next
      subst next
      exact ⟨.removeLrem count asked closestIndex closest scanned near, by simp [scanProgress]⟩
  | removeLrem count asked closestIndex closest scanned near =>
      have inside := (List.getElem?_eq_some_iff.mp scanned.stands).1
      have removed : RedisList.lrem ((orders.map Entry.json).set closestIndex .toremove)
          Entry.toremove = (orders.eraseIdx closestIndex).map Entry.json := by
        rw [RedisList.lrem_set (by simp) (by simpa using inside), List.eraseIdx_map]
      simp only [Alone.next?, Await.asks, redisCommand?, removed, Option.some.injEq,
        reduceCtorEq, if_false, Option.map_some] at next
      subst next
      exact ⟨.returned count asked closestIndex closest scanned near, by simp [scanProgress]⟩
  | returned count asked closestIndex closest scanned near => cases next
  | undefined count asked closestIndex closest scanned far => cases next

omit [DecidableEq Order] in
theorem Scan.bounded {source : Alone City Order}
    (scan : Scan distance coursierInfo orders source) :
    scanProgress orders.length source ≤ 3 * orders.length + 4 := by
  cases scan with
  | getLen count asked => exact Nat.zero_le _
  | getOrderAtFirst count asked => exact Nat.succ_le_of_lt (by omega)
  | distanceOfFirst count asked order stands => simp only [scanProgress]; omega
  | loopLen count asked curs closestIndex closest scanned bound =>
      simp only [scanProgress]
      omega
  | getOrderAt count asked curs closestIndex closest scanned bound =>
      simp only [scanProgress]
      omega
  | distanceOfCurrent count asked curs closestIndex closest current scanned stands =>
      have inside := (List.getElem?_eq_some_iff.mp stands).1
      simp only [scanProgress]
      omega
  | removeLindex count asked closestIndex closest scanned near => simp [scanProgress]
  | removeLset count asked closestIndex closest scanned near => simp [scanProgress]
  | removeLrem count asked closestIndex closest scanned near => simp [scanProgress]
  | returned count asked closestIndex closest scanned near => exact Nat.le_refl _
  | undefined count asked closestIndex closest scanned far => exact Nat.le_refl _

/-- The call is answered with the order that the scan chose, or with nothing. -/
theorem scan_ends (distance : Order → Option ℚ) (coursierInfo : CoursierInfo City)
    {first : Order} (opens : orders[0]? = some first) :
    ∃ finish ∈ eval (Alone.next? fun _ => distance) (entering coursierInfo orders),
      finish.call.coursierInfo = coursierInfo ∧
      ∃ closestIndex closest, Scanned distance orders closestIndex closest ∧
        if within closest.distance coursierInfo.rayon = true then
          finish.call.await = .returned closest (.json closest.order) ∧
            finish.list = (orders.eraseIdx closestIndex).map .json
        else finish.call.await = .undefined ∧ finish.list = orders.map .json := by
  have queued : orders ≠ [] := by
    rintro rfl
    cases opens
  obtain ⟨finish, ends, scan⟩ := exists_mem_eval
    (Scan distance coursierInfo orders) (scanProgress orders.length)
    (fun _ _ scan next => scan.next queued next) (fun _ scan => scan.bounded)
    (Scan.getLen 0 [])
  refine ⟨finish, ends, ?_⟩
  have stopped := Alone.next?_eq_none_iff.mp (mem_eval.mp ends).2
  cases scan with
  | returned count asked closestIndex closest scanned near =>
      exact ⟨rfl, closestIndex, closest, scanned, by simp [near]⟩
  | undefined count asked closestIndex closest scanned far =>
      exact ⟨rfl, closestIndex, closest, scanned, by simp [far]⟩
  | _ => simp at stopped

omit [DecidableEq Order] in
/-- Where the distance of the first order is known, the scan chooses the nearest order. -/
theorem Scanned.firstLeast {read : List Order} {closestIndex : Nat} {closest : Closest Order}
    (scanned : Scanned distance read closestIndex closest) {first : Order}
    (opens : read[0]? = some first) (told : (distance first).isSome = true) :
    ∃ value, closest.distance = some value ∧
      FirstLeast distance read closestIndex closest.order value := by
  cases scanned with
  | unknown order stands here lost =>
      cases opens.symm.trans here
      rw [lost] at told
      cases told
  | known order value least _ => exact ⟨value, rfl, least⟩

omit [DecidableEq Order] in
/-- Where it is not, the scan stays at the first order. -/
theorem Scanned.lost {read : List Order} {closestIndex : Nat} {closest : Closest Order}
    (scanned : Scanned distance read closestIndex closest) {first : Order}
    (opens : read[0]? = some first) (untold : distance first = none) :
    closest.distance = none := by
  cases scanned with
  | unknown order stands here lost => rfl
  | known order value least told =>
      obtain ⟨opening, here, known⟩ := told
      cases opens.symm.trans here
      rw [untold] at known
      cases known

theorem served_of_told {first : Order} (opens : orders[0]? = some first)
    (told : (distance first).isSome = true) :
    ∃ finish ∈ eval (Alone.next? fun _ => distance) (entering coursierInfo orders),
      Served distance orders finish := by
  obtain ⟨finish, ends, same, closestIndex, closest, scanned, answer⟩ :=
    scan_ends distance coursierInfo opens
  obtain ⟨value, chosen, least⟩ := scanned.firstLeast opens told
  obtain ⟨order, distance'⟩ := closest
  subst chosen
  refine ⟨finish, ends, ?_, ?_⟩
  · rintro index order known ⟨nearest, near⟩
    obtain ⟨rfl, rfl, rfl⟩ := least.unique nearest
    rw [same] at near
    rw [if_pos (by simpa [within] using near)] at answer
    exact answer
  · intro none_near
    have far : ¬ value ≤ coursierInfo.rayon := fun near =>
      none_near ⟨closestIndex, order, value, least, same ▸ near⟩
    rw [if_neg (by simpa [within] using far)] at answer
    exact answer

/-- Without the distance of the first order, the call returns nothing. -/
theorem served_iff_of_lost {first : Order} (opens : orders[0]? = some first)
    (untold : distance first = none) :
    (∃ finish ∈ eval (Alone.next? fun _ => distance) (entering coursierInfo orders),
      Served distance orders finish) ↔
      ∀ order ∈ orders, ∀ known, distance order = some known → coursierInfo.rayon < known := by
  obtain ⟨finish, ends, same, closestIndex, closest, scanned, answer⟩ :=
    scan_ends distance coursierInfo opens
  rw [scanned.lost opens untold, if_neg (by simp [within])] at answer
  constructor
  · rintro ⟨other, also, served⟩ order member known told
    cases Part.mem_unique ends also
    by_contra near
    obtain ⟨index, nearest, value, least⟩ :=
      FirstLeast.exists_of_known ⟨order, member, known, told⟩
    have reach : value ≤ coursierInfo.rayon :=
      le_trans (least.least order member known told) (le_of_not_gt near)
    have returned := (served.nearest index nearest value ⟨least, same ▸ reach⟩).1
    rw [answer.1] at returned
    cases returned
  · intro far
    refine ⟨finish, ends, ?_, fun _ => answer⟩
    rintro index order known ⟨least, near⟩
    rw [same] at near
    exact absurd near (not_le_of_gt
      (far order (List.mem_of_getElem? least.stands) known least.known))

/-- The courier is served with the nearest order exactly when the routing service knows the
distance of the first order, or knows of no order in range. -/
theorem getDeliveries_served_iff (distance : Order → Option ℚ)
    (coursierInfo : CoursierInfo City) (first : Order) (rest : List Order) :
    (∃ finish ∈ eval (Alone.next? fun _ => distance) (entering coursierInfo (first :: rest)),
      Served distance (first :: rest) finish) ↔
      (distance first).isSome = true ∨
        ∀ order ∈ first :: rest, ∀ known, distance order = some known →
          coursierInfo.rayon < known := by
  cases told : distance first with
  | some known =>
      have isSome : (distance first).isSome = true := by rw [told]; rfl
      have opens : (first :: rest)[0]? = some first := rfl
      exact iff_of_true (served_of_told opens isSome) (Or.inl rfl)
  | none =>
      have opens : (first :: rest)[0]? = some first := rfl
      rw [served_iff_of_lost opens told]
      simp

end Scan

/-- The routing service fails for the first of two orders and knows the second to be near. -/
theorem nearest_not_served :
    ¬ ∃ finish ∈ eval (Alone.next? fun _ order => if order = 1 then some 2 else none)
        (entering ⟨"Alger", 5⟩ [0, 1]),
      Served (fun order : Nat => if order = 1 then some 2 else none) [0, 1] finish := by
  have opens : [0, 1][0]? = some 0 := rfl
  rw [served_iff_of_lost opens rfl]
  intro far
  have near := far 1 (by simp) 2 rfl
  revert near
  decide

end Proximity.Dispatch
