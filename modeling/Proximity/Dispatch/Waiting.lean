import Proximity.Dispatch.Alone
import Proximity.Systems.Rotation

/-!
# The waiting loop

A courier who found the queue empty turns it by one order in every iteration and asks for the
distance of the order that then stands last.
-/

namespace Proximity.Dispatch

open Proximity.Systems Proximity.Systems.Rotation StateTransition

variable {City Order : Type}

/-- The call in front of its `brpoplpush`. -/
def waiting (coursierInfo : CoursierInfo City) (count : Nat) (queue : List Order) :
    Alone City Order :=
  ⟨queue.map .json, ⟨coursierInfo, count, .brpoplpush⟩, []⟩

/-- The routing service once said that the order is not in range. -/
def Missed (reply : Nat → Order → Option ℚ) (rayon : ℚ) (order : Order) : Prop :=
  ∃ count, within (reply count order) rayon = false

/-- Where a call stands that began to wait at `orders`, when it has put back the orders of
`rounds` iterations. -/
inductive Round (reply : Nat → Order → Option ℚ) (coursierInfo : CoursierInfo City)
    (start : Nat) (orders : List Order) : Alone City Order → Prop where
  | brpoplpush (rounds : Nat)
      (missed : ∀ order ∈ seen orders rounds, Missed reply coursierInfo.rayon order) :
      Round reply coursierInfo start orders
        ⟨(turned^[rounds] orders).map .json, ⟨coursierInfo, start + rounds, .brpoplpush⟩,
          seen orders rounds⟩
  | getOrder (rounds : Nat) (rest : List Order) (order : Order)
      (missed : ∀ order ∈ seen orders rounds, Missed reply coursierInfo.rayon order)
      (stands : turned (turned^[rounds] orders) = rest ++ [order]) :
      Round reply coursierInfo start orders
        ⟨(rest ++ [order]).map .json, ⟨coursierInfo, start + rounds, .getOrder⟩,
          seen orders rounds⟩
  | distanceOfRemoved (rounds : Nat) (rest : List Order) (order : Order)
      (missed : ∀ order ∈ seen orders rounds, Missed reply coursierInfo.rayon order)
      (stands : turned (turned^[rounds] orders) = rest ++ [order]) :
      Round reply coursierInfo start orders
        ⟨rest.map .json, ⟨coursierInfo, start + rounds, .distanceOfRemoved order⟩,
          seen orders rounds⟩
  | addOrder (rounds : Nat) (rest : List Order) (order : Order)
      (missed : ∀ order ∈ seen orders (rounds + 1), Missed reply coursierInfo.rayon order)
      (stands : turned (turned^[rounds] orders) = rest ++ [order]) :
      Round reply coursierInfo start orders
        ⟨rest.map .json, ⟨coursierInfo, start + rounds + 1, .addOrder order⟩,
          seen orders (rounds + 1)⟩
  | returned (rounds : Nat) (rest : List Order) (order : Order) (distance : Option ℚ)
      (missed : ∀ order ∈ seen orders rounds, Missed reply coursierInfo.rayon order)
      (stands : turned (turned^[rounds] orders) = rest ++ [order])
      (near : within distance coursierInfo.rayon = true) :
      Round reply coursierInfo start orders
        ⟨rest.map .json,
          ⟨coursierInfo, start + rounds + 1, .returned ⟨order, distance⟩ (.json order)⟩,
          seen orders (rounds + 1)⟩

/-- Four steps for every distance asked for, and where the iteration stands. -/
def progress (source : Alone City Order) : Nat :=
  4 * source.call.count + match source.call.await with
    | .brpoplpush => 1
    | .getOrder => 2
    | .distanceOfRemoved _ => 3
    | _ => 0

theorem Round.of_waiting (reply : Nat → Order → Option ℚ) (coursierInfo : CoursierInfo City)
    (start : Nat) (orders : List Order) :
    Round reply coursierInfo start orders (waiting coursierInfo start orders) :=
  .brpoplpush 0 fun _ member => absurd member (by simp)

section Rounds

variable [DecidableEq Order] {reply : Nat → Order → Option ℚ} {coursierInfo : CoursierInfo City}
  {start : Nat} {orders : List Order}

theorem Round.next {source target : Alone City Order}
    (round : Round reply coursierInfo start orders source)
    (next : source.next? reply = some target) :
    Round reply coursierInfo start orders target ∧ progress source < progress target := by
  cases round with
  | brpoplpush rounds missed =>
      rcases List.eq_nil_or_concat' (turned^[rounds] orders) with empty | ⟨front, last, split⟩
      · simp [Alone.next?, Await.asks, redisCommand?, RedisList.brpoplpush?, empty] at next
      · obtain ⟨rest, order, stands⟩ :
            ∃ rest order, turned (turned^[rounds] orders) = rest ++ [order] := by
          rcases List.eq_nil_or_concat' (turned (turned^[rounds] orders)) with empty | last
          · simp [split] at empty
          · exact last
        have there : last :: front = rest ++ [order] := by
          rw [← stands, split, turned_concat]
        have turning : RedisList.brpoplpush? ((turned^[rounds] orders).map Entry.json) =
            some ((rest ++ [order]).map Entry.json) := by
          simp [RedisList.brpoplpush?, split, ← there]
        simp only [Alone.next?, Await.asks, redisCommand?, turning, Option.map_some,
          Option.some.injEq] at next
        subst next
        exact ⟨.getOrder rounds rest order missed stands, by simp [progress]⟩
  | getOrder rounds rest order missed stands =>
      simp only [Alone.next?, Await.asks, redisCommand?, RedisList.rpop, List.map_append,
        List.map_cons, List.map_nil, List.getLast?_concat, List.dropLast_concat,
        Option.map_some, Option.some.injEq] at next
      subst next
      exact ⟨.distanceOfRemoved rounds rest order missed stands, by simp [progress]⟩
  | distanceOfRemoved rounds rest order missed stands =>
      have more := seen_succ stands
      simp only [Alone.next?, Await.asks, distanceReply?, Option.map_some,
        Option.some.injEq] at next
      subst next
      rw [← more]
      split
      case isTrue near =>
        exact ⟨.returned rounds rest order _ missed stands near, by simp [progress]; omega⟩
      case isFalse far =>
        refine ⟨.addOrder rounds rest order ?_ stands, by simp [progress]; omega⟩
        rw [more]
        intro other member
        rcases List.mem_append.mp member with before | here
        · exact missed other before
        · cases List.mem_singleton.mp here
          exact ⟨_, by simpa using far⟩
  | addOrder rounds rest order missed stands =>
      simp only [Alone.next?, Await.asks, redisCommand?, Option.map_some,
        Option.some.injEq] at next
      subst next
      have list : RedisList.rpush (rest.map Entry.json) (Entry.json order) =
          (turned^[rounds + 1] orders).map Entry.json := by
        simp [RedisList.rpush, Function.iterate_succ_apply', stands]
      rw [list, Nat.add_assoc]
      exact ⟨.brpoplpush (rounds + 1) missed, by simp [progress]⟩
  | returned rounds rest order distance missed stands near => cases next

theorem Round.reaches {source target : Alone City Order}
    (round : Round reply coursierInfo start orders source)
    (reaches : Reaches (Alone.next? reply) source target) :
    Round reply coursierInfo start orders target := by
  induction reaches with
  | refl => exact round
  | tail _ next ih => exact (ih.next next).1

omit [DecidableEq Order] in
/-- An order that is always in range is not put back, so a full round does not go by. -/
theorem rounds_lt {rounds : Nat} {order : Order} (member : order ∈ orders)
    (near : ∀ count, within (reply count order) coursierInfo.rayon = true)
    (missed : ∀ order ∈ seen orders rounds, Missed reply coursierInfo.rayon order) :
    rounds < orders.length := by
  by_contra past
  have all : order ∈ seen orders rounds :=
    seen_subset orders (Nat.le_of_not_lt past) ((seen_perm orders).mem_iff.mpr member)
  obtain ⟨count, far⟩ := missed order all
  rw [near count] at far
  cases far

omit [DecidableEq Order] in
theorem Round.bounded {source : Alone City Order} {order : Order} (member : order ∈ orders)
    (near : ∀ count, within (reply count order) coursierInfo.rayon = true)
    (round : Round reply coursierInfo start orders source) :
    progress source ≤ 4 * (start + orders.length) := by
  cases round with
  | brpoplpush rounds missed =>
      have early := rounds_lt member near missed
      simp only [Dispatch.progress]
      omega
  | getOrder rounds rest order missed stands =>
      have early := rounds_lt member near missed
      simp only [Dispatch.progress]
      omega
  | distanceOfRemoved rounds rest order missed stands =>
      have early := rounds_lt member near missed
      simp only [Dispatch.progress]
      omega
  | addOrder rounds rest order missed stands =>
      have early := rounds_lt member near missed
      simp only [Dispatch.progress]
      omega
  | returned rounds rest order distance missed stands range =>
      have early := rounds_lt member near missed
      simp only [Dispatch.progress]
      omega

/-- As many iterations as the queue is long examine every order once and turn the queue.
When the routing service keeps an order of the queue in range, one of these iterations
returns an order and takes it alone from the queue. -/
theorem waiting_examines (reply : Nat → Order → Option ℚ) (coursierInfo : CoursierInfo City)
    (start : Nat) (orders : List Order) :
    (∀ finish, Reaches (Alone.next? reply) (waiting coursierInfo start orders) finish →
      finish.call.await = .brpoplpush → finish.call.count = start + orders.length →
      finish.asked.Perm orders ∧
        ∃ queue, queue ~r orders ∧ finish.list = queue.map .json) ∧
    ((∃ order ∈ orders, ∀ count, within (reply count order) coursierInfo.rayon = true) →
      ∃ finish ∈ eval (Alone.next? reply) (waiting coursierInfo start orders),
        finish.call.count ≤ start + orders.length ∧
        ∃ order distance before after queue,
          finish.call.await = .returned ⟨order, distance⟩ (.json order) ∧
          within distance coursierInfo.rayon = true ∧
          orders = before ++ order :: after ∧
          queue ~r before ++ after ∧
          finish.list = queue.map .json) := by
  have entered := Round.of_waiting reply coursierInfo start orders
  constructor
  · intro finish reaches stands counted
    cases entered.reaches reaches with
    | brpoplpush rounds missed =>
        have all : rounds = orders.length := Nat.add_left_cancel counted
        subst all
        exact ⟨seen_perm orders, _, turns_isRotated orders _, rfl⟩
    | _ => cases stands
  · rintro ⟨order, member, near⟩
    obtain ⟨finish, ends, round⟩ := exists_mem_eval
      (Round reply coursierInfo start orders) progress
      (fun _ _ round next => round.next next) (fun _ round => round.bounded member near) entered
    refine ⟨finish, ends, ?_⟩
    have stopped := Alone.next?_eq_none_iff.mp (mem_eval.mp ends).2
    cases round with
    | brpoplpush rounds missed =>
        have early := rounds_lt member near missed
        have full := (turns_isRotated orders rounds).perm.length_eq
        simp only [reduceCtorEq, exists_false, false_or, true_and, List.map_eq_nil_iff] at stopped
        simp only [stopped, List.length_nil] at full
        omega
    | returned rounds rest order distance missed stands range =>
        have early := rounds_lt member near missed
        have turning : rest ++ [order] ~r orders := by
          rw [← stands]
          exact (turned_isRotated _).trans (turns_isRotated orders rounds)
        obtain ⟨before, after, split, rotated⟩ := isRotated_without turning
        refine ⟨?_, order, distance, before, after, rest, rfl, range, split, rotated, rfl⟩
        show start + rounds + 1 ≤ start + orders.length
        omega
    | _ => simp at stopped

end Rounds

/-- The distance of order 2, and no answer for the others. -/
def onlySecond (_ order : Nat) : Option ℚ := if order = 2 then some 1 else none

/-- Three iterations examine three orders too far off; from further off the second is taken. -/
theorem threeOrders_examines :
    (∃ finish, Reaches (Alone.next? onlySecond) (waiting ⟨"Tunis", 0⟩ 0 [1, 2, 3]) finish ∧
      finish.asked.Perm [1, 2, 3] ∧ ∃ queue, queue ~r [1, 2, 3] ∧ finish.list = queue.map .json) ∧
    ∃ finish ∈ eval (Alone.next? onlySecond) (waiting ⟨"Tunis", 5⟩ 0 [1, 2, 3]),
      finish.call.count ≤ 3 := by
  constructor
  · obtain ⟨finish, reaches, stands, counted⟩ : ∃ finish,
        Reaches (Alone.next? onlySecond) (waiting ⟨"Tunis", 0⟩ 0 [1, 2, 3]) finish ∧
          finish.call.await = .brpoplpush ∧ finish.call.count = 3 := by
      refine ⟨⟨[1, 2, 3].map .json, ⟨⟨"Tunis", 0⟩, 3, .brpoplpush⟩, [2, 1, 3]⟩, ?_, rfl, rfl⟩
      iterate 12 refine Relation.ReflTransGen.head rfl ?_
      exact .refl
    exact ⟨finish, reaches,
      (waiting_examines onlySecond ⟨"Tunis", 0⟩ 0 [1, 2, 3]).1 finish reaches stands counted⟩
  · have near : within (some 1) 5 = true := by decide +kernel
    obtain ⟨finish, ends, early, -⟩ :=
      (waiting_examines onlySecond ⟨"Tunis", 5⟩ 0 [1, 2, 3]).2 ⟨2, by decide, fun _ => near⟩
    exact ⟨finish, ends, early⟩

end Proximity.Dispatch
