import Mathlib.Computability.StateTransition

/-!
# Runs of a labelled transition system

A system is a partial step function: the label resolves every choice of the
scheduler and of the environment, and `none` says that the labelled step is not
enabled.  Safety of whole runs is read off single steps by the rules below.
-/

namespace Proximity.Systems

universe u v

variable {State : Type u} {Action : Type v}

/-- The state after a list of actions, when every one of them is enabled. -/
def run? (step? : State → Action → Option State) : State → List Action → Option State
  | source, [] => some source
  | source, action :: rest =>
      (step? source action).bind fun middle => run? step? middle rest

/-- A state property holds in every state the run passes through. -/
def Always (step? : State → Action → Option State) (Holds : State → Prop) :
    State → List Action → Prop
  | source, [] => Holds source
  | source, action :: rest =>
      Holds source ∧ ∀ target, step? source action = some target →
        Always step? Holds target rest

/-- A transition property holds at every step the run takes. -/
def EveryStep (step? : State → Action → Option State)
    (Holds : State → Action → State → Prop) : State → List Action → Prop
  | _, [] => True
  | source, action :: rest =>
      ∀ target, step? source action = some target →
        Holds source action target ∧ EveryStep step? Holds target rest

section Rules

variable {step? : State → Action → Option State}

theorem Always.source {Holds : State → Prop} {source : State} {actions : List Action}
    (always : Always step? Holds source actions) : Holds source := by
  cases actions with
  | nil => exact always
  | cons action rest => exact always.1

theorem run?_append (source : State) (first second : List Action) :
    run? step? source (first ++ second) =
      (run? step? source first).bind fun middle => run? step? middle second := by
  induction first generalizing source with
  | nil => rfl
  | cons action rest ih =>
      rw [List.cons_append, run?, run?, Option.bind_assoc]
      exact Option.bind_congr fun middle _ => ih middle

/-- What always holds holds in the state the run ends in. -/
theorem Always.target {Holds : State → Prop} {source target : State} {actions : List Action}
    (always : Always step? Holds source actions)
    (reached : run? step? source actions = some target) : Holds target := by
  induction actions generalizing source with
  | nil =>
      cases reached
      exact always
  | cons action rest ih =>
      obtain ⟨middle, stepped, remaining⟩ := Option.bind_eq_some_iff.mp reached
      exact ih (always.2 middle stepped) remaining

theorem Always.mono {Holds Weaker : State → Prop} {source : State} {actions : List Action}
    (always : Always step? Holds source actions) (implied : ∀ state, Holds state → Weaker state) :
    Always step? Weaker source actions := by
  induction actions generalizing source with
  | nil => exact implied source always
  | cons action rest ih =>
      exact ⟨implied source always.1, fun target stepped => ih (always.2 target stepped)⟩

/-- What always holds brings along an invariant that every step into it keeps. -/
theorem Always.strengthen {Holds Invariant : State → Prop}
    (kept : ∀ source action target, Invariant source →
      step? source action = some target → Holds target → Invariant target)
    {source : State} {actions : List Action} (initial : Invariant source)
    (always : Always step? Holds source actions) : Always step? Invariant source actions := by
  induction actions generalizing source with
  | nil => exact initial
  | cons action rest ih =>
      refine ⟨initial, fun target stepped => ?_⟩
      have remaining := always.2 target stepped
      exact ih (kept source action target initial stepped remaining.source) remaining

/-- A property of every step holds of the step taken after a run's first actions. -/
theorem EveryStep.of_run {Holds : State → Action → State → Prop}
    {source middle target : State} {first : List Action} {action : Action} {rest : List Action}
    (every : EveryStep step? Holds source (first ++ action :: rest))
    (reached : run? step? source first = some middle)
    (stepped : step? middle action = some target) : Holds middle action target := by
  induction first generalizing source with
  | nil =>
      cases reached
      exact (every target stepped).1
  | cons head tail ih =>
      obtain ⟨next, first_step, remaining⟩ := Option.bind_eq_some_iff.mp reached
      exact ih (every next first_step).2 remaining

/-- A run is followed from its first step on. -/
theorem EveryStep.cons {Holds : State → Action → State → Prop} {source target : State}
    {action : Action} {rest : List Action} (stepped : step? source action = some target)
    (holds : Holds source action target) (later : EveryStep step? Holds target rest) :
    EveryStep step? Holds source (action :: rest) := by
  intro other reached
  cases stepped.symm.trans reached
  exact ⟨holds, later⟩

theorem EveryStep.and {First Second : State → Action → State → Prop} {source : State}
    {actions : List Action} (first : EveryStep step? First source actions)
    (second : EveryStep step? Second source actions) :
    EveryStep step? (fun source action target =>
      First source action target ∧ Second source action target) source actions := by
  induction actions generalizing source with
  | nil => trivial
  | cons action rest ih =>
      intro target stepped
      obtain ⟨left, left_later⟩ := first target stepped
      obtain ⟨right, right_later⟩ := second target stepped
      exact ⟨⟨left, right⟩, ih left_later right_later⟩

/-- A transition property that guarded steps have, next to an invariant they
preserve, holds at every step of a guarded run. -/
theorem everyStep_of_invariant (Invariant : State → Prop)
    {Guard Holds : State → Action → State → Prop}
    (preserved : ∀ source action target, Invariant source →
      step? source action = some target → Guard source action target →
      Holds source action target ∧ Invariant target)
    {source : State} {actions : List Action} (initial : Invariant source)
    (guarded : EveryStep step? Guard source actions) :
    EveryStep step? Holds source actions := by
  induction actions generalizing source with
  | nil => trivial
  | cons action rest ih =>
      intro target stepped
      obtain ⟨guard, remaining⟩ := guarded target stepped
      obtain ⟨holds, invariant⟩ := preserved source action target initial stepped guard
      exact ⟨holds, ih invariant remaining⟩

theorem EveryStep.mono {Guard Holds : State → Action → State → Prop} {source : State}
    {actions : List Action} (guarded : EveryStep step? Guard source actions)
    (implied : ∀ source action target, step? source action = some target →
      Guard source action target → Holds source action target) :
    EveryStep step? Holds source actions :=
  everyStep_of_invariant (fun _ => True) (fun source action target _ stepped guard =>
    ⟨implied source action target stepped guard, trivial⟩) trivial guarded

/-- An invariant that guarded steps preserve holds throughout a guarded run. -/
theorem always_of_everyStep {Invariant : State → Prop} {Guard : State → Action → State → Prop}
    (preserved : ∀ source action target, Invariant source →
      step? source action = some target → Guard source action target → Invariant target)
    {source : State} {actions : List Action} (initial : Invariant source)
    (guarded : EveryStep step? Guard source actions) :
    Always step? Invariant source actions := by
  induction actions generalizing source with
  | nil => exact initial
  | cons action rest ih =>
      refine ⟨initial, fun target stepped => ?_⟩
      obtain ⟨guard, remaining⟩ := guarded target stepped
      exact ih (preserved source action target initial stepped guard) remaining

/-- An invariant that every step preserves holds throughout every run. -/
theorem always_of_preserved {Invariant : State → Prop}
    (preserved : ∀ source action target, Invariant source →
      step? source action = some target → Invariant target)
    {source : State} (initial : Invariant source) (actions : List Action) :
    Always step? Invariant source actions := by
  induction actions generalizing source with
  | nil => exact initial
  | cons action rest ih =>
      exact ⟨initial, fun target stepped => ih (preserved source action target initial stepped)⟩

/-- When the guard says exactly which of the allowed steps keep the invariant, the invariant
holds throughout a run of such steps exactly when every step of the run meets the guard. -/
theorem always_iff_everyStep_of_allowed {Invariant : State → Prop}
    {Allowed Guard : State → Action → State → Prop}
    (exact_step : ∀ source action target, Invariant source →
      step? source action = some target → Allowed source action target →
      (Invariant target ↔ Guard source action target))
    {source : State} {actions : List Action} (initial : Invariant source)
    (allowed : EveryStep step? Allowed source actions) :
    Always step? Invariant source actions ↔ EveryStep step? Guard source actions := by
  induction actions generalizing source with
  | nil => exact iff_of_true initial trivial
  | cons action rest ih =>
      constructor
      · intro always target stepped
        obtain ⟨permitted, later⟩ := allowed target stepped
        have remaining := always.2 target stepped
        exact ⟨(exact_step source action target initial stepped permitted).mp remaining.source,
          (ih remaining.source later).mp remaining⟩
      · intro guarded
        refine ⟨initial, fun target stepped => ?_⟩
        obtain ⟨permitted, later⟩ := allowed target stepped
        obtain ⟨guard, remaining⟩ := guarded target stepped
        have holds := (exact_step source action target initial stepped permitted).mpr guard
        exact (ih holds later).mpr remaining

theorem everyStep_true (source : State) (actions : List Action) :
    EveryStep step? (fun _ _ _ => True) source actions := by
  induction actions generalizing source with
  | nil => trivial
  | cons action rest ih => exact fun target _ => ⟨trivial, ih target⟩

/-- When the guard says exactly which steps keep the invariant, the invariant
holds throughout a run exactly when every step of the run meets the guard. -/
theorem always_iff_everyStep {Invariant : State → Prop}
    {Guard : State → Action → State → Prop}
    (exact_step : ∀ source action target, Invariant source →
      step? source action = some target → (Invariant target ↔ Guard source action target))
    {source : State} {actions : List Action} (initial : Invariant source) :
    Always step? Invariant source actions ↔ EveryStep step? Guard source actions :=
  always_iff_everyStep_of_allowed
    (fun source action target holds stepped _ => exact_step source action target holds stepped)
    initial (everyStep_true source actions)

/-- A run can be checked step by step. -/
instance EveryStep.decidable {Holds : State → Action → State → Prop}
    [∀ source action target, Decidable (Holds source action target)] :
    (source : State) → (actions : List Action) → Decidable (EveryStep step? Holds source actions)
  | _, [] => isTrue trivial
  | source, action :: rest =>
      match stepped : step? source action with
      | none =>
          isTrue fun target reached => by
            rw [stepped] at reached
            cases reached
      | some target =>
          have : Decidable (EveryStep step? Holds target rest) := EveryStep.decidable target rest
          decidable_of_iff (Holds source action target ∧ EveryStep step? Holds target rest)
            ⟨fun both other reached => by
              rw [stepped] at reached
              cases reached
              exact both, fun every => every target stepped⟩

end Rules

/-- A system that is told what to do comes to an end when every step keeps the invariant and
counts, and the invariant bounds the count. -/
theorem exists_mem_eval {next? : State → Option State} (Invariant : State → Prop)
    (rank : State → Nat) {bound : Nat}
    (kept : ∀ source target, Invariant source → next? source = some target →
      Invariant target ∧ rank source < rank target)
    (bounded : ∀ source, Invariant source → rank source ≤ bound) {source : State}
    (initial : Invariant source) :
    ∃ target ∈ StateTransition.eval next? source, Invariant target := by
  induction left : bound - rank source using Nat.strong_induction_on generalizing source with
  | _ left ih =>
      cases next : next? source with
      | none =>
          exact ⟨source, StateTransition.mem_eval.mpr ⟨Relation.ReflTransGen.refl, next⟩, initial⟩
      | some middle =>
          obtain ⟨invariant, counted⟩ := kept source middle initial next
          have here := bounded middle invariant
          obtain ⟨target, ends, holds⟩ := ih (bound - rank middle) (by omega) invariant rfl
          have same := StateTransition.reaches_eval (Relation.ReflTransGen.single next)
          exact ⟨target, same ▸ ends, holds⟩

end Proximity.Systems
