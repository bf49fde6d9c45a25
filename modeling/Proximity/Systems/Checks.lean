import Mathlib.Data.List.Forall2

/-!
# Checked computations

A service body is a chain of lookups and checks, each with its own failure; the
inversion lemmas below take a successful chain apart check by check.
-/

namespace Proximity.Systems

universe u v

variable {ε : Type u} {α β : Type v}

/-- The value of a lookup, or the failure. -/
def found (failure : ε) : Option α → Except ε α
  | some value => .ok value
  | none => .error failure

/-- Goes on when the condition holds. -/
def require (failure : ε) (condition : Prop) [Decidable condition] : Except ε PUnit.{v + 1} :=
  if condition then .ok PUnit.unit else .error failure

@[simp] theorem bind_eq_ok_iff {first : Except ε α} {next : α → Except ε β} {value : β} :
    (first >>= next) = .ok value ↔ ∃ middle, first = .ok middle ∧ next middle = .ok value := by
  cases first with
  | error failure => simp [bind, Except.bind]
  | ok middle => simp [bind, Except.bind]

@[simp] theorem map_eq_ok_iff {change : α → β} {first : Except ε α} {value : β} :
    (change <$> first) = .ok value ↔ ∃ middle, first = .ok middle ∧ change middle = value := by
  cases first with
  | error failure => simp [Functor.map, Except.map]
  | ok middle => simp [Functor.map, Except.map]

@[simp] theorem except_map_eq_error_iff {change : α → β} {first : Except ε α} {failure : ε} :
    first.map change = .error failure ↔ first = .error failure := by
  cases first with
  | error other => simp [Except.map]
  | ok middle => simp [Except.map]

@[simp] theorem foldlM_cons_eq_ok_iff {step : α → β → Except ε α} {source target : α} {item : β}
    {items : List β} :
    (item :: items).foldlM step source = .ok target ↔
      ∃ middle, step source item = .ok middle ∧ items.foldlM step middle = .ok target := by
  rw [List.foldlM_cons, bind_eq_ok_iff]

/-- What every turn of a loop keeps holds when the loop has ended. -/
theorem foldlM_invariant {step : α → β → Except ε α} (Invariant : α → Prop) {items : List β}
    (preserved : ∀ item ∈ items, ∀ source target, Invariant source →
      step source item = .ok target → Invariant target)
    {source target : α} (initial : Invariant source)
    (ran : items.foldlM step source = .ok target) : Invariant target := by
  induction items generalizing source with
  | nil =>
      cases ran
      exact initial
  | cons item rest ih =>
      obtain ⟨middle, turned, remaining⟩ := foldlM_cons_eq_ok_iff.mp ran
      refine ih (fun other member => preserved other (List.mem_cons_of_mem item member))
        (preserved item List.mem_cons_self source middle initial turned) remaining

/-- What the turn of an item brings about holds when the loop has ended, if no turn undoes it. -/
theorem foldlM_each {step : α → β → Except ε α} (Invariant : α → Prop) (Done : β → α → Prop)
    {items : List β}
    (preserved : ∀ item ∈ items, ∀ source target, Invariant source →
      step source item = .ok target → Invariant target)
    (done : ∀ item ∈ items, ∀ source target, Invariant source →
      step source item = .ok target → Done item target)
    (kept : ∀ item ∈ items, ∀ other source target, Invariant source → Done other source →
      step source item = .ok target → Done other target)
    {source target : α} (initial : Invariant source)
    (ran : items.foldlM step source = .ok target) : ∀ item ∈ items, Done item target := by
  induction items generalizing source with
  | nil => exact fun _ member => absurd member List.not_mem_nil
  | cons item rest ih =>
      obtain ⟨middle, turned, remaining⟩ := foldlM_cons_eq_ok_iff.mp ran
      have invariant := preserved item List.mem_cons_self source middle initial turned
      rw [List.forall_mem_cons]
      refine ⟨?_, ih (fun other member => preserved other (List.mem_cons_of_mem item member))
        (fun other member => done other (List.mem_cons_of_mem item member))
        (fun other member => kept other (List.mem_cons_of_mem item member)) invariant remaining⟩
      refine (foldlM_invariant (fun state => Invariant state ∧ Done item state) ?_
        ⟨invariant, done item List.mem_cons_self source middle initial turned⟩ remaining).2
      intro other member source target holds turned
      have later := List.mem_cons_of_mem item member
      exact ⟨preserved other later source target holds.1 turned,
        kept other later item source target holds.1 holds.2 turned⟩

/-! ## Failures -/

/-- The computation fails in allowed ways only. -/
def FailsOnly (Allowed : ε → Prop) (result : Except ε α) : Prop :=
  ∀ failure, result = .error failure → Allowed failure

section Failures

variable {Allowed : ε → Prop}

@[simp] theorem failsOnly_ok {value : α} : FailsOnly Allowed (.ok value : Except ε α) := by
  intro failure same
  cases same

@[simp] theorem failsOnly_error {failure : ε} :
    FailsOnly Allowed (.error failure : Except ε α) ↔ Allowed failure := by
  refine ⟨fun only => only failure rfl, fun allowed other same => ?_⟩
  cases same
  exact allowed

theorem FailsOnly.bind {first : Except ε α} {next : α → Except ε β}
    (only : FailsOnly Allowed first)
    (later : ∀ middle, first = .ok middle → FailsOnly Allowed (next middle)) :
    FailsOnly Allowed (first >>= next) := by
  cases first with
  | error failure => exact failsOnly_error.mpr (failsOnly_error.mp only)
  | ok middle => exact later middle rfl

/-- A loop fails as its turns do, from states that the earlier turns have left. -/
theorem FailsOnly.foldlM {step : α → β → Except ε α} (Invariant : α → Prop) {items : List β}
    (only : ∀ item ∈ items, ∀ source, Invariant source → FailsOnly Allowed (step source item))
    (preserved : ∀ item ∈ items, ∀ source target, Invariant source →
      step source item = .ok target → Invariant target)
    {source : α} (initial : Invariant source) :
    FailsOnly Allowed (items.foldlM step source) := by
  induction items generalizing source with
  | nil => exact failsOnly_ok
  | cons item rest ih =>
      rw [List.foldlM_cons]
      refine (only item List.mem_cons_self source initial).bind fun middle turned => ?_
      exact ih (fun other member => only other (List.mem_cons_of_mem item member))
        (fun other member => preserved other (List.mem_cons_of_mem item member))
        (preserved item List.mem_cons_self source middle initial turned)

end Failures

@[simp] theorem found_eq_ok_iff {failure : ε} {lookup : Option α} {value : α} :
    found failure lookup = .ok value ↔ lookup = some value := by
  cases lookup with
  | none => simp [found]
  | some other => simp [found]

@[simp] theorem require_eq_ok_iff {failure : ε} {condition : Prop} [Decidable condition]
    {reply : PUnit} : require failure condition = .ok reply ↔ condition := by
  unfold require
  split
  case isTrue holds => simp [holds]
  case isFalse fails => simp [fails]

@[simp] theorem pure_eq_ok_iff {made value : α} :
    (pure made : Except ε α) = .ok value ↔ made = value := by
  simp [pure, Except.pure]

/-- A map over a list passes with the values that its parts pass with, one for one. -/
theorem mapM_eq_ok_iff {part : α → Except ε β} {items : List α} {values : List β} :
    items.mapM part = .ok values ↔
      List.Forall₂ (fun item value => part item = .ok value) items values := by
  induction items generalizing values with
  | nil => rw [List.mapM_nil, pure_eq_ok_iff, List.forall₂_nil_left_iff, eq_comm]
  | cons item rest ih =>
      simp only [List.mapM_cons, bind_eq_ok_iff, pure_eq_ok_iff, List.forall₂_cons_left_iff, ih]
      constructor
      · rintro ⟨value, first, others, later, rfl⟩
        exact ⟨value, others, first, later, rfl⟩
      · rintro ⟨value, others, first, later, rfl⟩
        exact ⟨value, first, others, later, rfl⟩

/-- Where every part that passes passes a second check, so does the whole. -/
theorem exists_mapM_of_mapM {γ δ : Type v} {part : α → Except ε β} {key : α → γ}
    {check : γ → Except ε δ}
    (weaker : ∀ item value, part item = .ok value → ∃ checked, check (key item) = .ok checked)
    {items : List α} {values : List β} (passed : items.mapM part = .ok values) :
    ∃ results, (items.map key).mapM check = .ok results := by
  induction items generalizing values with
  | nil => exact ⟨[], rfl⟩
  | cons item rest ih =>
      rw [List.mapM_cons] at passed
      obtain ⟨value, first, passed⟩ := bind_eq_ok_iff.mp passed
      obtain ⟨others, later, -⟩ := bind_eq_ok_iff.mp passed
      obtain ⟨result, here⟩ := weaker item value first
      obtain ⟨results, there⟩ := ih later
      refine ⟨result :: results, ?_⟩
      rw [List.map_cons, List.mapM_cons, here, there]
      rfl

theorem mapM_eq_some_map {α β : Type} {part : α → Option β} {value : α → β} {items : List α}
    (each : ∀ item ∈ items, part item = some (value item)) :
    items.mapM part = some (items.map value) := by
  induction items with
  | nil => rfl
  | cons item rest ih =>
      obtain ⟨here, later⟩ := List.forall_mem_cons.mp each
      rw [List.mapM_cons, here, ih later]
      rfl

/-- What is written item by item is read back item by item. -/
theorem mapM_map_eq_some {α β : Type} {written : α → β} {part : β → Option α} {items : List α}
    (each : ∀ item ∈ items, part (written item) = some item) :
    (items.map written).mapM part = some items := by
  rw [List.mapM_map]
  exact (mapM_eq_some_map each).trans (congrArg some (List.map_id' items))

/-- What a loop over partial reads lists was read from one of the items. -/
theorem exists_mem_of_mapM_eq_some {α β : Type} {part : α → Option β} {items : List α}
    {parts : List β} (listed : items.mapM part = some parts) {value : β}
    (member : value ∈ parts) : ∃ item ∈ items, part item = some value := by
  induction items generalizing parts with
  | nil =>
      cases listed
      exact absurd member List.not_mem_nil
  | cons item rest ih =>
      rw [List.mapM_cons] at listed
      obtain ⟨first, read, later⟩ := Option.bind_eq_some_iff.mp listed
      obtain ⟨others, remaining, made⟩ := Option.bind_eq_some_iff.mp later
      cases made
      rcases List.mem_cons.mp member with rfl | there
      · exact ⟨item, List.mem_cons_self, read⟩
      · obtain ⟨source, source_member, read⟩ := ih remaining there
        exact ⟨source, List.mem_cons_of_mem _ source_member, read⟩

/-- A lookup of each item succeeds as a whole when it does for every one of them. -/
theorem exists_mapM_iff {α β : Type} {part : α → Option β} {items : List α} {Holds : β → Prop} :
    (∃ parts, items.mapM part = some parts ∧ ∀ value ∈ parts, Holds value) ↔
      ∀ item ∈ items, ∃ value, part item = some value ∧ Holds value := by
  induction items with
  | nil => exact iff_of_true ⟨[], rfl, List.forall_mem_nil _⟩ (List.forall_mem_nil _)
  | cons item items ih =>
      rw [List.forall_mem_cons, ← ih, List.mapM_cons]
      constructor
      · rintro ⟨parts, listed, holds⟩
        obtain ⟨value, first, later⟩ := Option.bind_eq_some_iff.mp listed
        obtain ⟨others, rest, made⟩ := Option.bind_eq_some_iff.mp later
        cases made
        rw [List.forall_mem_cons] at holds
        exact ⟨⟨value, first, holds.1⟩, others, rest, holds.2⟩
      · rintro ⟨⟨value, first, holds⟩, others, rest, hold⟩
        refine ⟨value :: others, ?_, List.forall_mem_cons.mpr ⟨holds, hold⟩⟩
        rw [first, rest]
        rfl

end Proximity.Systems
