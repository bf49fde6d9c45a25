import Mathlib.Data.List.Count

/-!
# Loops with a flag that is never lowered

A loop over items acts at an item when its flag is up.  An item may raise the flag, pass it on
as it is, or stop the loop.
-/

namespace Proximity.Systems

universe u

variable {Item : Type u}

inductive Verdict where
  | stops
  | raises
  | passes
  deriving DecidableEq, Repr

/-- The items at which the loop acts. -/
def latched (judge : Item → Verdict) : Bool → List Item → List Item
  | _, [] => []
  | raised, item :: rest =>
      match judge item with
      | .stops => []
      | .raises => item :: latched judge true rest
      | .passes =>
          if raised then item :: latched judge raised rest else latched judge raised rest

section Rules

variable {judge : Item → Verdict}

theorem latched_subset (raised : Bool) (items : List Item) :
    latched judge raised items ⊆ items := by
  induction items generalizing raised with
  | nil => exact List.Subset.refl []
  | cons head rest ih =>
      intro item acted
      unfold latched at acted
      split at acted
      case h_1 => cases acted
      case h_2 =>
          rcases List.mem_cons.mp acted with rfl | later
          · exact List.mem_cons_self
          · exact List.mem_cons_of_mem head (ih true later)
      case h_3 =>
          split at acted
          case isTrue =>
              rcases List.mem_cons.mp acted with rfl | later
              · exact List.mem_cons_self
              · exact List.mem_cons_of_mem head (ih raised later)
          case isFalse => exact List.mem_cons_of_mem head (ih raised acted)

/-- The loop acts at an item that it meets once when nothing before it stops the loop and the
flag is up by then. -/
theorem mem_latched_iff {item : Item} {before after : List Item} (not_before : item ∉ before)
    (not_after : item ∉ after) (raised : Bool) :
    item ∈ latched judge raised (before ++ item :: after) ↔
      (∀ earlier ∈ before, judge earlier ≠ .stops) ∧
        (judge item = .raises ∨ judge item = .passes ∧
          (raised = true ∨ ∃ earlier ∈ before, judge earlier = .raises)) := by
  induction before generalizing raised with
  | nil =>
      have absent : ∀ flag, item ∉ latched judge flag after :=
        fun flag acted => not_after (latched_subset flag after acted)
      rw [List.nil_append, latched]
      split
      case h_1 stops => simp [stops]
      case h_2 raises => simp [raises]
      case h_3 passes => cases raised <;> simp [passes, absent]
  | cons head rest ih =>
      obtain ⟨apart, not_rest⟩ := not_or.mp (mt List.mem_cons.mpr not_before)
      rw [List.cons_append, latched]
      split
      case h_1 stops => simp [stops]
      case h_2 raises => simp [raises, apart, ih not_rest true]
      case h_3 passes => cases raised <;> simp [passes, apart, ih not_rest]

variable [DecidableEq Item]

theorem split_of_count_eq_one {item : Item} {items : List Item} (once : items.count item = 1) :
    ∃ before after, items = before ++ item :: after ∧ item ∉ before ∧ item ∉ after := by
  have member : item ∈ items := List.count_pos_iff.mp (once ▸ Nat.one_pos)
  obtain ⟨before, after, rfl⟩ := List.append_of_mem member
  rw [List.count_append, List.count_cons_self] at once
  refine ⟨before, after, rfl, ?_, ?_⟩
  · exact List.count_eq_zero.mp (by omega)
  · exact List.count_eq_zero.mp (by omega)

/-- Whether the loop acts at the item does not depend on the other items. -/
def Independent (judge : Item → Verdict) (item : Item) : Prop :=
  ∀ first second : List Item, first.count item = 1 → second.count item = 1 →
    (item ∈ latched judge false first ↔ item ∈ latched judge false second)

/-- No other item changes what the loop does at this one. -/
def Undisturbed (judge : Item → Verdict) (item : Item) : Prop :=
  match judge item with
  | .stops => True
  | .raises => ∀ other, other ≠ item → judge other ≠ .stops
  | .passes => ∀ other, other ≠ item → judge other ≠ .raises

/-- What the loop does at an undisturbed item that it meets once. -/
theorem mem_latched_of_undisturbed {item : Item} {items : List Item}
    (undisturbed : Undisturbed judge item) (once : items.count item = 1) :
    item ∈ latched judge false items ↔ judge item = .raises := by
  obtain ⟨before, after, rfl, not_before, not_after⟩ := split_of_count_eq_one once
  have others : ∀ {earlier}, earlier ∈ before → earlier ≠ item :=
    fun member same => not_before (same ▸ member)
  rw [mem_latched_iff not_before not_after]
  unfold Undisturbed at undisturbed
  split at undisturbed
  case h_1 stops => simp [stops]
  case h_2 raises =>
      exact ⟨fun _ => raises, fun _ =>
        ⟨fun earlier member => undisturbed earlier (others member), Or.inl raises⟩⟩
  case h_3 passes =>
      refine iff_of_false ?_ (by simp [passes])
      rintro ⟨-, raises | ⟨-, raised | ⟨earlier, member, raises⟩⟩⟩
      · cases passes.symm.trans raises
      · cases raised
      · exact undisturbed earlier (others member) raises

theorem independent_iff_undisturbed {item : Item} :
    Independent judge item ↔ Undisturbed judge item := by
  constructor
  · intro independent
    have apart : ∀ other, other ≠ item →
        (item ∈ latched judge false [item] ↔ item ∈ latched judge false [other, item]) :=
      fun other different => independent [item] [other, item] List.count_singleton_self
        (by rw [List.count_cons_of_ne different, List.count_singleton_self])
    unfold Undisturbed
    split
    case h_1 => trivial
    case h_2 raises =>
        intro other different stops
        have same := apart other different
        simp [latched, raises, stops] at same
    case h_3 passes =>
        intro other different raises
        have same := apart other different
        simp [latched, raises, passes] at same
  · intro undisturbed first second first_once second_once
    rw [mem_latched_of_undisturbed undisturbed first_once,
      mem_latched_of_undisturbed undisturbed second_once]

end Rules

end Proximity.Systems
