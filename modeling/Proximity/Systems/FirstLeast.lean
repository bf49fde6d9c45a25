import Mathlib.Order.Lattice
import Mathlib.Data.List.Induction

/-!
# The first least element of a list

The value of an element may be unknown; the elements whose value is unknown take no part.
-/

namespace Proximity.Systems

universe u v

variable {Element : Type u} {Value : Type v} [LinearOrder Value]
  {measure : Element → Option Value}

/-- The element at `index` has the least known value, and is the first to have it. -/
structure FirstLeast (measure : Element → Option Value) (list : List Element) (index : Nat)
    (element : Element) (value : Value) : Prop where
  stands : list[index]? = some element
  known : measure element = some value
  least : ∀ other ∈ list, ∀ compared, measure other = some compared → value ≤ compared
  first : ∀ (place : Nat) (other : Element) (compared : Value), place < index →
    list[place]? = some other → measure other = some compared → value < compared

namespace FirstLeast

variable {list : List Element} {index : Nat} {element : Element} {value : Value}

theorem inside (least : FirstLeast measure list index element value) : index < list.length :=
  (List.getElem?_eq_some_iff.mp least.stands).1

theorem index_le {other : Nat} {rival : Element} {compared : Value}
    (least : FirstLeast measure list index element value)
    (again : FirstLeast measure list other rival compared) : index ≤ other := by
  by_contra earlier
  have below := least.first other rival compared (by omega) again.stands again.known
  have above := again.least element (List.mem_of_getElem? least.stands) value least.known
  exact absurd below (not_lt_of_ge above)

theorem unique {other : Nat} {rival : Element} {compared : Value}
    (least : FirstLeast measure list index element value)
    (again : FirstLeast measure list other rival compared) :
    index = other ∧ element = rival ∧ value = compared := by
  have place : index = other := Nat.le_antisymm (least.index_le again) (again.index_le least)
  subst place
  cases least.stands.symm.trans again.stands
  cases least.known.symm.trans again.known
  exact ⟨rfl, rfl, rfl⟩

theorem singleton (known : measure element = some value) :
    FirstLeast measure [element] 0 element value where
  stands := rfl
  known := known
  least := by
    intro other member compared same
    cases List.mem_singleton.mp member
    cases known.symm.trans same
    exact le_refl value
  first := fun place other compared early => absurd early (Nat.not_lt_zero place)

/-- A later element that is not less changes nothing. -/
theorem concat (least : FirstLeast measure list index element value) {last : Element}
    (worse : ∀ compared, measure last = some compared → value ≤ compared) :
    FirstLeast measure (list ++ [last]) index element value where
  stands := by rw [List.getElem?_append_left least.inside, least.stands]
  known := least.known
  least := by
    intro other member compared same
    rcases List.mem_append.mp member with before | here
    · exact least.least other before compared same
    · cases List.mem_singleton.mp here
      exact worse compared same
  first := by
    intro place other compared early there same
    rw [List.getElem?_append_left (Nat.lt_trans early least.inside)] at there
    exact least.first place other compared early there same

/-- A later element that is less than all known ones takes the place. -/
theorem concat_of_lt {last : Element} {compared : Value} (known : measure last = some compared)
    (better : ∀ other ∈ list, ∀ before, measure other = some before → compared < before) :
    FirstLeast measure (list ++ [last]) list.length last compared where
  stands := by simp
  known := known
  least := by
    intro other member before same
    rcases List.mem_append.mp member with old | here
    · exact le_of_lt (better other old before same)
    · cases List.mem_singleton.mp here
      cases known.symm.trans same
      exact le_refl compared
  first := by
    intro place other before early there same
    rw [List.getElem?_append_left early] at there
    exact better other (List.mem_of_getElem? there) before same

theorem exists_of_known {list : List Element} (some_known : ∃ element ∈ list,
    ∃ value, measure element = some value) :
    ∃ index element value, FirstLeast measure list index element value := by
  induction list using List.reverseRecOn with
  | nil =>
      obtain ⟨element, member, -⟩ := some_known
      cases member
  | append_singleton front last ih =>
      by_cases before : ∃ element ∈ front, ∃ value, measure element = some value
      · obtain ⟨index, element, value, least⟩ := ih before
        by_cases better : ∃ compared, measure last = some compared ∧ compared < value
        · obtain ⟨compared, known, less⟩ := better
          exact ⟨front.length, last, compared, concat_of_lt known fun other member before same =>
            lt_of_lt_of_le less (least.least other member before same)⟩
        · exact ⟨index, element, value, least.concat fun compared same =>
            le_of_not_gt fun less => better ⟨compared, same, less⟩⟩
      · obtain ⟨element, member, value, known⟩ := some_known
        rcases List.mem_append.mp member with old | here
        · exact absurd ⟨element, old, value, known⟩ before
        · cases List.mem_singleton.mp here
          exact ⟨front.length, last, value, concat_of_lt known fun other old compared same =>
            absurd ⟨other, old, compared, same⟩ before⟩

end FirstLeast

end Proximity.Systems
