import Mathlib.Data.List.Rotate

/-!
# Turning a list

A turn brings the last element to the front.  What stands last after each of as many turns as
the list is long is every element once.
-/

namespace Proximity.Systems.Rotation

universe u

variable {Element : Type u}

def turned (list : List Element) : List Element := list.getLast?.toList ++ list.dropLast

@[simp] theorem turned_concat (front : List Element) (last : Element) :
    turned (front ++ [last]) = last :: front := by
  simp [turned]

@[simp] theorem length_turned (list : List Element) : (turned list).length = list.length := by
  rcases List.eq_nil_or_concat' list with rfl | ⟨front, last, rfl⟩
  · rfl
  · simp

theorem turned_isRotated (list : List Element) : turned list ~r list := by
  rcases List.eq_nil_or_concat' list with rfl | ⟨front, last, rfl⟩
  · exact List.IsRotated.refl []
  · rw [turned_concat]
    exact List.isRotated_append (l := [last])

theorem turns_isRotated (list : List Element) (count : Nat) : turned^[count] list ~r list := by
  induction count with
  | zero => exact List.IsRotated.refl list
  | succ count ih =>
      rw [Function.iterate_succ_apply']
      exact (turned_isRotated _).trans ih

/-- What stands last after each of the first `count` turns. -/
def seen (list : List Element) (count : Nat) : List Element :=
  (List.range count).filterMap fun turn => (turned^[turn + 1] list).getLast?

@[simp] theorem seen_zero (list : List Element) : seen list 0 = [] := rfl

theorem seen_succ {list front : List Element} {count : Nat} {last : Element}
    (stands : turned (turned^[count] list) = front ++ [last]) :
    seen list (count + 1) = seen list count ++ [last] := by
  rw [seen, List.range_succ, List.filterMap_append, ← seen]
  simp [Function.iterate_succ_apply', stands]

theorem seen_subset (list : List Element) {fewer more : Nat} (le : fewer ≤ more) :
    seen list fewer ⊆ seen list more := by
  intro element member
  obtain ⟨turn, early, stands⟩ := List.mem_filterMap.mp member
  have soon : turn < fewer := List.mem_range.mp early
  exact List.mem_filterMap.mpr ⟨turn, List.mem_range.mpr (Nat.lt_of_lt_of_le soon le), stands⟩

/-- The turns take the elements from behind and put them, in the same order, in front. -/
theorem seen_split (list : List Element) {count : Nat} (bound : count ≤ list.length) :
    ∃ ahead, ahead.length + count = list.length ∧
      turned list = ahead ++ (seen list count).reverse ∧
      turned (turned^[count] list) = (seen list count).reverse ++ ahead := by
  induction count with
  | zero => exact ⟨turned list, by simp, by simp, by simp⟩
  | succ count ih =>
      obtain ⟨ahead, long, behind, turning⟩ := ih (by omega)
      rcases List.eq_nil_or_concat' ahead with rfl | ⟨front, last, rfl⟩
      · simp only [List.length_nil] at long
        omega
      · have stands : turned (turned^[count] list) =
            ((seen list count).reverse ++ front) ++ [last] := by
          simp [turning]
        have next := seen_succ stands
        refine ⟨front, ?_, ?_, ?_⟩
        · simp only [List.length_append, List.length_singleton] at long
          omega
        · simp [next, behind]
        · rw [Function.iterate_succ_apply', turning, ← List.append_assoc, turned_concat, next]
          simp

/-- A full round sees every element once. -/
theorem seen_perm (list : List Element) : (seen list list.length).Perm list := by
  obtain ⟨ahead, long, behind, -⟩ := seen_split list (Nat.le_refl _)
  have nothing : ahead = [] := List.eq_nil_of_length_eq_zero (by omega)
  rw [nothing, List.nil_append] at behind
  exact (List.reverse_perm _).symm.trans (behind ▸ (turned_isRotated list).perm)

/-- What a rotation leaves in front of its last element is the list without that element,
rotated. -/
theorem isRotated_without {front list : List Element} {last : Element}
    (rotated : front ++ [last] ~r list) :
    ∃ before after, list = before ++ last :: after ∧ front ~r before ++ after := by
  obtain ⟨count, bound, rfl⟩ := List.isRotated_iff_mod.mp rotated
  rcases Nat.lt_or_ge front.length count with past | inside
  · have all : count = (front ++ [last]).length := by
      simp only [List.length_append, List.length_singleton] at bound ⊢
      omega
    rw [all, List.rotate_length]
    exact ⟨front, [], rfl, by rw [List.append_nil]⟩
  · refine ⟨front.drop count, front.take count, ?_, ⟨count, ?_⟩⟩
    · rw [List.rotate_eq_drop_append_take bound, List.drop_append_of_le_length inside,
        List.take_append_of_le_length inside, List.append_assoc, List.singleton_append]
    · exact List.rotate_eq_drop_append_take inside

end Proximity.Systems.Rotation
