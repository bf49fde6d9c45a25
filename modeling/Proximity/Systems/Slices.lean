import Mathlib.Data.List.Basic
import Mathlib.Data.List.Perm.Basic
import Mathlib.Data.List.TakeDrop

/-!
# Slices of an array

A slice is the run of `count` entries that starts at `first`.
-/

namespace Proximity.Systems

universe u

variable {Entry : Type u}

def slice (entries : List Entry) (first count : ℕ) : List Entry :=
  (entries.drop first).take count

/-- `entries[destination] = entries[source]`. -/
def copyEntry (entries : List Entry) (destination source : ℕ) : List Entry :=
  match entries[source]? with
  | some entry => entries.set destination entry
  | none => entries

section Slices

variable {entries others : List Entry} {first first' count : ℕ}

theorem getElem?_slice (index : ℕ) :
    (slice entries first count)[index]? =
      if index < count then entries[first + index]? else none := by
  rw [slice, List.getElem?_take]
  split
  case isTrue => rw [List.getElem?_drop]
  case isFalse => rfl

theorem slice_zero : slice entries first 0 = [] := by
  rw [slice, List.take_zero]

/-- Slices with the same entries are the same. -/
theorem slice_congr
    (same : ∀ index < count, others[first' + index]? = entries[first + index]?) :
    slice others first' count = slice entries first count := by
  refine List.ext_getElem? fun index => ?_
  rw [getElem?_slice, getElem?_slice]
  split
  case isTrue inside => exact same index inside
  case isFalse => rfl

theorem slice_succ {entry : Entry} (last : entries[first + count]? = some entry) :
    slice entries first (count + 1) = slice entries first count ++ [entry] := by
  have dropped : (entries.drop first)[count]? = some entry := by rw [List.getElem?_drop, last]
  rw [slice, List.take_add_one, dropped, Option.toList_some, slice]

theorem slice_cons {entry : Entry} (head : entries[first]? = some entry) :
    slice entries first (count + 1) = entry :: slice entries (first + 1) count := by
  obtain ⟨inside, rfl⟩ := List.getElem?_eq_some_iff.mp head
  rw [slice, List.drop_eq_getElem_cons inside, List.take_succ_cons, slice]

theorem mem_slice {entry : Entry} :
    entry ∈ slice entries first count ↔
      ∃ index, first ≤ index ∧ index < first + count ∧ entries[index]? = some entry := by
  rw [List.mem_iff_getElem?]
  constructor
  · rintro ⟨index, found⟩
    rw [getElem?_slice] at found
    split at found
    case isTrue inside => exact ⟨first + index, by omega, by omega, found⟩
    case isFalse => cases found
  · rintro ⟨index, low, high, found⟩
    refine ⟨index - first, ?_⟩
    rw [getElem?_slice, if_pos (by omega), Nat.add_sub_cancel' low, found]

end Slices

section Copies

variable {entries : List Entry} {destination source : ℕ} {entry : Entry}

theorem copyEntry_eq (found : entries[source]? = some entry) :
    copyEntry entries destination source = entries.set destination entry := by
  rw [copyEntry, found]

theorem length_copyEntry : (copyEntry entries destination source).length = entries.length := by
  rw [copyEntry]
  split
  · exact List.length_set
  · rfl

theorem getElem?_copyEntry_ne {index : ℕ} (ne : index ≠ destination) :
    (copyEntry entries destination source)[index]? = entries[index]? := by
  rw [copyEntry]
  split
  · exact List.getElem?_set_ne (Ne.symm ne)
  · rfl

theorem getElem?_copyEntry_self (inside : destination < entries.length)
    (found : entries[source]? = some entry) :
    (copyEntry entries destination source)[destination]? = some entry := by
  rw [copyEntry_eq found, List.getElem?_set_self inside]

end Copies

end Proximity.Systems
