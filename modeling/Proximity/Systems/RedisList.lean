import Mathlib.Data.List.Basic

/-!
# Redis list commands

A list value is kept head first.  A command on a missing key acts on the empty
list; `none` is an error reply, or a command that blocks.
-/

namespace Proximity.Systems.RedisList

universe u

variable {Element : Type u}

def rpush (list : List Element) (element : Element) : List Element := list ++ [element]

def rpop (list : List Element) : Option Element × List Element :=
  (list.getLast?, list.dropLast)

def llen (list : List Element) : Nat := list.length

def lindex (list : List Element) (index : Nat) : Option Element := list[index]?

/-- `LSET` replies with an error when the index is past the end. -/
def lset? (list : List Element) (index : Nat) (element : Element) : Option (List Element) :=
  if index < list.length then some (list.set index element) else none

/-- `LREM key 1 element` removes the first equal element, if there is one. -/
def lrem [DecidableEq Element] (list : List Element) (element : Element) : List Element :=
  list.erase element

/-- `BRPOPLPUSH` from a list to itself; it blocks while the list is empty. -/
def brpoplpush? (list : List Element) : Option (List Element) :=
  list.getLast?.map fun last => last :: list.dropLast

section Count

variable [DecidableEq Element]

theorem count_rpush (list : List Element) (pushed element : Element) :
    (rpush list pushed).count element = list.count element + if pushed = element then 1 else 0 := by
  simp [rpush, List.count_append, List.count_singleton]

theorem count_rpop (list : List Element) (element : Element) :
    (rpop list).2.count element + (if (rpop list).1 = some element then 1 else 0) =
      list.count element := by
  cases found : list.getLast? with
  | none =>
      rw [List.getLast?_eq_none_iff] at found
      subst found
      rfl
  | some last =>
      have split := List.dropLast_append_getLast? last (by simpa using found)
      conv_rhs => rw [← split, List.count_append]
      simp [rpop, found, List.count_singleton]

omit [DecidableEq Element] in
theorem lset?_eq_some {list updated : List Element} {index : Nat} {element : Element}
    (done : lset? list index element = some updated) :
    ∃ replaced, list[index]? = some replaced ∧ updated = list.set index element := by
  unfold lset? at done
  split at done
  case isTrue inside =>
      exact ⟨list[index], List.getElem?_eq_getElem inside, (Option.some.inj done).symm⟩
  case isFalse => cases done

/-- `LSET` trades one occurrence of the replaced element for one of the new. -/
theorem count_set {list : List Element} {index : Nat} {replaced : Element}
    (found : list[index]? = some replaced) (written element : Element) :
    (list.set index written).count element + (if replaced = element then 1 else 0) =
      list.count element + if written = element then 1 else 0 := by
  obtain ⟨inside, same⟩ := List.getElem?_eq_some_iff.mp found
  have present : replaced ∈ list := same ▸ List.getElem_mem inside
  have positive : replaced = element → 0 < list.count element := by
    rintro rfl
    exact List.count_pos_iff.mpr present
  rw [List.count_set inside, same]
  by_cases old : replaced = element
  · have := positive old
    simp only [old, beq_self_eq_true, if_true, beq_iff_eq]
    omega
  · simp only [old, beq_iff_eq, if_false, Nat.sub_zero, Nat.add_zero]

theorem count_lrem_of_ne (list : List Element) {removed element : Element}
    (different : element ≠ removed) :
    (lrem list removed).count element = list.count element :=
  List.count_erase_of_ne different

/-- The mark that `LSET` writes over an entry lets `LREM` remove exactly that entry. -/
theorem lrem_set {list : List Element} {mark : Element} (fresh : mark ∉ list) {index : Nat}
    (inside : index < list.length) : lrem (list.set index mark) mark = list.eraseIdx index := by
  induction list generalizing index with
  | nil => exact absurd inside (Nat.not_lt_zero index)
  | cons head rest ih =>
      cases index with
      | zero => simp [lrem]
      | succ index =>
          have here : head ≠ mark := fun same => fresh (same ▸ List.mem_cons_self)
          have later := ih (fun member => fresh (List.mem_cons_of_mem head member))
            (Nat.lt_of_succ_lt_succ inside)
          simp only [lrem] at later
          simp [lrem, here, later]

theorem count_brpoplpush {list rotated : List Element}
    (done : brpoplpush? list = some rotated) (element : Element) :
    rotated.count element = list.count element := by
  obtain ⟨last, found, rfl⟩ := Option.map_eq_some_iff.mp done
  have popped := count_rpop list element
  simp only [rpop, found, Option.some.injEq] at popped
  rw [List.count_cons, ← popped]
  simp only [beq_iff_eq]

end Count

end Proximity.Systems.RedisList
