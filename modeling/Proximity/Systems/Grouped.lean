import Mathlib.Data.List.Basic
import Mathlib.Data.List.TakeWhile
import Proximity.Systems.Slices

/-!
# Entries sorted by a key

In a sorted array the entries of a key are one run, which starts where those of the smaller keys
end.
-/

namespace Proximity.Systems

universe u

variable {Entry : Type u} (key : Entry → ℕ)

/-- The entries come by increasing key. -/
def SortedBy (entries : List Entry) : Prop :=
  entries.Pairwise fun first second => key first ≤ key second

def ofKey (entries : List Entry) (value : ℕ) : List Entry :=
  entries.filter fun entry => key entry == value

/-- The number of entries with a smaller key. -/
def below (entries : List Entry) (value : ℕ) : ℕ :=
  entries.countP fun entry => decide (key entry < value)

variable {key} {entries : List Entry} {value : ℕ}

theorem SortedBy.split (sorted : SortedBy key entries) (value : ℕ) :
    entries = entries.filter (fun entry => decide (key entry < value)) ++
      entries.filter fun entry => decide (value ≤ key entry) := by
  induction entries with
  | nil => rfl
  | cons first rest ih =>
      obtain ⟨least, sorted⟩ := List.pairwise_cons.mp sorted
      by_cases small : key first < value
      case pos =>
        rw [List.filter_cons, List.filter_cons, if_pos (decide_eq_true small),
          if_neg (by rw [decide_eq_true_iff]; omega), List.cons_append, ← ih sorted]
      case neg =>
        have large : ∀ entry ∈ first :: rest, value ≤ key entry := by
          intro entry member
          rcases List.mem_cons.mp member with rfl | later
          · exact Nat.le_of_not_lt small
          · exact Nat.le_trans (Nat.le_of_not_lt small) (least entry later)
        rw [List.filter_eq_nil_iff.mpr fun entry member => by
            rw [decide_eq_true_iff]
            exact Nat.not_lt_of_le (large entry member),
          List.filter_eq_self.mpr fun entry member => decide_eq_true (large entry member),
          List.nil_append]

theorem below_eq_length (entries : List Entry) (value : ℕ) :
    below key entries value =
      (entries.filter fun entry => decide (key entry < value)).length :=
  List.countP_eq_length_filter

theorem SortedBy.drop (sorted : SortedBy key entries) (value : ℕ) :
    entries.drop (below key entries value) =
      entries.filter fun entry => decide (value ≤ key entry) := by
  rw [below_eq_length]
  conv_lhs => rw [sorted.split value]
  rw [List.filter_append, List.filter_filter, List.filter_filter]
  have same : (entries.filter fun entry =>
      decide (key entry < value) && decide (key entry < value)) =
      entries.filter fun entry => decide (key entry < value) :=
    List.filter_congr fun entry _ => Bool.and_self _
  have none : (entries.filter fun entry =>
      decide (key entry < value) && decide (value ≤ key entry)) = [] := by
    refine List.filter_eq_nil_iff.mpr fun entry _ => ?_
    rw [Bool.and_eq_true, decide_eq_true_iff, decide_eq_true_iff]
    omega
  rw [same, none, List.append_nil, List.drop_left]

/-- From where the smaller keys end, first come the entries of the key, then the larger ones. -/
theorem SortedBy.drop_eq_append (sorted : SortedBy key entries) (value : ℕ) :
    entries.drop (below key entries value) =
      ofKey key entries value ++ entries.drop (below key entries (value + 1)) := by
  have later : SortedBy key (entries.drop (below key entries value)) := List.Pairwise.drop sorted
  rw [later.split (value + 1), sorted.drop, sorted.drop, List.filter_filter, List.filter_filter]
  congr 1
  · refine List.filter_congr fun entry _ => Bool.eq_iff_iff.mpr ?_
    rw [Bool.and_eq_true, decide_eq_true_iff, decide_eq_true_iff, beq_iff_eq]
    omega
  · refine List.filter_congr fun entry _ => Bool.eq_iff_iff.mpr ?_
    rw [Bool.and_eq_true, decide_eq_true_iff, decide_eq_true_iff]
    omega

theorem below_succ (entries : List Entry) (value : ℕ) :
    below key entries (value + 1) = below key entries value + (ofKey key entries value).length := by
  induction entries with
  | nil => rfl
  | cons first rest ih =>
      rw [below, below, ofKey, List.countP_cons, List.countP_cons, List.filter_cons]
      rw [below, below, ofKey] at ih
      rw [ih]
      rcases Nat.lt_trichotomy (key first) value with less | same | more
      case inl =>
        rw [if_pos (decide_eq_true (by omega)), if_pos (decide_eq_true less),
          if_neg (by rw [beq_iff_eq]; omega)]
        omega
      case inr.inl =>
        rw [if_pos (decide_eq_true (by omega)), if_neg (by rw [decide_eq_true_iff]; omega),
          if_pos (beq_iff_eq.mpr same), List.length_cons]
        omega
      case inr.inr =>
        rw [if_neg (by rw [decide_eq_true_iff]; omega), if_neg (by rw [decide_eq_true_iff]; omega),
          if_neg (by rw [beq_iff_eq]; omega)]
        omega

theorem SortedBy.takeWhile (sorted : SortedBy key entries) (value : ℕ) :
    (entries.drop (below key entries value)).takeWhile (fun entry => key entry == value) =
      ofKey key entries value := by
  have own : ∀ entry ∈ ofKey key entries value, (key entry == value) = true :=
    fun entry member => (List.mem_filter.mp member).2
  rw [sorted.drop_eq_append, List.takeWhile_append_of_pos own, sorted.drop]
  have none : (entries.filter fun entry => decide (value + 1 ≤ key entry)).takeWhile
      (fun entry => key entry == value) = [] := by
    refine List.takeWhile_eq_nil_iff.mpr fun some same => ?_
    have large := (List.mem_filter.mp (List.get_mem _ ⟨0, some⟩)).2
    rw [decide_eq_true_iff] at large
    rw [beq_iff_eq] at same
    omega
  rw [none, List.append_nil]

/-- The run of a key. -/
theorem SortedBy.slice (sorted : SortedBy key entries) (value : ℕ) :
    slice entries (below key entries value) (ofKey key entries value).length =
      ofKey key entries value := by
  rw [Systems.slice, sorted.drop_eq_append, List.take_left]

theorem below_zero (entries : List Entry) : below key entries 0 = 0 :=
  List.countP_eq_zero.mpr fun entry _ => by
    rw [decide_eq_true_iff]
    exact Nat.not_lt_zero _

theorem below_mono (key : Entry → ℕ) (entries : List Entry) {first second : ℕ}
    (le : first ≤ second) : below key entries first ≤ below key entries second :=
  List.countP_mono_left fun entry _ small => by
    rw [decide_eq_true_iff] at small ⊢
    omega

theorem below_eq_self (bounded : ∀ entry ∈ entries, key entry < value) :
    below key entries value = entries.length :=
  List.countP_eq_length.mpr fun entry member => decide_eq_true (bounded entry member)

end Proximity.Systems
