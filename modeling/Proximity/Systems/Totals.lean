import Mathlib.Algebra.BigOperators.Group.List.Basic
import Mathlib.Tactic.Abel
import Proximity.Systems.Collection

/-!
# Totals by key

A map from keys to amounts to which amounts are added one by one.  What stands under a key is
the sum of what has been added under it, and all that stands in the map is the sum of all.
-/

namespace Proximity.Systems

universe u v w

abbrev Totals (Key : Type u) (Amount : Type v) := Collection (MapEntry Key Amount)

namespace Totals

variable {Key : Type u} {Amount : Type v} {Item : Type w} [DecidableEq Key] [AddCommMonoid Amount]

def get? (totals : Totals Key Amount) (key : Key) : Option Amount :=
  (totals.findById? key).map MapEntry.value

/-- Nothing is under a key that is not there. -/
def total (totals : Totals Key Amount) (key : Key) : Amount := (get? totals key).getD 0

def keys (totals : Totals Key Amount) : List Key := totals.docs.map MapEntry.key

def values (totals : Totals Key Amount) : List Amount := totals.docs.map MapEntry.value

def add (totals : Totals Key Amount) (key : Key) (amount : Amount) : Totals Key Amount :=
  totals.put ⟨key, total totals key + amount⟩

def addAll (key : Item → Key) (amount : Item → Amount) (totals : Totals Key Amount)
    (items : List Item) : Totals Key Amount :=
  items.foldl (fun totals item => add totals (key item) (amount item)) totals

/-! ## One amount -/

variable (totals : Totals Key Amount)

omit [DecidableEq Key] [AddCommMonoid Amount] in
theorem keys_nodup : (keys totals).Nodup := totals.distinct

omit [AddCommMonoid Amount] in
theorem get?_eq_none_iff {key : Key} : get? totals key = none ↔ key ∉ keys totals := by
  rw [get?, Option.map_eq_none_iff, Collection.findById?_eq_none_iff, keys, List.mem_map,
    not_exists]
  exact forall_congr' fun entry => (not_and).symm

omit [AddCommMonoid Amount] in
theorem get?_eq_some_iff {key : Key} {amount : Amount} :
    get? totals key = some amount ↔ ⟨key, amount⟩ ∈ totals.docs := by
  rw [get?, Option.map_eq_some_iff]
  constructor
  · rintro ⟨entry, found, rfl⟩
    obtain ⟨stored, rfl⟩ := Collection.findById?_eq_some_iff.mp found
    exact stored
  · intro stored
    exact ⟨⟨key, amount⟩, Collection.findById?_eq_some_iff.mpr ⟨stored, rfl⟩, rfl⟩

omit [AddCommMonoid Amount] in
theorem get?_put (key other : Key) (amount : Amount) :
    get? (totals.put ⟨key, amount⟩) other =
      if other = key then some amount else get? totals other := by
  rw [get?, Collection.findById?_put]
  exact apply_ite (Option.map MapEntry.value) (other = key) (some ⟨key, amount⟩) _

theorem total_add (key other : Key) (amount : Amount) :
    total (add totals key amount) other =
      total totals other + if other = key then amount else 0 := by
  rw [total, add, get?_put]
  split
  case isTrue here => rw [Option.getD_some, here]
  case isFalse elsewhere =>
    rw [add_zero]
    rfl

theorem mem_keys_add {key other : Key} {amount : Amount} :
    other ∈ keys (add totals key amount) ↔ other ∈ keys totals ∨ other = key := by
  rw [← not_iff_not, ← get?_eq_none_iff, add, get?_put, not_or, ← get?_eq_none_iff]
  split
  case isTrue same => exact iff_of_false (Option.some_ne_none _) fun both => both.2 same
  case isFalse apart => exact (and_iff_left apart).symm

/-! ## A list of amounts -/

variable (key : Item → Key) (amount : Item → Amount)

theorem total_addAll (items : List Item) (wanted : Key) :
    total (addAll key amount totals items) wanted =
      total totals wanted +
        ((items.filter fun item => decide (key item = wanted)).map amount).sum := by
  induction items generalizing totals with
  | nil => exact (add_zero _).symm
  | cons item rest ih =>
      rw [addAll, List.foldl_cons, ← addAll, ih, total_add, add_assoc]
      congr 1
      by_cases same : key item = wanted
      · simp [same]
      · simp [same, Ne.symm same]

theorem mem_keys_addAll {items : List Item} {wanted : Key} :
    wanted ∈ keys (addAll key amount totals items) ↔
      wanted ∈ keys totals ∨ wanted ∈ items.map key := by
  induction items generalizing totals with
  | nil => exact (or_iff_left List.not_mem_nil).symm
  | cons item rest ih =>
      rw [addAll, List.foldl_cons, ← addAll, ih, mem_keys_add, or_assoc, List.map_cons,
        List.mem_cons]

/-- What stands in the map is what stands under its keys. -/
theorem values_eq_map_total : values totals = (keys totals).map (total totals) := by
  rw [values, keys, List.map_map]
  refine List.map_congr_left fun entry stored => ?_
  have found := (get?_eq_some_iff totals).mpr stored
  rw [Function.comp_apply, total, found, Option.getD_some]

theorem sum_map_ite {listed : List Key} (distinct : listed.Nodup) (wanted : Key)
    (amount : Amount) :
    (listed.map fun key => if wanted = key then amount else 0).sum =
      if wanted ∈ listed then amount else 0 := by
  induction listed with
  | nil => rfl
  | cons first rest ih =>
      obtain ⟨fresh, others⟩ := List.nodup_cons.mp distinct
      rw [List.map_cons, List.sum_cons, ih others]
      by_cases same : wanted = first
      · subst same
        simp [fresh]
      · simp [same]

/-- The sums under distinct keys are the sum of the items of these keys. -/
theorem sum_by_key {listed : List Key} (distinct : listed.Nodup) (items : List Item) :
    (listed.map fun wanted =>
      ((items.filter fun item => decide (key item = wanted)).map amount).sum).sum =
      ((items.filter fun item => decide (key item ∈ listed)).map amount).sum := by
  induction items with
  | nil => simp
  | cons item rest ih =>
      have split : ∀ wanted,
          (((item :: rest).filter fun item => decide (key item = wanted)).map amount).sum =
            (if key item = wanted then amount item else 0) +
              ((rest.filter fun item => decide (key item = wanted)).map amount).sum := by
        intro wanted
        by_cases same : key item = wanted
        · simp [same]
        · simp [same]
      simp only [split, List.sum_map_add, ih, sum_map_ite distinct]
      by_cases there : key item ∈ listed
      · simp [there]
      · simp [there]

theorem total_empty (wanted : Key) : total (Collection.empty : Totals Key Amount) wanted = 0 := rfl

theorem total_addAll_empty (items : List Item) (wanted : Key) :
    total (addAll key amount Collection.empty items) wanted =
      ((items.filter fun item => decide (key item = wanted)).map amount).sum := by
  rw [total_addAll, total_empty, zero_add]

theorem mem_keys_addAll_empty {items : List Item} {wanted : Key} :
    wanted ∈ keys (addAll key amount (Collection.empty : Totals Key Amount) items) ↔
      wanted ∈ items.map key := by
  rw [mem_keys_addAll]
  exact or_iff_right List.not_mem_nil

/-- All that stands in the map is all that has been added. -/
theorem sum_values_addAll (items : List Item) :
    (values (addAll key amount Collection.empty items)).sum = (items.map amount).sum := by
  have every : items.filter (fun item =>
      decide (key item ∈ keys (addAll key amount Collection.empty items))) = items := by
    refine List.filter_eq_self.mpr fun item member => decide_eq_true ?_
    exact (mem_keys_addAll_empty key amount).mpr (List.mem_map_of_mem member)
  rw [values_eq_map_total, List.map_congr_left fun wanted _ => total_addAll_empty key amount items
    wanted, sum_by_key key amount (keys_nodup _), every]

end Totals

end Proximity.Systems
