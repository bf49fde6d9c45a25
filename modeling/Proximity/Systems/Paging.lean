import Mathlib.Data.List.Perm.Basic
import Mathlib.Order.Lattice

/-!
# Paging through a sorted list

Each page is cut out of a list of its own: all of them are the same items sorted by a key, but
items with equal keys may stand in any order, and in another one for the next page.  The pages
list every item once exactly when no page ends between items with equal keys.
-/

namespace Proximity.Systems.Paging

universe u v

variable {Item : Type u} {Key : Type v} [LinearOrder Key] (key : Item → Key)

/-- `skip` and `limit` -/
def page (size index : ℕ) (order : List Item) : List Item :=
  (order.drop (index * size)).take size

/-- The first pages, each with the order of its own query. -/
def pages (size : ℕ) (orders : ℕ → List Item) (count : ℕ) : List Item :=
  (List.range count).flatMap fun index => page size index (orders index)

/-- The items by their keys; equal keys may come in any order. -/
structure Sorted (items order : List Item) : Prop where
  perm : order.Perm items
  ascending : order.Pairwise fun first second => key first ≤ key second

/-- What stands before a place has smaller keys than what stands after it. -/
def CleanCut (order : List Item) (place : ℕ) : Prop :=
  ∀ before ∈ order.take place, ∀ after ∈ order.drop place, key before < key after

/-! ## Pages -/

theorem pages_zero (size : ℕ) (orders : ℕ → List Item) : pages size orders 0 = [] := rfl

theorem pages_succ (size : ℕ) (orders : ℕ → List Item) (count : ℕ) :
    pages size orders (count + 1) =
      pages size orders count ++ page size count (orders count) := by
  rw [pages, List.range_succ, List.flatMap_append, List.flatMap_singleton, ← pages]

theorem pages_sublist (size : ℕ) (orders : ℕ → List Item) {fewer more : ℕ} (le : fewer ≤ more) :
    (pages size orders fewer).Sublist (pages size orders more) := by
  induction le with
  | refl => exact List.Sublist.refl _
  | step _ ih =>
      rw [pages_succ]
      exact ih.trans (List.sublist_append_left _ _)

/-- A page is what its end adds to its beginning. -/
theorem take_append_page (size index : ℕ) (order : List Item) :
    order.take (index * size) ++ page size index order = order.take ((index + 1) * size) := by
  rw [page, Nat.succ_mul, List.take_add]

theorem getElem?_page {size place : ℕ} (inside : place < size) (index : ℕ) (order : List Item) :
    (page size index order)[place]? = order[index * size + place]? := by
  rw [page, List.getElem?_take_of_lt inside, List.getElem?_drop]

theorem page_map {Other : Type u} (read : Item → Other) (size index : ℕ) (order : List Item) :
    (page size index order).map read = page size index (order.map read) := by
  rw [page, page, List.map_take, List.map_drop]

theorem pages_map {Other : Type u} (read : Item → Other) (size : ℕ) (orders : ℕ → List Item)
    (count : ℕ) : (pages size orders count).map read =
      pages size (fun index => (orders index).map read) count := by
  rw [pages, pages, List.map_flatMap]
  exact List.flatMap_congr fun index _ => page_map read size index (orders index)

theorem mem_of_pages {size count : ℕ} {orders : ℕ → List Item} {item : Item}
    (member : item ∈ pages size orders count) : ∃ index, item ∈ orders index := by
  obtain ⟨index, _, shown⟩ := List.mem_flatMap.mp member
  exact ⟨index, List.mem_of_mem_drop (List.mem_of_mem_take shown)⟩

/-! ## Clean cuts -/

section Cuts

variable {key}

/-- In a sorted list, what is below a threshold comes first. -/
theorem filter_eq_take {order : List Item}
    (ascending : order.Pairwise fun first second => key first ≤ key second) {Below : Item → Bool}
    (closed : ∀ first second, key first ≤ key second → Below second = true → Below first = true) :
    order.filter Below = order.take (order.filter Below).length := by
  induction order with
  | nil => rfl
  | cons first rest ih =>
      obtain ⟨least, sorted⟩ := List.pairwise_cons.mp ascending
      cases below : Below first with
      | true =>
          rw [List.filter_cons_of_pos below, List.length_cons, List.take_succ_cons, ← ih sorted]
      | false =>
          have none_below : (first :: rest).filter Below = [] := by
            refine List.filter_eq_nil_iff.mpr fun item member holds => ?_
            have le : key first ≤ key item := by
              rcases List.mem_cons.mp member with rfl | later
              · exact le_refl _
              · exact least item later
            rw [closed first item le holds] at below
            cases below
          rw [none_below]
          rfl

/-- Before a clean cut the same items stand in every order. -/
theorem take_perm_of_cleanCut {items first second : List Item} (sorted : Sorted key items first)
    (sorted' : Sorted key items second) {place : ℕ} (clean : CleanCut key first place) :
    (second.take place).Perm (first.take place) := by
  classical
  let Below : Item → Bool := fun item => decide (∀ after ∈ first.drop place, key item < key after)
  have closed : ∀ one other, key one ≤ key other → Below other = true → Below one = true :=
    fun one other le below =>
      decide_eq_true fun after member => le.trans_lt (of_decide_eq_true below after member)
  have before : first.filter Below = first.take place := by
    have front : (first.take place).filter Below = first.take place :=
      List.filter_eq_self.mpr fun item member => decide_eq_true (clean item member)
    have back : (first.drop place).filter Below = [] :=
      List.filter_eq_nil_iff.mpr fun item member below =>
        lt_irrefl _ (of_decide_eq_true below item member)
    rw [← List.take_append_drop place first, List.filter_append, List.take_append_drop, front,
      back, List.append_nil]
  have same : (second.filter Below).Perm (first.filter Below) :=
    (sorted'.perm.trans sorted.perm.symm).filter Below
  have length : (second.filter Below).length = min place second.length := by
    rw [same.length_eq, before, List.length_take,
      (sorted.perm.trans sorted'.perm.symm).length_eq]
  have front : second.filter Below = second.take place := by
    refine (filter_eq_take sorted'.ascending closed).trans (List.take_eq_take_iff.mpr ?_)
    rw [length, min_assoc, min_self]
  rw [← front, ← before]
  exact same

/-- Two neighbours with equal keys may change their places. -/
theorem Sorted.swap {items front back : List Item} {item next : Item}
    (sorted : Sorted key items (front ++ item :: next :: back)) (tied : key next ≤ key item) :
    Sorted key items (front ++ next :: item :: back) := by
  obtain ⟨fronts, others, across⟩ := List.pairwise_append.mp sorted.ascending
  obtain ⟨leItem, others⟩ := List.pairwise_cons.mp others
  obtain ⟨leNext, backs⟩ := List.pairwise_cons.mp others
  constructor
  case perm => exact ((List.Perm.swap item next back).append_left front).trans sorted.perm
  case ascending =>
    refine List.pairwise_append.mpr ⟨fronts, ?_, fun first member second later => ?_⟩
    · refine List.pairwise_cons.mpr ⟨?_, List.pairwise_cons.mpr ⟨fun other later => ?_, backs⟩⟩
      · exact List.forall_mem_cons.mpr ⟨tied, leNext⟩
      · exact leItem other (List.mem_cons_of_mem _ later)
    · exact across first member second ((List.Perm.swap item next back).mem_iff.mp later)

/-- A cut that is not clean is between two neighbours with equal keys. -/
theorem exists_tied {items order : List Item} (sorted : Sorted key items order) {place : ℕ}
    (unclean : ¬CleanCut key order place) :
    ∃ front item next back, order = front ++ item :: next :: back ∧ front.length + 1 = place ∧
      key next ≤ key item := by
  unfold CleanCut at unclean
  push Not at unclean
  obtain ⟨before, early, after, late, le⟩ := unclean
  obtain ⟨front, item, ends⟩ : ∃ front item, order.take place = front ++ [item] := by
    rcases List.eq_nil_or_concat' (order.take place) with empty | ⟨front, item, ends⟩
    · rw [empty] at early
      exact absurd early List.not_mem_nil
    · exact ⟨front, item, ends⟩
  obtain ⟨next, back, begins⟩ := List.exists_cons_of_ne_nil (List.ne_nil_of_mem late)
  have whole : order = front ++ item :: next :: back := by
    rw [← List.take_append_drop place order, ends, begins, List.append_assoc]
    rfl
  have inside : place < order.length := by
    by_contra beyond
    rw [List.drop_of_length_le (not_lt.mp beyond)] at late
    exact List.not_mem_nil late
  have length : front.length + 1 = place := by
    have taken := congrArg List.length ends
    rw [List.length_take_of_le inside.le, List.length_append, List.length_singleton] at taken
    exact taken.symm
  have ascending := sorted.ascending
  rw [whole] at ascending
  obtain ⟨_, others, across⟩ := List.pairwise_append.mp ascending
  have beforeItem : key before ≤ key item := by
    rw [ends] at early
    rcases List.mem_append.mp early with earlier | last
    · exact across before earlier item List.mem_cons_self
    · rw [List.mem_singleton.mp last]
  have nextAfter : key next ≤ key after := by
    rw [begins] at late
    rcases List.mem_cons.mp late with rfl | later
    · exact le_refl _
    · exact (List.pairwise_cons.mp (List.pairwise_cons.mp others).2).1 after later
  exact ⟨front, item, next, back, whole, length, nextAfter.trans (le.trans beforeItem)⟩

end Cuts

/-! ## All pages -/

section Exhaustive

variable {key} {items order : List Item} {size : ℕ}

/-- With clean cuts the pages of all queries together are a beginning of one order. -/
theorem pages_perm_take (sorted : Sorted key items order)
    (clean : ∀ index, CleanCut key order (index * size)) {orders : ℕ → List Item}
    (all : ∀ index, Sorted key items (orders index)) (count : ℕ) :
    (pages size orders count).Perm (order.take (count * size)) := by
  induction count with
  | zero =>
      rw [pages_zero, Nat.zero_mul, List.take_zero]
  | succ count ih =>
      rw [pages_succ]
      refine (ih.append_right _).trans ?_
      have before := take_perm_of_cleanCut sorted (all count) (clean count)
      refine (before.symm.append_right _).trans ?_
      rw [take_append_page]
      exact take_perm_of_cleanCut sorted (all count) (clean (count + 1))

theorem pages_self (size count : ℕ) (order : List Item) :
    pages size (fun _ => order) count = order.take (count * size) := by
  induction count with
  | zero => rw [pages_zero, Nat.zero_mul, List.take_zero]
  | succ count ih => rw [pages_succ, ih, take_append_page]

/-- One query has two neighbours in one order, all others have them in the other one. -/
def swappedBut (index : ℕ) (front : List Item) (item next : Item) (back : List Item) (turn : ℕ) :
    List Item :=
  if turn = index then front ++ item :: next :: back else front ++ next :: item :: back

/-- Where a page ends between the two, the next page has the item before its end once more. -/
theorem not_nodup_pages {front : List Item} {index count : ℕ} (item next : Item)
    (back : List Item) (positive : 0 < size) (length : front.length + 1 = (index + 1) * size)
    (enough : index + 2 ≤ count) :
    ¬(pages size (swappedBut index front item next back) count).Nodup := by
  intro once
  have first : item ∈ page size index (front ++ item :: next :: back) := by
    have here : index * size + (size - 1) = front.length := by
      rw [Nat.succ_mul] at length
      omega
    refine List.mem_of_getElem? ((getElem?_page (Nat.sub_one_lt_of_lt positive) index _).trans ?_)
    rw [here, List.getElem?_append_right (Nat.le_refl _), Nat.sub_self]
    rfl
  have second : item ∈ page size (index + 1) (front ++ next :: item :: back) := by
    refine List.mem_of_getElem? ((getElem?_page positive (index + 1) _).trans ?_)
    have beyond : front.length + 1 - front.length = 1 := Nat.add_sub_cancel_left _ _
    rw [Nat.add_zero, ← length, List.getElem?_append_right (Nat.le_succ _), beyond]
    rfl
  have part := once.sublist (pages_sublist size _ enough)
  rw [pages_succ, pages_succ, swappedBut, if_pos rfl, swappedBut,
    if_neg (Nat.succ_ne_self index)] at part
  exact (List.nodup_append.mp part).2.2 item (List.mem_append_right _ first) item second rfl

/-- The pages list every item once, whatever the orders, exactly when every page ends between
items with different keys. -/
theorem pages_perm_iff (sorted : Sorted key items order) (distinct : items.Nodup)
    (positive : 0 < size) :
    (∀ orders : ℕ → List Item, (∀ index, Sorted key items (orders index)) →
      ∃ enough, ∀ count, enough ≤ count → (pages size orders count).Perm items) ↔
      ∀ index, CleanCut key order (index * size) := by
  constructor
  · intro exhaustive index
    by_contra unclean
    obtain ⟨front, item, next, back, rfl, length, tied⟩ := exists_tied sorted unclean
    cases index with
    | zero => exact absurd length (by rw [Nat.zero_mul]; exact Nat.succ_ne_zero _)
    | succ index =>
        have all : ∀ turn, Sorted key items (swappedBut index front item next back turn) := by
          intro turn
          unfold swappedBut
          split
          · exact sorted
          · exact sorted.swap tied
        obtain ⟨enough, listed⟩ := exhaustive _ all
        refine not_nodup_pages item next back positive length
          (Nat.le_max_right enough (index + 2)) ?_
        exact (listed _ (Nat.le_max_left _ _)).nodup_iff.mpr distinct
  · intro clean orders all
    refine ⟨items.length, fun count enough => ?_⟩
    refine (pages_perm_take sorted clean all count).trans ?_
    rw [List.take_of_length_le]
    · exact sorted.perm
    · rw [sorted.perm.length_eq]
      exact enough.trans (Nat.le_mul_of_pos_right count positive)

/-- When all keys are equal, one page must have all items. -/
theorem pages_perm_iff_of_tied (tied : ∀ first second, key first = key second)
    (distinct : items.Nodup) (positive : 0 < size) :
    (∀ orders : ℕ → List Item, (∀ index, (orders index).Perm items) →
      ∃ enough, ∀ count, enough ≤ count → (pages size orders count).Perm items) ↔
      items.length ≤ size := by
  have sorted_iff : ∀ order, Sorted key items order ↔ order.Perm items := by
    intro order
    refine ⟨Sorted.perm, fun perm => ⟨perm, ?_⟩⟩
    exact List.pairwise_of_forall fun first second => (tied first second).le
  have cuts := pages_perm_iff ((sorted_iff items).mpr (List.Perm.refl items)) distinct positive
  simp only [sorted_iff] at cuts
  rw [cuts]
  constructor
  · intro clean
    by_contra long
    have some_before : 0 < (items.take (1 * size)).length := by
      rw [List.length_take]
      omega
    have some_after : 0 < (items.drop (1 * size)).length := by
      rw [List.length_drop]
      omega
    obtain ⟨before, early⟩ := List.exists_mem_of_length_pos some_before
    obtain ⟨after, late⟩ := List.exists_mem_of_length_pos some_after
    exact (clean 1 before early after late).ne (tied before after)
  · intro fits index before early after late
    exfalso
    cases index with
    | zero =>
        rw [Nat.zero_mul, List.take_zero] at early
        exact List.not_mem_nil early
    | succ index =>
        have beyond : items.length ≤ (index + 1) * size :=
          fits.trans (Nat.le_mul_of_pos_left size (Nat.succ_pos index))
        rw [List.drop_of_length_le beyond] at late
        exact List.not_mem_nil late

end Exhaustive

end Proximity.Systems.Paging
