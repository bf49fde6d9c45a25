import Mathlib.Data.List.Nodup
import Mathlib.Data.List.Perm.Basic
import Mathlib.Data.List.Perm.Subperm
import Mathlib.Data.List.Range

/-!
# Permutations in place

`inplacePermutation` moves the elements of an array along the cycles of a permutation, with one
mark for each element that has been moved.
-/

namespace Proximity.Routing

universe u

variable {α : Type u}

/-- The loop over a cycle, for at most so many turns: the buffer holds the element that stood at
the old index. -/
def cycleLoop (oldToNew : List ℕ) (index : ℕ) :
    ℕ → α → ℕ → List α → List Bool → List α × List Bool
  | 0, _, _, array, wasReplaced => (array, wasReplaced)
  | turns + 1, buffer, oldIndex, array, wasReplaced =>
      let newIndex := oldToNew.getD oldIndex 0
      if newIndex != index then
        cycleLoop oldToNew index turns (array.getD newIndex buffer) newIndex
          (array.set newIndex buffer) (wasReplaced.set oldIndex true)
      else (array.set index buffer, wasReplaced.set oldIndex true)

/-- One turn of the loop over the indices. -/
def permuteTurn (oldToNew : List ℕ) (state : List α × List Bool) (index : ℕ) :
    List α × List Bool :=
  if state.2.getD index false then state
  else if oldToNew.getD index 0 == index then (state.1, state.2.set index true)
  else
    match state.1[index]? with
    | none => state
    | some buffer => cycleLoop oldToNew index state.1.length buffer index state.1 state.2

def inplacePermutation (array : List α) (oldToNew : List ℕ) : List α :=
  ((List.range array.length).foldl (permuteTurn oldToNew)
    (array, List.replicate array.length false)).1

/-- A loop over slots that gives them consecutive numbers. -/
def numberSlots : ℕ → List ℕ → List ℕ → List ℕ
  | _, [], table => table
  | index, slot :: slots, table => numberSlots (index + 1) slots (table.set slot index)

def orderingToPermutation (ordering : List ℕ) : List ℕ :=
  numberSlots 0 ordering (List.replicate ordering.length 0)

/-- A loop that numbers the slots that have no number yet. -/
def numberRest (special : ℕ) : ℕ → List ℕ → List ℕ → List ℕ
  | _, [], table => table
  | index, slot :: slots, table =>
      if table.getD slot 0 == special then
        numberRest special (index + 1) slots (table.set slot index)
      else numberRest special index slots table

/-! ## The cycles -/

section Cycles

variable {oldToNew : List ℕ} {before array : List α} {wasReplaced : List Bool}
  {index oldIndex newIndex turns : ℕ} {buffer : α}

/-- Every element that is marked has been moved, and the others are where they were, unless a
marked one has taken their place. -/
structure Moves (oldToNew : List ℕ) (before array : List α) (wasReplaced : List Bool) : Prop where
  length : array.length = before.length
  marks : wasReplaced.length = before.length
  moved : ∀ {old new : ℕ}, wasReplaced[old]? = some true → oldToNew[old]? = some new →
    array[new]? = before[old]?
  kept : ∀ {old new : ℕ}, wasReplaced[old]? = some false → oldToNew[old]? = some new →
    array[new]? = before[new]?

/-- Whole cycles are marked. -/
structure Cycled (oldToNew : List ℕ) (before array : List α) (wasReplaced : List Bool) : Prop
    extends Moves oldToNew before array wasReplaced where
  closed : ∀ {old new : ℕ}, oldToNew[old]? = some new → wasReplaced[new]? = some true →
    wasReplaced[old]? = some true
  onward : ∀ {old new : ℕ}, oldToNew[old]? = some new → wasReplaced[old]? = some true →
    wasReplaced[new]? = some true

/-- Within a cycle, the marks start behind its first index and end before the old index. -/
structure OnCycle (oldToNew : List ℕ) (before : List α) (index : ℕ) (buffer : α) (oldIndex : ℕ)
    (array : List α) (wasReplaced : List Bool) : Prop
    extends Moves oldToNew before array wasReplaced where
  here : wasReplaced[oldIndex]? = some false
  held : before[oldIndex]? = some buffer
  closed : ∀ {old new : ℕ}, oldToNew[old]? = some new → wasReplaced[new]? = some true →
    wasReplaced[old]? = some true ∨ new = index
  onward : ∀ {old new : ℕ}, oldToNew[old]? = some new → wasReplaced[old]? = some true →
    wasReplaced[new]? = some true ∨ new = oldIndex
  came : oldIndex = index ∨ ∃ earlier : ℕ, wasReplaced[earlier]? = some true ∧
    oldToNew[earlier]? = some oldIndex
  begun : oldIndex = index ∨ wasReplaced[index]? = some true

theorem injective_of_perm (perm : oldToNew.Perm (List.range before.length)) {first second new : ℕ}
    (found : oldToNew[first]? = some new) (found' : oldToNew[second]? = some new) :
    first = second := by
  obtain ⟨inside, same⟩ := List.getElem?_eq_some_iff.mp found
  obtain ⟨inside', same'⟩ := List.getElem?_eq_some_iff.mp found'
  exact (perm.nodup_iff.mpr List.nodup_range).getElem_inj_iff.mp (same.trans same'.symm)

theorem exists_of_perm (perm : oldToNew.Perm (List.range before.length)) {old : ℕ}
    (inside : old < before.length) : ∃ new < before.length, oldToNew[old]? = some new := by
  have length := perm.length_eq
  rw [List.length_range] at length
  have found := List.getElem?_eq_getElem (Nat.lt_of_lt_of_eq inside length.symm)
  exact ⟨_, List.mem_range.mp (perm.mem_iff.mp (List.getElem_mem _)), found⟩

theorem getElem?_set_true {mark : ℕ} {slot : ℕ} {value : Bool}
    (found : (wasReplaced.set mark true)[slot]? = some value) :
    (slot = mark ∧ value = true) ∨ (slot ≠ mark ∧ wasReplaced[slot]? = some value) := by
  by_cases same : slot = mark
  case pos =>
    subst same
    rw [List.getElem?_set] at found
    simp only [if_true] at found
    split at found
    · exact Or.inl ⟨rfl, (Option.some.inj found).symm⟩
    · cases found
  case neg =>
    rw [List.getElem?_set_ne (Ne.symm same)] at found
    exact Or.inr ⟨same, found⟩

/-- The element of the old index is moved to where the permutation sends it. -/
theorem OnCycle.write (perm : oldToNew.Perm (List.range before.length))
    (cycle : OnCycle oldToNew before index buffer oldIndex array wasReplaced)
    (next : oldToNew[oldIndex]? = some newIndex) :
    Moves oldToNew before (array.set newIndex buffer) (wasReplaced.set oldIndex true) := by
  have bound : newIndex < array.length := by
    rw [cycle.length]
    exact List.mem_range.mp (perm.mem_iff.mp (List.mem_of_getElem? next))
  refine ⟨by rw [List.length_set, cycle.length], by rw [List.length_set, cycle.marks], ?_, ?_⟩
  case refine_1 =>
    intro old new marked sent
    rcases getElem?_set_true marked with ⟨rfl, _⟩ | ⟨ne, marked⟩
    case inl =>
      obtain rfl := Option.some.inj (next.symm.trans sent)
      rw [List.getElem?_set_self bound, cycle.held]
    case inr =>
      have apart : newIndex ≠ new := by
        rintro rfl
        exact ne (injective_of_perm perm sent next)
      rw [List.getElem?_set_ne apart]
      exact cycle.moved marked sent
  case refine_2 =>
    intro old new unmarked sent
    rcases getElem?_set_true unmarked with ⟨_, same⟩ | ⟨ne, unmarked⟩
    case inl => cases same
    case inr =>
      have apart : newIndex ≠ new := by
        rintro rfl
        exact ne (injective_of_perm perm sent next)
      rw [List.getElem?_set_ne apart]
      exact cycle.kept unmarked sent

/-- The marks grow by the old index. -/
theorem OnCycle.grown (cycle : OnCycle oldToNew before index buffer oldIndex array wasReplaced)
    {slot : ℕ} (marked : wasReplaced[slot]? = some true) :
    (wasReplaced.set oldIndex true)[slot]? = some true := by
  have ne : oldIndex ≠ slot := by
    rintro rfl
    rw [cycle.here] at marked
    cases marked
  rwa [List.getElem?_set_ne ne]

theorem OnCycle.marked (cycle : OnCycle oldToNew before index buffer oldIndex array wasReplaced) :
    (wasReplaced.set oldIndex true)[oldIndex]? = some true :=
  List.getElem?_set_self (List.getElem?_eq_some_iff.mp cycle.here).1

theorem OnCycle.index_marked
    (cycle : OnCycle oldToNew before index buffer oldIndex array wasReplaced) :
    (wasReplaced.set oldIndex true)[index]? = some true := by
  rcases cycle.begun with rfl | marked
  · exact cycle.marked
  · exact cycle.grown marked

/-- On its cycle, an index that is sent on has not been marked. -/
theorem OnCycle.unmarked (perm : oldToNew.Perm (List.range before.length))
    (cycle : OnCycle oldToNew before index buffer oldIndex array wasReplaced)
    (next : oldToNew[oldIndex]? = some newIndex) (ne : newIndex ≠ index) :
    (wasReplaced.set oldIndex true)[newIndex]? = some false := by
  have bound : newIndex < wasReplaced.length := by
    rw [cycle.marks]
    exact List.mem_range.mp (perm.mem_iff.mp (List.mem_of_getElem? next))
  have apart : oldIndex ≠ newIndex := by
    rintro rfl
    rcases cycle.came with rfl | ⟨earlier, marked, sent⟩
    · exact ne rfl
    · obtain rfl := injective_of_perm perm sent next
      rw [cycle.here] at marked
      cases marked
  rw [List.getElem?_set_ne apart, List.getElem?_eq_getElem bound]
  cases mark : wasReplaced[newIndex] with
  | false => rfl
  | true =>
      have marked : wasReplaced[newIndex]? = some true := by
        rw [List.getElem?_eq_getElem bound, mark]
      rcases cycle.closed next marked with here | same
      · rw [cycle.here] at here
        cases here
      · exact absurd same ne

theorem OnCycle.next (perm : oldToNew.Perm (List.range before.length))
    (cycle : OnCycle oldToNew before index buffer oldIndex array wasReplaced)
    (next : oldToNew[oldIndex]? = some newIndex) (ne : newIndex ≠ index) :
    OnCycle oldToNew before index (array.getD newIndex buffer) newIndex
      (array.set newIndex buffer) (wasReplaced.set oldIndex true) := by
  refine ⟨cycle.write perm next, cycle.unmarked perm next ne, ?_, ?_, ?_,
    Or.inr ⟨oldIndex, cycle.marked, next⟩, Or.inr cycle.index_marked⟩
  case refine_1 =>
    have bound : newIndex < before.length :=
      List.mem_range.mp (perm.mem_iff.mp (List.mem_of_getElem? next))
    rw [List.getD_eq_getElem?_getD, cycle.kept cycle.here next, List.getElem?_eq_getElem bound,
      Option.getD_some]
  case refine_2 =>
    intro old new sent marked
    rcases getElem?_set_true marked with ⟨rfl, _⟩ | ⟨_, marked⟩
    case inl =>
      rcases cycle.came with same | ⟨earlier, marked, sent'⟩
      · exact Or.inr same
      · obtain rfl := injective_of_perm perm sent sent'
        exact Or.inl (cycle.grown marked)
    case inr =>
      rcases cycle.closed sent marked with marked | same
      · exact Or.inl (cycle.grown marked)
      · exact Or.inr same
  case refine_3 =>
    intro old new sent marked
    rcases getElem?_set_true marked with ⟨rfl, _⟩ | ⟨_, marked⟩
    case inl => exact Or.inr (Option.some.inj (sent.symm.trans next))
    case inr =>
      rcases cycle.onward sent marked with marked | rfl
      · exact Or.inl (cycle.grown marked)
      · exact Or.inl cycle.marked

theorem OnCycle.last (perm : oldToNew.Perm (List.range before.length))
    (cycle : OnCycle oldToNew before index buffer oldIndex array wasReplaced)
    (next : oldToNew[oldIndex]? = some index) :
    Cycled oldToNew before (array.set index buffer) (wasReplaced.set oldIndex true) := by
  refine ⟨cycle.write perm next, ?_, ?_⟩
  case refine_1 =>
    intro old new sent marked
    rcases getElem?_set_true marked with ⟨rfl, _⟩ | ⟨_, marked⟩
    case inl =>
      rcases cycle.came with rfl | ⟨earlier, marked, sent'⟩
      · obtain rfl := injective_of_perm perm sent next
        exact cycle.marked
      · obtain rfl := injective_of_perm perm sent sent'
        exact cycle.grown marked
    case inr =>
      rcases cycle.closed sent marked with marked | rfl
      · exact cycle.grown marked
      · obtain rfl := injective_of_perm perm sent next
        exact cycle.marked
  case refine_2 =>
    intro old new sent marked
    rcases getElem?_set_true marked with ⟨rfl, _⟩ | ⟨_, marked⟩
    case inl =>
      obtain rfl := Option.some.inj (sent.symm.trans next)
      exact cycle.index_marked
    case inr =>
      rcases cycle.onward sent marked with marked | rfl
      · exact cycle.grown marked
      · exact cycle.marked

/-- The loop over a cycle ends: every turn marks one more index. -/
theorem OnCycle.cycled (perm : oldToNew.Perm (List.range before.length))
    (cycle : OnCycle oldToNew before index buffer oldIndex array wasReplaced)
    (enough : wasReplaced.count false ≤ turns) {after : List α} {marks : List Bool}
    (ran : cycleLoop oldToNew index turns buffer oldIndex array wasReplaced = (after, marks)) :
    Cycled oldToNew before after marks ∧ marks[index]? = some true ∧
      ∀ {slot : ℕ}, wasReplaced[slot]? = some true → marks[slot]? = some true := by
  induction turns generalizing buffer oldIndex array wasReplaced with
  | zero =>
      have none := List.count_eq_zero.mp (Nat.le_zero.mp enough)
      exact absurd (List.mem_of_getElem? cycle.here) none
  | succ turns ih =>
      have bound : oldIndex < before.length := (List.getElem?_eq_some_iff.mp cycle.held).1
      obtain ⟨newIndex, _, next⟩ := exists_of_perm perm bound
      have read : oldToNew.getD oldIndex 0 = newIndex := by
        rw [List.getD_eq_getElem?_getD, next, Option.getD_some]
      rw [cycleLoop, read] at ran
      split at ran
      case isTrue further =>
        have ne : newIndex ≠ index := bne_iff_ne.mp further
        obtain ⟨inside, here⟩ := List.getElem?_eq_some_iff.mp cycle.here
        have fewer : (wasReplaced.set oldIndex true).count false ≤ turns := by
          have one : 0 < wasReplaced.count false :=
            List.count_pos_iff.mpr (List.mem_of_getElem? cycle.here)
          rw [List.count_set inside, here]
          simp only [beq_self_eq_true, if_true]
          have : (true == false) = false := rfl
          rw [this, if_neg Bool.false_ne_true]
          omega
        obtain ⟨cycled, closed, grown⟩ := ih (cycle.next perm next ne) fewer ran
        exact ⟨cycled, closed, fun marked => grown (cycle.grown marked)⟩
      case isFalse closing =>
        rw [bne_iff_ne, not_not] at closing
        subst closing
        cases ran
        exact ⟨cycle.last perm next, cycle.index_marked, cycle.grown⟩

theorem Cycled.turn (perm : oldToNew.Perm (List.range before.length))
    (cycled : Cycled oldToNew before array wasReplaced) (inside : index < before.length) :
    Cycled oldToNew before (permuteTurn oldToNew (array, wasReplaced) index).1
      (permuteTurn oldToNew (array, wasReplaced) index).2 ∧
    (permuteTurn oldToNew (array, wasReplaced) index).2[index]? = some true ∧
      ∀ {slot : ℕ}, wasReplaced[slot]? = some true →
        (permuteTurn oldToNew (array, wasReplaced) index).2[slot]? = some true := by
  obtain ⟨newIndex, _, next⟩ := exists_of_perm perm inside
  have read : oldToNew.getD index 0 = newIndex := by
    rw [List.getD_eq_getElem?_getD, next, Option.getD_some]
  have bound : index < wasReplaced.length := by rwa [cycled.marks]
  have stored := List.getElem?_eq_getElem bound
  rw [permuteTurn, read]
  split
  case isTrue marked =>
    rw [List.getD_eq_getElem?_getD, stored, Option.getD_some] at marked
    rw [marked] at stored
    exact ⟨cycled, stored, fun marked => marked⟩
  case isFalse unmarked =>
    rw [List.getD_eq_getElem?_getD, stored, Option.getD_some, Bool.not_eq_true] at unmarked
    rw [unmarked] at stored
    have held : array[index]? = before[index]? := by
      obtain ⟨earlier, sent⟩ := List.mem_iff_getElem?.mp
        (perm.mem_iff.mpr (List.mem_range.mpr inside))
      have bound' : earlier < wasReplaced.length := by
        rw [cycled.marks, ← List.length_range (n := before.length), ← perm.length_eq]
        exact (List.getElem?_eq_some_iff.mp sent).1
      have other := List.getElem?_eq_getElem bound'
      cases mark : wasReplaced[earlier] with
      | false =>
          rw [mark] at other
          exact cycled.kept other sent
      | true =>
          rw [mark] at other
          rw [cycled.onward sent other] at stored
          cases stored
    obtain ⟨buffer, found⟩ : ∃ buffer, array[index]? = some buffer :=
      ⟨_, List.getElem?_eq_getElem (Nat.lt_of_lt_of_eq inside cycled.length.symm)⟩
    have cycle : OnCycle oldToNew before index buffer index array wasReplaced :=
      ⟨cycled.toMoves, stored, held.symm.trans found,
        fun sent marked => Or.inl (cycled.closed sent marked),
        fun sent marked => Or.inl (cycled.onward sent marked), Or.inl rfl, Or.inl rfl⟩
    split
    case isTrue fixed =>
      rw [beq_iff_eq] at fixed
      subst fixed
      have same : array.set newIndex buffer = array := by
        obtain ⟨within, rfl⟩ := List.getElem?_eq_some_iff.mp found
        exact List.set_getElem_self within
      have last := cycle.last perm next
      rw [same] at last
      exact ⟨last, cycle.index_marked, cycle.grown⟩
    case isFalse =>
      have enough : wasReplaced.count false ≤ array.length := by
        rw [cycled.length, ← cycled.marks]
        exact List.count_le_length
      dsimp only
      rw [found]
      exact cycle.cycled perm enough rfl

/-- The loop over the indices marks them all. -/
theorem cycled_foldl (perm : oldToNew.Perm (List.range before.length)) {count : ℕ}
    (small : count ≤ before.length) :
    Cycled oldToNew before
      ((List.range count).foldl (permuteTurn oldToNew)
        (before, List.replicate before.length false)).1
      ((List.range count).foldl (permuteTurn oldToNew)
        (before, List.replicate before.length false)).2 ∧
    ∀ slot < count, ((List.range count).foldl (permuteTurn oldToNew)
      (before, List.replicate before.length false)).2[slot]? = some true := by
  induction count with
  | zero =>
      have unmarked : ∀ {slot : ℕ}, (List.replicate before.length false)[slot]? ≠ some true := by
        intro slot marked
        exact absurd (List.eq_of_mem_replicate (List.mem_of_getElem? marked)) (by decide)
      refine ⟨⟨⟨rfl, List.length_replicate, ?_, fun _ _ => rfl⟩, ?_, ?_⟩, ?_⟩
      · exact fun marked => absurd marked unmarked
      · exact fun _ marked => absurd marked unmarked
      · exact fun _ marked => absurd marked unmarked
      · exact fun _ less => absurd less (Nat.not_lt_zero _)
  | succ count ih =>
      obtain ⟨cycled, marked⟩ := ih (Nat.le_of_succ_le small)
      rw [List.range_succ, List.foldl_append, List.foldl_cons, List.foldl_nil]
      obtain ⟨next, here, grown⟩ := cycled.turn perm (Nat.lt_of_succ_le small)
      refine ⟨next, fun slot less => ?_⟩
      rcases Nat.lt_succ_iff_lt_or_eq.mp less with before | rfl
      · exact grown (marked slot before)
      · exact here

end Cycles

/-- Every element is moved to where the permutation sends it. -/
theorem inplacePermutation_moves {oldToNew : List ℕ} {array : List α}
    (perm : oldToNew.Perm (List.range array.length)) :
    (inplacePermutation array oldToNew).length = array.length ∧
      ∀ {old new : ℕ}, oldToNew[old]? = some new →
        (inplacePermutation array oldToNew)[new]? = array[old]? := by
  obtain ⟨cycled, marked⟩ := cycled_foldl perm (Nat.le_refl array.length)
  refine ⟨cycled.length, fun {old new} sent => cycled.moved (marked old ?_) sent⟩
  have length := perm.length_eq
  rw [List.length_range] at length
  exact Nat.lt_of_lt_of_eq (List.getElem?_eq_some_iff.mp sent).1 length

theorem inplacePermutation_perm {oldToNew : List ℕ} {array : List α}
    (perm : oldToNew.Perm (List.range array.length)) :
    (inplacePermutation array oldToNew).Perm array := by
  obtain ⟨length, moved⟩ := inplacePermutation_moves perm
  have read : ∀ list : List α, (List.range list.length).map (fun index => list[index]?) =
      list.map some := by
    intro list
    refine List.ext_getElem? fun index => ?_
    rw [List.getElem?_map, List.getElem?_map]
    by_cases inside : index < list.length
    · rw [List.getElem?_range inside, Option.map_some, List.getElem?_eq_getElem inside,
        Option.map_some]
    · rw [List.getElem?_eq_none (by rw [List.length_range]; omega),
        List.getElem?_eq_none (Nat.le_of_not_lt inside), Option.map_none, Option.map_none]
  have sizes := perm.length_eq
  rw [List.length_range] at sizes
  have sent : oldToNew.map (fun index => (inplacePermutation array oldToNew)[index]?) =
      array.map some := by
    refine List.ext_getElem? fun index => ?_
    rw [List.getElem?_map, List.getElem?_map]
    by_cases inside : index < array.length
    · have found := List.getElem?_eq_getElem (Nat.lt_of_lt_of_eq inside sizes.symm)
      rw [found, Option.map_some, moved found, List.getElem?_eq_getElem inside, Option.map_some]
    · rw [List.getElem?_eq_none (by omega), List.getElem?_eq_none (Nat.le_of_not_lt inside),
        Option.map_none, Option.map_none]
  rw [← List.map_perm_map_iff fun _ _ => Option.some.inj, ← sent, ← read, length]
  exact (perm.map _).symm

/-! ## The numbers -/

section Numbers

variable {ordering slots table : List ℕ} {index slot : ℕ}

theorem length_numberSlots : (numberSlots index slots table).length = table.length := by
  induction slots generalizing index table with
  | nil => rfl
  | cons first rest ih => rw [numberSlots, ih, List.length_set]

theorem numberSlots_append {later : List ℕ} :
    numberSlots index (slots ++ later) table =
      numberSlots (index + slots.length) later (numberSlots index slots table) := by
  induction slots generalizing index table with
  | nil => rfl
  | cons first rest ih =>
      rw [List.cons_append, numberSlots, ih, numberSlots, List.length_cons, Nat.add_assoc,
        Nat.add_comm 1]

theorem getElem?_numberSlots_ne (outside : slot ∉ slots) :
    (numberSlots index slots table)[slot]? = table[slot]? := by
  induction slots generalizing index table with
  | nil => rfl
  | cons first rest ih =>
      rw [List.mem_cons, not_or] at outside
      rw [numberSlots, ih outside.2, List.getElem?_set_ne (Ne.symm outside.1)]

theorem getElem?_numberSlots (nodup : slots.Nodup) (bounded : ∀ slot ∈ slots, slot < table.length)
    {place : ℕ} (found : slots[place]? = some slot) :
    (numberSlots index slots table)[slot]? = some (index + place) := by
  induction slots generalizing index table place with
  | nil => cases found
  | cons first rest ih =>
      obtain ⟨fresh, later⟩ := List.nodup_cons.mp nodup
      obtain ⟨inside, others⟩ := List.forall_mem_cons.mp bounded
      rw [numberSlots]
      cases place with
      | zero =>
          rw [List.getElem?_cons_zero] at found
          cases found
          rw [getElem?_numberSlots_ne fresh, List.getElem?_set_self inside, Nat.add_zero]
      | succ place =>
          rw [List.getElem?_cons_succ] at found
          rw [ih later (by rwa [List.length_set]) found]
          exact congrArg some (by omega)

/-- The slots that have no number are numbered in their order. -/
theorem numberRest_eq {special : ℕ} (nodup : slots.Nodup) :
    numberRest special index slots table =
      numberSlots index (slots.filter fun slot => table.getD slot 0 == special) table := by
  induction slots generalizing index table with
  | nil => rfl
  | cons first rest ih =>
      obtain ⟨fresh, later⟩ := List.nodup_cons.mp nodup
      rw [numberRest, List.filter_cons]
      split
      case isTrue unnumbered =>
        rw [ih later, numberSlots]
        refine congrArg (fun slots => numberSlots (index + 1) slots (table.set first index)) ?_
        refine List.filter_congr fun slot member => ?_
        have ne : first ≠ slot := by
          rintro rfl
          exact fresh member
        rw [List.getD_eq_getElem?_getD, List.getElem?_set_ne ne, List.getD_eq_getElem?_getD]
      case isFalse => exact ih later

/-- The numbers of an order are the inverse permutation. -/
theorem numberSlots_perm (perm : ordering.Perm (List.range table.length)) :
    (numberSlots 0 ordering table).Perm (List.range table.length) ∧
      ∀ {place slot : ℕ}, ordering[place]? = some slot →
        (numberSlots 0 ordering table)[slot]? = some place := by
  have numbered : ∀ {place slot : ℕ}, ordering[place]? = some slot →
      (numberSlots 0 ordering table)[slot]? = some place := by
    intro place slot found
    rw [getElem?_numberSlots (perm.nodup_iff.mpr List.nodup_range)
      (fun slot member => List.mem_range.mp (perm.mem_iff.mp member)) found, Nat.zero_add]
  refine ⟨?_, numbered⟩
  have length := perm.length_eq
  rw [List.length_range] at length
  have sub : (List.range table.length).Subperm (numberSlots 0 ordering table) := by
    refine List.Nodup.subperm List.nodup_range fun place member => ?_
    have inside := Nat.lt_of_lt_of_eq (List.mem_range.mp member) length.symm
    exact List.mem_of_getElem? (numbered (List.getElem?_eq_getElem inside))
  refine (sub.perm_of_length_le ?_).symm
  rw [length_numberSlots, List.length_range]

/-- The slots that are numbered first, and then those that have no number, are all slots. -/
theorem unnumbered_perm {special size : ℕ} {first : List ℕ} (nodup : first.Nodup)
    (bounded : ∀ slot ∈ first, slot < size) (small : size ≤ special) :
    (first ++ (List.range size).filter fun slot =>
      (numberSlots 0 first (List.replicate size special)).getD slot 0 == special).Perm
      (List.range size) := by
  have before : first.length ≤ size := by
    have sub : first.Subperm (List.range size) :=
      List.Nodup.subperm nodup fun slot there => List.mem_range.mpr (bounded slot there)
    have le := sub.length_le
    rwa [List.length_range] at le
  have numbered : ∀ {slot : ℕ}, slot < size →
      (((numberSlots 0 first (List.replicate size special)).getD slot 0 ==
        special) = true ↔ slot ∉ first) := by
    intro slot inside
    rw [List.getD_eq_getElem?_getD, beq_iff_eq]
    by_cases member : slot ∈ first
    case pos =>
      obtain ⟨place, found⟩ := List.mem_iff_getElem?.mp member
      have place_lt := (List.getElem?_eq_some_iff.mp found).1
      rw [getElem?_numberSlots nodup (by simpa only [List.length_replicate] using bounded) found,
        Option.getD_some]
      exact iff_of_false (by omega) fun outside => outside member
    case neg =>
      rw [getElem?_numberSlots_ne member, List.getElem?_replicate, if_pos inside, Option.getD_some]
      exact iff_of_true rfl member
  refine (List.perm_ext_iff_of_nodup ?_ List.nodup_range).mpr fun slot => ?_
  · refine List.nodup_append.mpr ⟨nodup, List.nodup_range.filter _, ?_⟩
    rintro slot member _ other rfl
    obtain ⟨inside, unnumbered⟩ := List.mem_filter.mp other
    exact (numbered (List.mem_range.mp inside)).mp unnumbered member
  · rw [List.mem_append, List.mem_filter, List.mem_range]
    constructor
    · rintro (member | ⟨inside, _⟩)
      · exact bounded slot member
      · exact inside
    · intro inside
      by_cases member : slot ∈ first
      · exact Or.inl member
      · exact Or.inr ⟨inside, (numbered inside).mpr member⟩

/-- Some slots are numbered first, and then the others: every slot gets a number. -/
theorem numberRest_perm {special size : ℕ} {first : List ℕ} (nodup : first.Nodup)
    (bounded : ∀ slot ∈ first, slot < size) (small : size ≤ special) :
    ∃ rest, (first ++ rest).Perm (List.range size) ∧
      numberRest special first.length (List.range size)
        (numberSlots 0 first (List.replicate size special)) =
        numberSlots 0 (first ++ rest) (List.replicate size special) := by
  refine ⟨_, unnumbered_perm nodup bounded small, ?_⟩
  rw [numberRest_eq List.nodup_range, numberSlots_append, Nat.zero_add]

/-- Moving an array along the numbers of an order puts it into that order. -/
theorem inplacePermutation_numberSlots {array : List α} (length : table.length = array.length)
    (perm : ordering.Perm (List.range array.length)) :
    (inplacePermutation array (numberSlots 0 ordering table)).length = array.length ∧
      ∀ {place slot : ℕ}, ordering[place]? = some slot →
        (inplacePermutation array (numberSlots 0 ordering table))[place]? = array[slot]? := by
  rw [← length] at perm
  obtain ⟨numbers, numbered⟩ := numberSlots_perm perm
  rw [length] at numbers
  obtain ⟨same, moved⟩ := inplacePermutation_moves numbers
  exact ⟨same, fun found => moved (numbered found)⟩

end Numbers

end Proximity.Routing
