import Mathlib.Data.Finset.Max
import Mathlib.Data.Prod.Lex
import Proximity.Routing.Hierarchy

/-!
# The progress of the contraction

Every round asserts that it contracts a node.  With priorities that are close only when they are
equal it does; two priorities that differ by less than the epsilon may block each other.
-/

namespace Proximity.Routing

open Proximity.Systems

variable {Priority : Type} [LinearOrder Priority] {ranking : Ranking Priority}
  {state final : ContractionState} {node other : ℕ}

/-- Ties are broken by the greater hash, and then by the greater id. -/
def Ranking.rank (ranking : Ranking Priority) (node : ℕ) : Priority ×ₗ ℕᵒᵈ ×ₗ ℕᵒᵈ :=
  toLex (ranking.priorities node,
    toLex (OrderDual.toDual (ranking.hash (ranking.newToOldNodeId node)),
      OrderDual.toDual (ranking.newToOldNodeId node)))

/-- Only equal priorities are close. -/
def Ranking.Exact (ranking : Ranking Priority) : Prop :=
  ∀ {first second : Priority}, ranking.close first second = true → first = second

theorem bias_iff {hash : ℕ → ℕ} {first second : ℕ} : bias hash first second = true ↔
    hash first < hash second ∨ (hash second = hash first ∧ first < second) := by
  rw [bias]
  by_cases same : hash first = hash second
  case pos =>
    rw [same, bne_self_eq_false, if_neg Bool.false_ne_true, decide_eq_true_iff,
      or_iff_right (Nat.lt_irrefl _), and_iff_right rfl]
  case neg =>
    rw [if_pos (bne_iff_ne.mpr same), decide_eq_true_iff,
      or_iff_left fun also => same also.1.symm]

theorem beats_iff (exact : ranking.Exact) :
    ranking.beats node other = true ↔ ranking.rank other < ranking.rank node := by
  have close : ranking.close (ranking.priorities node) (ranking.priorities other) = true ↔
      ranking.priorities other = ranking.priorities node :=
    ⟨fun near => (exact near).symm, fun same => same ▸ ranking.close_self _⟩
  rw [Ranking.beats, Bool.or_eq_true, decide_eq_true_iff, Bool.and_eq_true, close, bias_iff,
    Ranking.rank, Ranking.rank, Prod.Lex.toLex_lt_toLex, Prod.Lex.toLex_lt_toLex]
  rfl

/-- Of the remaining nodes the one with the least rank is independent. -/
theorem exists_independent (exact : ranking.Exact) (contractible : Contractible state)
    (waiting : Waiting state) (remains : state.remainingNodes ≠ []) :
    ∃ node ∈ state.remainingNodes, isNodeIndependent ranking state.graph node = true := by
  have occupied : state.remainingNodes.toFinset.Nonempty := by
    obtain ⟨node, member⟩ := List.exists_mem_of_ne_nil _ remains
    exact ⟨node, List.mem_toFinset.mpr member⟩
  obtain ⟨node, member, least⟩ :=
    Finset.exists_min_image state.remainingNodes.toFinset ranking.rank occupied
  rw [List.mem_toFinset] at member
  have alive := contractible.remaining node member
  have unbeaten : ∀ {other : ℕ}, state.Alive other → ranking.beats node other = false := by
    intro other inside
    rw [Bool.eq_false_iff, ne_eq, beats_iff exact, not_lt]
    exact least other (List.mem_toFinset.mpr (waiting inside))
  refine ⟨node, member, ?_⟩
  rw [isNodeIndependent, Bool.and_eq_true, List.all_eq_true, List.all_eq_true]
  refine ⟨fun edge adjacent => ?_, fun neighbour near => List.all_eq_true.mpr fun edge far => ?_⟩
  case refine_1 =>
    rw [unbeaten (contractible.alive alive adjacent), Bool.not_false, Bool.or_true]
  case refine_2 =>
    have inside := contractible.alive_neighbour alive near
    rw [unbeaten (contractible.alive inside far), Bool.not_false, Bool.or_true]

/-- While nodes remain, a round with exact ties contracts at least one of them. -/
theorem Round.shrinks (exact : ranking.Exact) (contractible : Contractible state)
    (waiting : Waiting state) (remains : state.remainingNodes ≠ [])
    (round : Round ranking state final) :
    final.remainingNodes.length < state.remainingNodes.length := by
  cases round with
  | @contract threads schedule deletions nodeWeights leftWeights blocks sorted scheduled threaded
      ran deletes sorts =>
      obtain ⟨node, member, independent⟩ :=
        exists_independent exact contractible waiting remains
      have chosen := scheduled.mem_iff.mpr (List.mem_filter.mpr ⟨member, independent⟩)
      refine List.length_filter_lt_length_iff_exists.mpr ⟨node, member, ?_⟩
      rw [Bool.not_eq_true', Bool.not_eq_false, List.contains_eq_mem, decide_eq_true_iff]
      exact chosen

section Turns

variable {start : ContractionState} {loop after : ContractionLoop} {name : Equiv.Perm ℕ}

/-- Renumbering leaves as many nodes as there were. -/
theorem length_renumbered (renumbers : loop.renumbered = some after) :
    after.state.remainingNodes.length = loop.state.remainingNodes.length := by
  rw [ContractionLoop.renumbered] at renumbers
  split at renumbers
  case isFalse =>
    cases renumbers
    rfl
  case isTrue =>
    obtain ⟨data, ran, rfl⟩ := Option.map_eq_some_iff.mp renumbers
    obtain ⟨graph, _, rfl⟩ := Option.map_eq_some_iff.mp ran
    exact List.length_range

theorem Turn.shrinks (exact : ranking.Exact) (contractible : Contractible start)
    (waiting : Waiting start) (tracked : Tracked Priority start name loop)
    (turn : Turn ranking loop after) :
    after.state.remainingNodes.length < loop.state.remainingNodes.length := by
  cases turn with
  | @turn ready after remains renumbers reads round =>
      obtain ⟨name, tracked⟩ := tracked.renumbered contractible renumbers
      have length := length_renumbered renumbers
      have remains' : ready.state.remainingNodes ≠ [] := by
        rw [← List.length_pos_iff] at remains ⊢
        rwa [length]
      have shrinks := round.shrinks exact (tracked.run.contractible contractible)
        (tracked.run.waiting waiting) remains'
      rwa [length] at shrinks

/-- So many turns of the loop of `contractGraph`, each with priorities of its own. -/
inductive Turns (Priority : Type) [LinearOrder Priority] :
    ℕ → ContractionLoop → ContractionLoop → Prop where
  | none (loop : ContractionLoop) : Turns Priority 0 loop loop
  | turn {count : ℕ} {loop middle final : ContractionLoop} {ranking : Ranking Priority}
      (exact : ranking.Exact) (turn : Turn ranking loop middle)
      (later : Turns Priority count middle final) : Turns Priority (count + 1) loop final

theorem Turns.le_remaining {count : ℕ} (contractible : Contractible start)
    (waiting : Waiting start) (tracked : Tracked Priority start name loop)
    (turns : Turns Priority count loop after) :
    count + after.state.remainingNodes.length ≤ loop.state.remainingNodes.length := by
  induction turns generalizing name with
  | none => exact Nat.le_of_eq (Nat.zero_add _)
  | turn exact turn _ ih =>
      have fewer := turn.shrinks exact contractible waiting tracked
      obtain ⟨name, next⟩ := tracked.turn contractible turn
      have rest := ih next
      omega

/-- The loop turns at most once for every node that it starts with. -/
theorem turns_le_remaining {count nextRenumbering : ℕ} (contractible : Contractible start)
    (waiting : Waiting start)
    (turns : Turns Priority count (start.loop nextRenumbering) after) :
    count + after.state.remainingNodes.length ≤ start.remainingNodes.length :=
  turns.le_remaining contractible waiting (tracked_loop start nextRenumbering)

/-- The chain takes a turn for each of its nodes. -/
theorem turns_of_chain :
    3 + chainContracted.remainingNodes.length ≤ chainStart.remainingNodes.length := by
  obtain ⟨first, second, third⟩ := chain_turns
  have exact : chainRanking.Exact := fun near => of_decide_eq_true near
  have exact' : chainRenumberedRanking.Exact := fun near => of_decide_eq_true near
  exact turns_le_remaining (contractible_initialState chain_extracted chain_sorts)
    (waiting_initialState chain_sorts)
    (.turn exact first (.turn exact' second (.turn exact' third (.none _))))

end Turns

/-! ## Near ties -/

/-- A round without an independent node changes nothing. -/
theorem Round.idle (none : ∀ node ∈ state.remainingNodes,
    isNodeIndependent ranking state.graph node = false)
    (round : Round ranking state final) : final = state := by
  cases round with
  | @contract threads schedule deletions nodeWeights leftWeights blocks sorted scheduled threaded
      ran deletes sorts =>
      have empty : state.remainingNodes.filter (isNodeIndependent ranking state.graph) = [] := by
        rw [List.filter_eq_nil_iff]
        intro node member
        rw [none node member]
        exact Bool.false_ne_true
      rw [empty, List.perm_nil, List.map_eq_nil_iff] at scheduled
      subst scheduled
      rw [List.map_nil, List.perm_nil] at deletes
      subst deletes
      cases ran
      have flat : sorted.flatten = [] := by
        generalize unsorted : List.replicate threads ([] : List ContractorEdge) = blocks at sorts
        have empty : ∀ block ∈ blocks, block = [] := fun block member =>
          List.eq_of_mem_replicate (unsorted ▸ member)
        clear unsorted
        induction sorts with
        | nil => rfl
        | cons perm _ ih =>
            obtain ⟨rfl, later⟩ := List.forall_mem_cons.mp empty
            rw [List.flatten_cons, List.perm_nil.mp perm, ih later, List.append_nil]
      rw [List.map_nil, ContractionState.contracted, flat, List.foldl_nil, List.foldl_nil,
        List.foldl_nil]
      have all : state.remainingNodes.filter (fun node => !([] : List ℕ).contains node) =
          state.remainingNodes := List.filter_eq_self.mpr fun _ _ => rfl
      rw [all]

/-- Priorities that differ by less than three are close. -/
def nearRanking : Ranking ℕ where
  close first second := decide (first < second + 3 ∧ second < first + 3)
  hash := id
  newToOldNodeId := id
  priorities := id
  close_self _ := decide_eq_true ⟨by omega, by omega⟩
  injective := Function.injective_id

end Proximity.Routing
