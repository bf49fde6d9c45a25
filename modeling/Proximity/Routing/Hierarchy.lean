import Proximity.Routing.GraphContractorAdaptors

/-!
# The hierarchy that the rounds leave

A node's level is the round that contracts it.  The edges of a node lead to higher levels, and a
shortcut splits into two edges of a node below both of its ends.
-/

namespace Proximity.Routing

open Proximity.Systems

/-- The middle node of a shortcut is lower than its ends, has been contracted, and stores both
halves. -/
structure Halves (state : ContractionState) (level : ℕ → ℕ) (id : ℕ)
    (edge : DynamicEdge ContractorEdgeData) : Prop where
  gone : ¬state.Alive edge.data.id
  below : level edge.data.id < level id
  below_target : level edge.data.id < level edge.target
  flagged : edge.data.forward = true ∨ edge.data.backward = true
  forth : edge.data.forward = true →
    Through state.graph edge.data.id id edge.target edge.data.weight
  back : edge.data.backward = true →
    Through state.graph edge.data.id edge.target id edge.data.weight

/-- The nodes that are left are on top. -/
structure Levelled (state : ContractionState) (level : ℕ → ℕ) (top : ℕ) : Prop where
  alive : ∀ {id : ℕ}, state.Alive id → level id = top
  gone : ∀ {id : ℕ}, ¬state.Alive id → level id < top
  climbs : ∀ {id : ℕ} {edge : DynamicEdge ContractorEdgeData}, ¬state.Alive id →
    edge ∈ state.graph.adjacent id → edge.target = id ∨ level id < level edge.target
  split : ∀ {id : ℕ} {edge : DynamicEdge ContractorEdgeData}, edge ∈ state.graph.adjacent id →
    edge.data.shortcut = true → Halves state level id edge

/-- A graph whose edges climb, and whose shortcuts split below both of their ends. -/
structure Hierarchy (graph : ContractorGraph) (level : ℕ → ℕ) : Prop where
  climbs : ∀ {id : ℕ} {edge : DynamicEdge ContractorEdgeData}, edge ∈ graph.adjacent id →
    edge.target = id ∨ level id < level edge.target
  below : ∀ {id : ℕ} {edge : DynamicEdge ContractorEdgeData}, edge ∈ graph.adjacent id →
    edge.data.shortcut = true →
    level edge.data.id < level id ∧ level edge.data.id < level edge.target
  flagged : ∀ {id : ℕ} {edge : DynamicEdge ContractorEdgeData}, edge ∈ graph.adjacent id →
    edge.data.shortcut = true → edge.data.forward = true ∨ edge.data.backward = true
  forth : ∀ {id : ℕ} {edge : DynamicEdge ContractorEdgeData}, edge ∈ graph.adjacent id →
    edge.data.shortcut = true → edge.data.forward = true →
    Through graph edge.data.id id edge.target edge.data.weight
  back : ∀ {id : ℕ} {edge : DynamicEdge ContractorEdgeData}, edge ∈ graph.adjacent id →
    edge.data.shortcut = true → edge.data.backward = true →
    Through graph edge.data.id edge.target id edge.data.weight

/-- The levels after a round: what is left rises. -/
def ContractionState.raise (state : ContractionState) (level : ℕ → ℕ) (top : ℕ) (id : ℕ) : ℕ :=
  if state.isCore[id]? = some true then top + 1 else level id

section OneRound

variable {state : ContractionState} {batch deletions : List ℕ}
  {sorted : List (List ContractorEdge)} {level : ℕ → ℕ} {top id : ℕ}

theorem raise_alive (alive : state.Alive id) : state.raise level top id = top + 1 :=
  if_pos alive

theorem raise_gone (gone : ¬state.Alive id) : state.raise level top id = level id :=
  if_neg gone

variable (round : Contracted state batch deletions sorted) (levelled : Levelled state level top)

include levelled in
theorem Levelled.le_top (id : ℕ) : level id ≤ top := by
  by_cases alive : state.Alive id
  · exact Nat.le_of_eq (levelled.alive alive)
  · exact Nat.le_of_lt (levelled.gone alive)

include levelled in
theorem le_raise {after : ContractionState} : level id ≤ after.raise level top id := by
  by_cases alive : after.Alive id
  · rw [raise_alive alive]
    exact Nat.le_succ_of_le (levelled.le_top id)
  · rw [raise_gone alive]

include round

/-- Ways through a node that is not left stay. -/
theorem Through.frozen {node source target weight : ℕ}
    (gone : ¬(state.contracted batch deletions sorted).Alive node)
    (through : Through state.graph node source target weight) :
    Through (state.contracted batch deletions sorted).graph node source target weight := by
  obtain ⟨inEdge, entering, outEdge, leaving, rest⟩ := through
  exact ⟨inEdge, (round.frozen gone).mpr entering, outEdge, (round.frozen gone).mpr leaving, rest⟩

include levelled

/-- An edge that was there before splits as it did. -/
theorem Halves.after {edge : DynamicEdge ContractorEdgeData}
    (halves : Halves state level id edge) :
    Halves (state.contracted batch deletions sorted)
      ((state.contracted batch deletions sorted).raise level top) id edge := by
  have gone : ¬(state.contracted batch deletions sorted).Alive edge.data.id :=
    fun also => halves.gone (alive_contracted.mp also).1
  refine ⟨gone, ?_, ?_, halves.flagged, fun forward => (halves.forth forward).frozen round gone,
    fun backward => (halves.back backward).frozen round gone⟩
  · rw [raise_gone gone]
    exact Nat.lt_of_lt_of_le halves.below (le_raise levelled)
  · rw [raise_gone gone]
    exact Nat.lt_of_lt_of_le halves.below_target (le_raise levelled)

/-- A round raises what is left by one level. -/
theorem Contracted.levels : Levelled (state.contracted batch deletions sorted)
    ((state.contracted batch deletions sorted).raise level top) (top + 1) := by
  refine ⟨raise_alive, ?_, ?_, ?_⟩
  case refine_1 =>
    intro id gone
    rw [raise_gone gone]
    exact Nat.lt_succ_of_le (levelled.le_top id)
  case refine_2 =>
    intro id edge gone member
    have before := (round.frozen gone).mp member
    rw [raise_gone gone]
    by_cases alive : state.Alive id
    case neg =>
      exact (levelled.climbs alive before).imp_right fun less =>
        Nat.lt_of_lt_of_le less (le_raise levelled)
    case pos =>
      by_cases loop : edge.target = id
      case pos => exact Or.inl loop
      case neg =>
        refine Or.inr ?_
        have contracted : id ∈ batch := by
          by_contra left
          exact gone (alive_contracted.mpr ⟨alive, left⟩)
        have near := mem_neighbours.mpr ⟨loop, edge, before, rfl⟩
        have left : (state.contracted batch deletions sorted).Alive edge.target :=
          alive_contracted.mpr ⟨round.contractible.alive alive before,
            fun also => round.independent.apart contracted also near⟩
        rw [raise_alive left]
        exact Nat.lt_succ_of_le (levelled.le_top id)
  case refine_3 =>
    intro id edge member shortcut
    by_cases alive : (state.contracted batch deletions sorted).Alive id
    case neg =>
      exact (levelled.split ((round.frozen alive).mp member) shortcut).after round levelled
    case pos =>
      have before := alive_contracted.mp alive
      rcases round.old_or_new before.1 before.2 member with ⟨old, _⟩ | ⟨inserted, new, rfl, rfl⟩
      case inl => exact (levelled.split old shortcut).after round levelled
      case inr =>
        obtain ⟨node, contracted, spans⟩ := round.inserted.spans inserted new
        have same : inserted.entry.data.id = node := spans.id
        have gone : ¬(state.contracted batch deletions sorted).Alive node :=
          not_alive_contracted contracted
        have target : (state.contracted batch deletions sorted).Alive inserted.target :=
          alive_contracted.mpr (round.ends new).2
        refine ⟨?_, ?_, ?_, spans.flagged, ?_, ?_⟩
        · rwa [same]
        · rw [same, raise_gone gone, raise_alive alive]
          exact Nat.lt_succ_of_le (levelled.le_top node)
        · rw [same, raise_gone gone]
          refine Nat.lt_of_lt_of_eq (Nat.lt_succ_of_le (levelled.le_top node)) ?_
          exact (raise_alive target).symm
        · intro forward
          rw [same]
          exact (spans.forth forward).frozen round gone
        · intro backward
          rw [same]
          exact (spans.back backward).frozen round gone

end OneRound

section Renamed

variable {name : Equiv.Perm ℕ} {state after : ContractionState} (renames : Renames name state after)

include renames

theorem Renames.through {node source target weight : ℕ}
    (through : Through state.graph node source target weight) :
    Through after.graph (name node) (name source) (name target) weight := by
  obtain ⟨inEdge, entering, outEdge, leaving, rfl, backward, rfl, forward, rfl⟩ := through
  refine ⟨renameEntry name inEdge, renames.mem_adjacent.mpr ⟨inEdge, entering, rfl⟩,
    renameEntry name outEdge, renames.mem_adjacent.mpr ⟨outEdge, leaving, rfl⟩, rfl,
    backward_renameEntry.trans backward, rfl, forward_renameEntry.trans forward, ?_⟩
  rw [weight_renameEntry, weight_renameEntry]

/-- The levels follow the names. -/
theorem Renames.levelled {level : ℕ → ℕ} {top : ℕ} (levelled : Levelled state level top) :
    Levelled after (level ∘ name.symm) top := by
  have same : ∀ id, (level ∘ name.symm) (name id) = level id :=
    fun id => congrArg level (name.symm_apply_apply id)
  refine ⟨?_, ?_, ?_, ?_⟩
  case refine_1 =>
    intro id alive
    obtain ⟨old, rfl⟩ := name.surjective id
    rw [same]
    exact levelled.alive (renames.alive.mp alive)
  case refine_2 =>
    intro id gone
    obtain ⟨old, rfl⟩ := name.surjective id
    rw [same]
    exact levelled.gone fun alive => gone (renames.alive.mpr alive)
  case refine_3 =>
    intro id edge gone member
    obtain ⟨old, rfl⟩ := name.surjective id
    obtain ⟨entry, there, rfl⟩ := renames.mem_adjacent.mp member
    rw [renameEntry, name.injective.eq_iff, same, same]
    exact levelled.climbs (fun alive => gone (renames.alive.mpr alive)) there
  case refine_4 =>
    intro id edge member shortcut
    obtain ⟨old, rfl⟩ := name.surjective id
    obtain ⟨entry, there, rfl⟩ := renames.mem_adjacent.mp member
    rw [shortcut_renameEntry] at shortcut
    have halves := levelled.split there shortcut
    have middle : (renameEntry name entry).data.id = name entry.data.id := id_renameEntry shortcut
    refine ⟨?_, ?_, ?_, ?_, ?_, ?_⟩
    case refine_1 =>
      rw [middle, renames.alive]
      exact halves.gone
    case refine_2 =>
      rw [middle, same, same]
      exact halves.below
    case refine_3 =>
      rw [middle, same]
      exact Nat.lt_of_lt_of_eq halves.below_target (same entry.target).symm
    case refine_4 =>
      rw [forward_renameEntry, backward_renameEntry]
      exact halves.flagged
    case refine_5 =>
      rw [forward_renameEntry, middle, weight_renameEntry]
      exact fun forward => renames.through (halves.forth forward)
    case refine_6 =>
      rw [backward_renameEntry, middle, weight_renameEntry]
      exact fun backward => renames.through (halves.back backward)

end Renamed

section Runs

variable {Priority : Type} [LinearOrder Priority] {state final : ContractionState}
  {name : Equiv.Perm ℕ}

/-- Levels are kept through a run. -/
theorem Run.levelled (contractible : Contractible state) {level : ℕ → ℕ} {top : ℕ}
    (levelled : Levelled state level top) (run : Run Priority state name final) :
    ∃ level top, Levelled final level top := by
  induction run generalizing level top with
  | done => exact ⟨level, top, levelled⟩
  | round round _ ih =>
      obtain ⟨batch, deletions, sorted, rfl, premises⟩ := round.premises contractible
      exact ih premises.contractible_after (premises.levels levelled)
  | renumber renames _ ih =>
      exact ih (renames.contractible contractible) (renames.levelled levelled)

/-- Every node that is left waits for its round. -/
def Waiting (state : ContractionState) : Prop :=
  ∀ {id : ℕ}, state.Alive id → id ∈ state.remainingNodes

theorem Round.waiting {ranking : Ranking Priority} (waiting : Waiting state)
    (round : Round ranking state final) : Waiting final := by
  cases round
  intro id alive
  obtain ⟨before, left⟩ := alive_contracted.mp alive
  refine List.mem_filter.mpr ⟨waiting before, ?_⟩
  rwa [Bool.not_eq_true', List.contains_eq_mem, decide_eq_false_iff_not]

theorem Renames.waiting (waiting : Waiting state) (renames : Renames name state final) :
    Waiting final := by
  intro id alive
  obtain ⟨old, rfl⟩ := name.surjective id
  rw [renames.remaining]
  exact List.mem_map_of_mem (waiting (renames.alive.mp alive))

theorem Run.waiting (waiting : Waiting state) (run : Run Priority state name final) :
    Waiting final := by
  induction run with
  | done => exact waiting
  | round round _ ih => exact ih (round.waiting waiting)
  | renumber renames _ ih => exact ih (renames.waiting waiting)

end Runs

/-! ## From the input -/

section Input

variable {numberOfNodes : ℕ} {inputEdgeList : List EdgeBasedEdge} {sorted : List ContractorEdge}
  (extracted : Extracted numberOfNodes inputEdgeList)
  (sorts : SortsTo (expandEdges inputEdgeList) sorted)

include extracted sorts

/-- Nothing is contracted yet, and no edge is a shortcut. -/
theorem levelled_initialState :
    Levelled (initialState (toContractorGraph numberOfNodes sorted))
      (fun id => if id < numberOfNodes then 1 else 0) 1 := by
  refine ⟨fun alive => if_pos ((alive_initialState sorts).mp alive), ?_, ?_, ?_⟩
  case refine_1 =>
    intro id gone
    rw [alive_initialState sorts] at gone
    rw [if_neg gone]
    exact Nat.zero_lt_one
  case refine_2 =>
    intro id edge gone member
    rw [alive_initialState sorts] at gone
    obtain ⟨merged, there, rfl, _⟩ := (mem_toContractorGraph extracted sorts).mp member
    exact absurd (inside_merged extracted sorts merged there).1 gone
  case refine_3 =>
    intro id edge member shortcut
    obtain ⟨merged, there, _, rfl⟩ := (mem_toContractorGraph extracted sorts).mp member
    exact absurd ((mem_mergeParallel there).2.1.symm.trans shortcut) Bool.false_ne_true

omit extracted in
theorem waiting_initialState :
    Waiting (initialState (toContractorGraph numberOfNodes sorted)) := by
  intro id alive
  rw [alive_initialState sorts] at alive
  refine List.mem_range.mpr (Nat.lt_of_lt_of_eq alive ?_)
  exact (DynamicGraph.getNumberOfNodes_ofEdges (sortedBy_merged sorts)).symm

/-- Once every node of the input is contracted, the graph is a hierarchy. -/
theorem exists_hierarchy {Priority : Type} [LinearOrder Priority] {final : ContractionState}
    (contraction :
      ContractGraph Priority (initialState (toContractorGraph numberOfNodes sorted)) final) :
    ∃ level, Hierarchy final.graph level := by
  have contractible := contractible_initialState extracted sorts
  obtain ⟨run, finished⟩ := contraction.run contractible
  obtain ⟨level, top, levelled⟩ :=
    run.levelled contractible (levelled_initialState extracted sorts)
  have gone : ∀ {id : ℕ}, ¬final.Alive id := by
    intro id alive
    have member := run.waiting (waiting_initialState sorts) alive
    rw [finished] at member
    exact absurd member List.not_mem_nil
  refine ⟨level, levelled.climbs gone, ?_, ?_, ?_, ?_⟩
  · exact fun member shortcut =>
      ⟨(levelled.split member shortcut).below, (levelled.split member shortcut).below_target⟩
  · exact fun member shortcut => (levelled.split member shortcut).flagged
  · exact fun member shortcut => (levelled.split member shortcut).forth
  · exact fun member shortcut => (levelled.split member shortcut).back

end Input

end Proximity.Routing
