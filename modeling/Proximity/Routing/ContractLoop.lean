import Mathlib.Logic.Relation
import Proximity.Routing.Runs

/-!
# The loop of the contraction

`contractGraph` keeps a table of the first ids of its nodes.  It renumbers once, when few nodes
remain, and at the end it numbers all nodes back along the table.
-/

namespace Proximity.Routing

open Proximity.Systems

/-- The variables of the loop. -/
structure ContractionLoop where
  state : ContractionState
  newToOldNodeId : List ℕ
  nextRenumbering : ℕ
  deriving DecidableEq, Repr

/-- Only one renumbering takes place. -/
def ContractionLoop.renumbered (loop : ContractionLoop) : Option ContractionLoop :=
  if loop.state.remainingNodes.length < loop.nextRenumbering then
    (renumberData loop.state loop.newToOldNodeId).map fun data => ⟨data.1, data.2, 0⟩
  else some loop

/-- The nodes are numbered back. -/
def ContractionLoop.finish (loop : ContractionLoop) : Option ContractionState :=
  (renumberGraph loop.state.graph loop.newToOldNodeId).map fun graph =>
    ⟨graph, inplacePermutation loop.state.isCore loop.newToOldNodeId, loop.state.remainingNodes⟩

section OneTurn

variable {Priority : Type} [LinearOrder Priority]

/-- Ties are broken by the first ids. -/
def Ranking.Reads (ranking : Ranking Priority) (newToOldNodeId : List ℕ) : Prop :=
  ∀ {id old : ℕ}, newToOldNodeId[id]? = some old → ranking.newToOldNodeId id = old

/-- One turn of the loop. -/
inductive Turn (ranking : Ranking Priority) : ContractionLoop → ContractionLoop → Prop where
  | turn {loop ready : ContractionLoop} {after : ContractionState}
      (remains : loop.state.remainingNodes ≠ []) (renumbers : loop.renumbered = some ready)
      (reads : ranking.Reads ready.newToOldNodeId) (round : Round ranking ready.state after) :
      Turn ranking loop { ready with state := after }

end OneTurn

/-- What the loop starts with. -/
def ContractionState.loop (state : ContractionState) (nextRenumbering : ℕ) : ContractionLoop :=
  ⟨state, List.range state.graph.getNumberOfNodes, nextRenumbering⟩

/-- `contractGraph`, with priorities of its own for every turn, and any bound for the
renumbering. -/
def ContractGraph (Priority : Type) [LinearOrder Priority] (start final : ContractionState) :
    Prop :=
  ∃ nextRenumbering loop, Relation.ReflTransGen (fun before after =>
    ∃ ranking : Ranking Priority, Turn ranking before after) (start.loop nextRenumbering) loop ∧
    loop.state.remainingNodes = [] ∧ loop.finish = some final

section Loop

variable {Priority : Type} [LinearOrder Priority] {start final : ContractionState}
  {loop after : ContractionLoop}

/-- The table leads back to the first names. -/
structure Tracked (Priority : Type) [LinearOrder Priority] (start : ContractionState)
    (name : Equiv.Perm ℕ) (loop : ContractionLoop) : Prop where
  run : Run Priority start name loop.state
  length : loop.newToOldNodeId.length = start.graph.getNumberOfNodes
  back : ∀ {id : ℕ}, id < start.graph.getNumberOfNodes →
    loop.newToOldNodeId[name id]? = some id

theorem tracked_loop (start : ContractionState) (nextRenumbering : ℕ) :
    Tracked Priority start (Equiv.refl ℕ) (start.loop nextRenumbering) :=
  ⟨.done start, List.length_range, fun small => List.getElem?_range small⟩

variable {name : Equiv.Perm ℕ} (contractible : Contractible start)
  (tracked : Tracked Priority start name loop)

include tracked

theorem Tracked.inside {id : ℕ} (small : id < start.graph.getNumberOfNodes) :
    name id < start.graph.getNumberOfNodes := by
  rw [← tracked.length]
  exact (List.getElem?_eq_some_iff.mp (tracked.back small)).1

theorem Tracked.perm : loop.newToOldNodeId.Perm (List.range start.graph.getNumberOfNodes) := by
  have sub : (List.range start.graph.getNumberOfNodes).Subperm loop.newToOldNodeId :=
    List.Nodup.subperm List.nodup_range fun id member =>
      List.mem_of_getElem? (tracked.back (List.mem_range.mp member))
  refine (sub.perm_of_length_le ?_).symm
  rw [tracked.length, List.length_range]

include contractible

theorem Tracked.count :
    loop.state.graph.getNumberOfNodes = start.graph.getNumberOfNodes :=
  (tracked.run.edges contractible).1

theorem Tracked.renumbered (renumbers : loop.renumbered = some after) :
    ∃ name, Tracked Priority start name after := by
  have count := tracked.count contractible
  rw [ContractionLoop.renumbered] at renumbers
  split at renumbers
  case isFalse =>
    cases renumbers
    exact ⟨name, tracked⟩
  case isTrue =>
    obtain ⟨⟨state, table⟩, ran, rfl⟩ := Option.map_eq_some_iff.mp renumbers
    obtain ⟨first, renames, length, moved⟩ := renames_of_renumberData
      (tracked.run.contractible contractible) (tracked.length.trans count.symm) ran
    refine ⟨name.trans first, tracked.run.append (.renumber renames (.done state)),
      length.trans count, fun {id} small => ?_⟩
    rw [Equiv.trans_apply, moved (count.symm ▸ tracked.inside small)]
    exact tracked.back small

theorem Tracked.turn {ranking : Ranking Priority} (turn : Turn ranking loop after) :
    ∃ name, Tracked Priority start name after := by
  cases turn with
  | turn remains renumbers reads round =>
      obtain ⟨name, ready⟩ := tracked.renumbered contractible renumbers
      exact ⟨name, ready.run.append (.round round (.done _)), ready.length, ready.back⟩

/-- At the end every node has its first name again. -/
theorem Tracked.finish (empty : loop.state.remainingNodes = [])
    (finished : loop.finish = some final) :
    Run Priority start (Equiv.refl ℕ) final ∧ final.remainingNodes = [] := by
  have count := tracked.count contractible
  have perm : loop.newToOldNodeId.Perm (List.range loop.state.graph.getNumberOfNodes) := by
    rw [count]
    exact tracked.perm
  obtain ⟨graph, ran, rfl⟩ := Option.map_eq_some_iff.mp finished
  have renames := renames_of_table (tracked.run.contractible contractible) perm ran
  rw [empty, List.map_nil] at renames
  have same : name.trans ((newNames _ _ perm).trans (Equiv.refl ℕ)) = Equiv.refl ℕ := by
    refine Equiv.ext fun id => ?_
    rw [Equiv.trans_refl, Equiv.trans_apply, Equiv.refl_apply]
    by_cases small : id < start.graph.getNumberOfNodes
    case pos =>
      have found := getElem?_newNames perm (count.symm ▸ tracked.inside small)
      exact Option.some.inj (found.symm.trans (tracked.back small))
    case neg =>
      rw [tracked.run.outside contractible (Nat.le_of_not_lt small)]
      exact newNames_of_le perm (by rw [count]; exact Nat.le_of_not_lt small)
  refine ⟨?_, empty⟩
  rw [empty, ← same]
  exact tracked.run.append (.renumber renames (.done _))

end Loop

/-- The contraction of a graph is a run that leaves no node, under the first names. -/
theorem ContractGraph.run {Priority : Type} [LinearOrder Priority]
    {start final : ContractionState} (contractible : Contractible start)
    (contraction : ContractGraph Priority start final) :
    Run Priority start (Equiv.refl ℕ) final ∧ final.remainingNodes = [] := by
  obtain ⟨nextRenumbering, loop, turns, empty, finished⟩ := contraction
  have tracked : ∃ name, Tracked Priority start name loop := by
    clear empty finished
    induction turns with
    | refl => exact ⟨_, tracked_loop start nextRenumbering⟩
    | tail _ step ih =>
        obtain ⟨ranking, turn⟩ := step
        obtain ⟨name, tracked⟩ := ih
        exact tracked.turn contractible turn
  obtain ⟨name, tracked⟩ := tracked
  exact tracked.finish contractible empty finished

end Proximity.Routing
