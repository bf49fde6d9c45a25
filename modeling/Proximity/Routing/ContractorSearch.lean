import Proximity.Routing.DynamicGraph
import Proximity.Routing.QueryHeap
import Proximity.Systems.Checks
import Proximity.Systems.Walk

/-!
# The witness search of the contractor

`contractor::search` runs Dijkstra's algorithm around a forbidden node.  A key that it leaves is
the weight of a walk, or `INVALID_EDGE_WEIGHT` when the node was not reached.
-/

namespace Proximity.Routing

open Proximity.Systems

/-- `INVALID_EDGE_WEIGHT`, the greatest `std::int32_t`. -/
def invalidEdgeWeight : ℕ := 2147483647

/-- What the standard leaves undefined and the code could do. -/
inductive Undefined where
  /-- A sum of weights that no `std::int32_t` holds. -/
  | overflow
  /-- An update through the handle of an element that has left the heap. -/
  | handle
  /-- A read of the key of a node that was not inserted. -/
  | key
  deriving DecidableEq, Repr

/-- `EdgeWeight + EdgeWeight`. -/
def addWeight (first second : ℕ) : Except Undefined ℕ :=
  if first + second ≤ invalidEdgeWeight then .ok (first + second) else .error .overflow

/-- `distance` is left out: it is carried along and decides nothing. -/
structure ContractorEdgeData where
  weight : ℕ
  duration : ℕ
  id : ℕ
  originalEdges : ℕ
  shortcut : Bool
  forward : Bool
  backward : Bool
  deriving DecidableEq, Repr, Inhabited

abbrev ContractorGraph : Type := DynamicGraph ContractorEdgeData

abbrev ContractorEdge : Type := InputEdge ContractorEdgeData

structure ContractorHeapData where
  hop : ℕ
  target : Bool
  deriving DecidableEq, Repr, Inhabited

abbrev ContractorHeap : Type := QueryHeap ℕ ContractorHeapData

/-- One turn of the loop of `relaxNode`. -/
def relaxEdge (currentHop nodeWeight forbiddenNode : ℕ) (heap : ContractorHeap)
    (edge : DynamicEdge ContractorEdgeData) : Except Undefined ContractorHeap :=
  if !edge.data.forward then .ok heap
  else if forbiddenNode == edge.target then .ok heap
  else
    match addWeight nodeWeight edge.data.weight with
    | .error undefined => .error undefined
    | .ok toWeight =>
        match heap.getHeapNodeIfWasInserted edge.target with
        | none => .ok (heap.insert edge.target toWeight ⟨currentHop, false⟩)
        | some toHeapNode =>
            if toWeight < toHeapNode.weight then
              if toHeapNode.inHeap then
                .ok (heap.decreaseKey edge.target toWeight ⟨currentHop, toHeapNode.data.target⟩)
              else .error .handle
            else .ok heap

def relaxNode (heap : ContractorHeap) (graph : ContractorGraph)
    (node : HeapNode ℕ ContractorHeapData) (forbiddenNode : ℕ) : Except Undefined ContractorHeap :=
  (graph.adjacent node.node).foldlM (relaxEdge (node.data.hop + 1) node.weight forbiddenNode) heap

/-- The loop of `search`; the first argument is the number of nodes below the limit. -/
def contractorSearchLoop (graph : ContractorGraph) (numberOfTargets weightLimit forbiddenNode : ℕ) :
    ℕ → ContractorHeap → ℕ → Except Undefined ContractorHeap
  | left, heap, found =>
      match heap.deleteMin with
      | none => .ok heap
      | some (node, heap) =>
          match left with
          | 0 => .ok heap
          | left + 1 =>
              if weightLimit < node.weight then .ok heap
              else if node.data.target && decide (numberOfTargets ≤ found + 1) then .ok heap
              else
                match relaxNode heap graph node forbiddenNode with
                | .error undefined => .error undefined
                | .ok relaxed =>
                    contractorSearchLoop graph numberOfTargets weightLimit forbiddenNode left
                      relaxed (if node.data.target then found + 1 else found)

def contractorSearch (heap : ContractorHeap) (graph : ContractorGraph)
    (numberOfTargets nodeLimit weightLimit forbiddenNode : ℕ) : Except Undefined ContractorHeap :=
  contractorSearchLoop graph numberOfTargets weightLimit forbiddenNode nodeLimit heap 0

/-- The arcs that a graph stores with the source: its forward edges. -/
def forwardArcs (graph : ContractorGraph) : Arcs ℕ := fun tail head weight =>
  ∃ edge ∈ graph.adjacent tail, edge.target = head ∧ edge.data.forward = true ∧
    edge.data.weight = weight

/-- The walks that a witness search may take. -/
def around (graph : ContractorGraph) (forbiddenNode : ℕ) : Arcs ℕ := fun tail head weight =>
  forwardArcs graph tail head weight ∧ head ≠ forbiddenNode

/-! ## The rules of the search -/

section Rules

variable {heap after : ContractorHeap} {graph : ContractorGraph} {forbiddenNode : ℕ}

/-- What a deletion and every relaxed edge keep, the search keeps. -/
theorem contractorSearchLoop_keeps (Keeps : ContractorHeap → Prop) {numberOfTargets weightLimit : ℕ}
    (deleted : ∀ {heap after : ContractorHeap} {node : HeapNode ℕ ContractorHeapData},
      Keeps heap → heap.deleteMin = some (node, after) → Keeps after)
    (relaxed : ∀ {heap middle after : ContractorHeap} {node : HeapNode ℕ ContractorHeapData},
      Keeps heap → heap.deleteMin = some (node, middle) →
      relaxNode middle graph node forbiddenNode = .ok after → Keeps after)
    {left found : ℕ} (keeps : Keeps heap)
    (searched : contractorSearchLoop graph numberOfTargets weightLimit forbiddenNode left heap
      found = .ok after) : Keeps after := by
  induction left generalizing heap found with
  | zero =>
      rw [contractorSearchLoop] at searched
      split at searched
      case h_1 =>
        cases searched
        exact keeps
      case h_2 node middle popped =>
        cases searched
        exact deleted keeps popped
  | succ left ih =>
      rw [contractorSearchLoop] at searched
      split at searched
      case h_1 =>
        cases searched
        exact keeps
      case h_2 node middle popped =>
        dsimp only at searched
        split at searched
        case isTrue =>
          cases searched
          exact deleted keeps popped
        case isFalse =>
          split at searched
          case isTrue =>
            cases searched
            exact deleted keeps popped
          case isFalse =>
            split at searched
            case h_1 => cases searched
            case h_2 next settled => exact ih (relaxed keeps popped settled) searched

end Rules

theorem addWeight_eq_ok {first second sum : ℕ} (added : addWeight first second = .ok sum) :
    sum = first + second ∧ first + second ≤ invalidEdgeWeight := by
  rw [addWeight] at added
  split at added
  case isTrue small =>
    cases added
    exact ⟨rfl, small⟩
  case isFalse => cases added

/-! ## What one edge does -/

section Relaxing

variable {heap after : ContractorHeap} {edge : DynamicEdge ContractorEdgeData}
  {hop nodeWeight forbiddenNode : ℕ}

/-- A relaxed edge leaves the heap as it is, adds its target or lowers the key of it. -/
theorem relaxEdge_cases (relaxed : relaxEdge hop nodeWeight forbiddenNode heap edge = .ok after) :
    after = heap ∨ (edge.data.forward = true ∧ edge.target ≠ forbiddenNode ∧
      nodeWeight + edge.data.weight ≤ invalidEdgeWeight ∧
      ((heap.getHeapNodeIfWasInserted edge.target = none ∧
        after = heap.insert edge.target (nodeWeight + edge.data.weight) ⟨hop, false⟩) ∨
      ∃ toHeapNode, heap.getHeapNodeIfWasInserted edge.target = some toHeapNode ∧
        nodeWeight + edge.data.weight < toHeapNode.weight ∧
        after = heap.decreaseKey edge.target (nodeWeight + edge.data.weight)
          ⟨hop, toHeapNode.data.target⟩)) := by
  rw [relaxEdge] at relaxed
  split at relaxed
  case isTrue =>
    cases relaxed
    exact Or.inl rfl
  case isFalse enabled =>
    rw [Bool.not_eq_true', Bool.not_eq_false] at enabled
    split at relaxed
    case isTrue =>
      cases relaxed
      exact Or.inl rfl
    case isFalse allowed =>
      rw [beq_iff_eq] at allowed
      split at relaxed
      case h_1 => cases relaxed
      case h_2 toWeight added =>
        obtain ⟨rfl, small⟩ := addWeight_eq_ok added
        split at relaxed
        case h_1 fresh =>
          cases relaxed
          exact Or.inr ⟨enabled, Ne.symm allowed, small, Or.inl ⟨fresh, rfl⟩⟩
        case h_2 toHeapNode found =>
          split at relaxed
          case isTrue shorter =>
            split at relaxed
            case isTrue =>
              cases relaxed
              exact Or.inr ⟨enabled, Ne.symm allowed, small,
                Or.inr ⟨toHeapNode, found, shorter, rfl⟩⟩
            case isFalse => cases relaxed
          case isFalse =>
            cases relaxed
            exact Or.inl rfl

/-- A relaxed edge writes the entry of its target only. -/
theorem relaxEdge_lookup (relaxed : relaxEdge hop nodeWeight forbiddenNode heap edge = .ok after)
    {node : ℕ} {entry : HeapNode ℕ ContractorHeapData}
    (found : after.getHeapNodeIfWasInserted node = some entry) :
    heap.getHeapNodeIfWasInserted node = some entry ∨
      (node = edge.target ∧ edge.data.forward = true ∧ edge.target ≠ forbiddenNode ∧
        nodeWeight + edge.data.weight ≤ invalidEdgeWeight ∧
        entry.weight = nodeWeight + edge.data.weight) := by
  rcases relaxEdge_cases relaxed with
    rfl | ⟨enabled, allowed, small, ⟨fresh, rfl⟩ | ⟨toHeapNode, stored, shorter, rfl⟩⟩
  case inl => exact Or.inl found
  case inr.inl =>
    by_cases same : node = edge.target
    case pos =>
      subst same
      rw [QueryHeap.getHeapNode_insert_self fresh] at found
      cases found
      exact Or.inr ⟨rfl, enabled, allowed, small, rfl⟩
    case neg =>
      rw [QueryHeap.getHeapNode_insert_ne same] at found
      exact Or.inl found
  case inr.inr =>
    by_cases same : node = edge.target
    case pos =>
      subst same
      rw [QueryHeap.getHeapNode_decreaseKey_self, stored] at found
      cases found
      exact Or.inr ⟨rfl, enabled, allowed, small, rfl⟩
    case neg =>
      rw [QueryHeap.getHeapNode_decreaseKey_ne same] at found
      exact Or.inl found

theorem relaxEdge_distinct (distinct : heap.Distinct)
    (relaxed : relaxEdge hop nodeWeight forbiddenNode heap edge = .ok after) : after.Distinct := by
  rcases relaxEdge_cases relaxed with
    rfl | ⟨_, _, _, ⟨fresh, rfl⟩ | ⟨_, _, _, rfl⟩⟩
  case inl => exact distinct
  case inr.inl => exact distinct.insert fresh
  case inr.inr => exact distinct.decreaseKey

/-- What was inserted stays inserted. -/
theorem relaxEdge_inserted {node : ℕ} (inserted : node ∈ heap.map HeapNode.node)
    (relaxed : relaxEdge hop nodeWeight forbiddenNode heap edge = .ok after) :
    node ∈ after.map HeapNode.node := by
  rcases relaxEdge_cases relaxed with
    rfl | ⟨_, _, _, ⟨fresh, rfl⟩ | ⟨_, _, _, rfl⟩⟩
  case inl => exact inserted
  case inr.inl =>
    rw [QueryHeap.insert, List.map_append]
    exact List.mem_append_left _ inserted
  case inr.inr => rwa [QueryHeap.nodes_decreaseKey]

end Relaxing

/-! ## Soundness -/

section Soundness

variable {graph : ContractorGraph} {source forbiddenNode : ℕ} {heap after : ContractorHeap}

/-- Every key is the weight of a walk around the forbidden node, or says that there is none yet. -/
structure Reached (graph : ContractorGraph) (source forbiddenNode : ℕ) (heap : ContractorHeap) :
    Prop where
  distinct : heap.Distinct
  walk : ∀ {node : ℕ} {entry : HeapNode ℕ ContractorHeapData},
    heap.getHeapNodeIfWasInserted node = some entry → entry.weight = invalidEdgeWeight ∨
      Walk (around graph forbiddenNode) source node entry.weight

theorem Reached.deleteMin {node : HeapNode ℕ ContractorHeapData}
    (reached : Reached graph source forbiddenNode heap)
    (popped : heap.deleteMin = some (node, after)) :
    Reached graph source forbiddenNode after := by
  obtain ⟨_, rfl⟩ := QueryHeap.deleteMin_spec popped
  refine ⟨reached.distinct.remove, ?_⟩
  intro other entry found
  by_cases same : other = node.node
  case pos =>
    subst same
    rw [QueryHeap.getHeapNode_remove_self, Option.map_eq_some_iff] at found
    obtain ⟨before, stored, rfl⟩ := found
    have walk := reached.walk stored
    exact walk
  case neg =>
    rw [QueryHeap.getHeapNode_remove_ne same] at found
    exact reached.walk found

/-- The node that leaves the heap has been reached as its entry says. -/
theorem Reached.popped {node : HeapNode ℕ ContractorHeapData}
    (reached : Reached graph source forbiddenNode heap)
    (popped : heap.deleteMin = some (node, after)) :
    node.weight = invalidEdgeWeight ∨
      Walk (around graph forbiddenNode) source node.node node.weight := by
  obtain ⟨least, _⟩ := QueryHeap.deleteMin_spec popped
  exact reached.walk
    (QueryHeap.getHeapNode_of_mem reached.distinct (QueryHeap.leastInHeap_spec least).1)

theorem Reached.relaxed {node : HeapNode ℕ ContractorHeapData}
    (reached : Reached graph source forbiddenNode heap)
    (settled : node.weight = invalidEdgeWeight ∨
      Walk (around graph forbiddenNode) source node.node node.weight)
    (relaxed : relaxNode heap graph node forbiddenNode = .ok after) :
    Reached graph source forbiddenNode after := by
  refine foldlM_invariant (Reached graph source forbiddenNode) ?_ reached relaxed
  intro edge member heap after reached relaxed
  refine ⟨relaxEdge_distinct reached.distinct relaxed, ?_⟩
  intro other entry found
  rcases relaxEdge_lookup relaxed found with
    before | ⟨rfl, enabled, allowed, small, weight⟩
  case inl => exact reached.walk before
  case inr =>
    rw [weight]
    rcases settled with unreached | walk
    case inl => exact Or.inl (by omega)
    case inr =>
      exact Or.inr (walk.concat ⟨⟨edge, member, rfl, enabled, rfl⟩, allowed⟩)

/-- The keys that the witness search leaves are sound. -/
theorem contractorSearch_reached {numberOfTargets nodeLimit weightLimit : ℕ}
    (reached : Reached graph source forbiddenNode heap)
    (searched : contractorSearch heap graph numberOfTargets nodeLimit weightLimit forbiddenNode =
      .ok after) : Reached graph source forbiddenNode after :=
  contractorSearchLoop_keeps (Reached graph source forbiddenNode)
    (fun reached popped => reached.deleteMin popped)
    (fun reached popped relaxed => (reached.deleteMin popped).relaxed (reached.popped popped)
      relaxed) reached searched

theorem contractorSearch_inserted {numberOfTargets nodeLimit weightLimit node : ℕ}
    (inserted : node ∈ heap.map HeapNode.node)
    (searched : contractorSearch heap graph numberOfTargets nodeLimit weightLimit forbiddenNode =
      .ok after) : node ∈ after.map HeapNode.node := by
  have deleted : ∀ {heap after : ContractorHeap} {least : HeapNode ℕ ContractorHeapData},
      node ∈ heap.map HeapNode.node → heap.deleteMin = some (least, after) →
      node ∈ after.map HeapNode.node := by
    intro heap after least inserted popped
    obtain ⟨_, rfl⟩ := QueryHeap.deleteMin_spec popped
    rwa [QueryHeap.nodes_remove]
  refine contractorSearchLoop_keeps (fun heap => node ∈ heap.map HeapNode.node) deleted ?_
    inserted searched
  intro heap middle after least inserted popped relaxed
  exact foldlM_invariant (fun heap => node ∈ heap.map HeapNode.node)
    (fun _ _ _ _ inserted relaxed => relaxEdge_inserted inserted relaxed)
    (deleted inserted popped) relaxed

end Soundness

/-! ## What may go wrong -/

section Failures

variable {heap after : ContractorHeap} {graph : ContractorGraph}
  {forbiddenNode id hop weight weightLimit : ℕ} {edge : DynamicEdge ContractorEdgeData}

/-- Some edge weighs more than a third of the greatest weight. -/
def Heavy (graph : ContractorGraph) : Prop :=
  ∃ id, ∃ edge ∈ graph.adjacent id, invalidEdgeWeight < 3 * edge.data.weight

/-- The only way to fail: a sum overflows, on a graph with a heavy edge. -/
def Overflows (graph : ContractorGraph) (undefined : Undefined) : Prop :=
  undefined = .overflow ∧ Heavy graph

/-- If no edge is heavy, the weight leaves room for another edge. -/
def Roomy (graph : ContractorGraph) (weight : ℕ) : Prop :=
  ¬Heavy graph → 3 * weight ≤ 2 * invalidEdgeWeight

theorem roomy_of_mem (member : edge ∈ graph.adjacent id) : Roomy graph edge.data.weight := by
  intro light
  by_contra large
  exact light ⟨id, edge, member, by omega⟩

theorem addWeight_fails (roomy : Roomy graph weight) (member : edge ∈ graph.adjacent id) :
    FailsOnly (Overflows graph) (addWeight weight edge.data.weight) := by
  rw [addWeight]
  split
  case isTrue => exact failsOnly_ok
  case isFalse large =>
    refine failsOnly_error.mpr ⟨rfl, ?_⟩
    by_contra light
    have room := roomy light
    exact light ⟨id, edge, member, by omega⟩

theorem relaxEdge_between (between : QueryHeap.Between weight heap)
    (relaxed : relaxEdge hop weight forbiddenNode heap edge = .ok after) :
    QueryHeap.Between weight after := by
  rcases relaxEdge_cases relaxed with
    rfl | ⟨_, _, _, ⟨fresh, rfl⟩ | ⟨toHeapNode, stored, shorter, rfl⟩⟩
  case inl => exact between
  case inr.inl => exact between.insert fresh (Nat.le_add_right _ _)
  case inr.inr => exact between.decreaseKey stored (Nat.le_add_right _ _) shorter

theorem relaxEdge_fails (between : QueryHeap.Between weight heap) (roomy : Roomy graph weight)
    (member : edge ∈ graph.adjacent id) :
    FailsOnly (Overflows graph) (relaxEdge hop weight forbiddenNode heap edge) := by
  rw [relaxEdge]
  split
  case isTrue => exact failsOnly_ok
  case isFalse =>
    split
    case isTrue => exact failsOnly_ok
    case isFalse =>
      split
      case h_1 undefined failed =>
        exact failsOnly_error.mpr (addWeight_fails roomy member undefined failed)
      case h_2 toWeight added =>
        obtain ⟨rfl, _⟩ := addWeight_eq_ok added
        split
        case h_1 => exact failsOnly_ok
        case h_2 toHeapNode found =>
          split
          case isFalse => exact failsOnly_ok
          case isTrue shorter =>
            split
            case isTrue => exact failsOnly_ok
            case isFalse gone =>
              -- weights are not negative, so a settled node keeps the least key
              exact absurd (between.inHeap_of_lt found (Nat.le_add_right _ _) shorter) gone

theorem relaxNode_fails {node : HeapNode ℕ ContractorHeapData}
    (between : QueryHeap.Between node.weight heap) (roomy : Roomy graph node.weight) :
    FailsOnly (Overflows graph) (relaxNode heap graph node forbiddenNode) :=
  FailsOnly.foldlM (QueryHeap.Between node.weight)
    (fun _ member _ between => relaxEdge_fails between roomy member)
    (fun _ _ _ _ between relaxed => relaxEdge_between between relaxed) between

/-- The search decreases the key of no node that has left the heap, and on light edges no sum of
it overflows: what it relaxes is within the limit. -/
theorem contractorSearch_fails {numberOfTargets nodeLimit : ℕ} (ordered : heap.Ordered)
    (roomy : Roomy graph weightLimit) : FailsOnly (Overflows graph)
      (contractorSearch heap graph numberOfTargets nodeLimit weightLimit forbiddenNode) := by
  rw [contractorSearch]
  generalize 0 = found
  induction nodeLimit generalizing heap found with
  | zero =>
      rw [contractorSearchLoop]
      split <;> exact failsOnly_ok
  | succ left ih =>
      rw [contractorSearchLoop]
      split
      case h_1 => exact failsOnly_ok
      case h_2 node middle popped =>
        have between := ordered.deleteMin popped
        dsimp only
        split
        case isTrue => exact failsOnly_ok
        case isFalse within =>
          split
          case isTrue => exact failsOnly_ok
          case isFalse =>
            have room : Roomy graph node.weight := fun light => by
              have limit := roomy light
              omega
            split
            case h_1 undefined failed =>
              exact failsOnly_error.mpr (relaxNode_fails between room undefined failed)
            case h_2 relaxed done =>
              have kept := foldlM_invariant (QueryHeap.Between node.weight)
                (fun _ _ _ _ between relaxed => relaxEdge_between between relaxed) between done
              exact ih kept.ordered _

end Failures

end Proximity.Routing
