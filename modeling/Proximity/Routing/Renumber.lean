import Proximity.Routing.DynamicGraph
import Proximity.Routing.Permutation

/-!
# Renumbering a dynamic graph

`DynamicGraph::Renumber` permutes the nodes, gives the filled slots of `edge_list` new numbers in
the order of the new nodes, and drops the dummies.
-/

namespace Proximity.Routing

open Proximity.Systems

universe u

variable {EdgeData : Type u}

/-- What the loop over the nodes writes. -/
structure EdgeNumbers (EdgeData : Type u) where
  nodeArray : List DynamicNode
  edgeList : List (DynamicEdge EdgeData)
  oldToNewEdge : List ℕ
  newEdgeIndex : ℕ

/-- An edge has its target renumbered. -/
def retarget (oldToNewNode : List ℕ) (entry : DynamicEdge EdgeData) : DynamicEdge EdgeData :=
  { entry with target := oldToNewNode.getD entry.target 0 }

/-- A loop over slots that changes the entries in place. -/
def changeSlots (change : DynamicEdge EdgeData → DynamicEdge EdgeData) (slots : List ℕ)
    (edgeList : List (DynamicEdge EdgeData)) : List (DynamicEdge EdgeData) :=
  slots.foldl (fun edgeList edge => edgeList.modify edge change) edgeList

/-- One turn of the loop over the nodes: the edges of the node get new targets and new numbers. -/
def numberEdges (oldToNewNode : List ℕ) (state : EdgeNumbers EdgeData) (node : ℕ) :
    EdgeNumbers EdgeData :=
  match state.nodeArray[node]? with
  | none => state
  | some run =>
      let slots := List.range' run.firstEdge run.edges
      { nodeArray := state.nodeArray.set node ⟨state.newEdgeIndex, run.edges⟩
        edgeList := changeSlots (retarget oldToNewNode) slots state.edgeList
        oldToNewEdge := numberSlots state.newEdgeIndex slots state.oldToNewEdge
        newEdgeIndex := state.newEdgeIndex + run.edges }

/-- `SPECIAL_EDGEID`. -/
def specialEdgeId : ℕ := 4294967295

/-- `Renumber`, which throws when there are too many edges. -/
def DynamicGraph.renumber (graph : DynamicGraph EdgeData) (oldToNewNode : List ℕ) :
    Option (DynamicGraph EdgeData) :=
  if specialEdgeId ≤ graph.edgeList.length then none
  else
    let numbers := (List.range graph.nodeArray.length).foldl (numberEdges oldToNewNode)
      ⟨inplacePermutation graph.nodeArray oldToNewNode, graph.edgeList,
        List.replicate graph.edgeList.length specialEdgeId, 0⟩
    let oldToNewEdge := numberRest specialEdgeId numbers.newEdgeIndex
      (List.range graph.edgeList.length) numbers.oldToNewEdge
    some ⟨numbers.newEdgeIndex, numbers.nodeArray,
      (inplacePermutation numbers.edgeList oldToNewEdge).take numbers.newEdgeIndex⟩

/-- The slots of the runs of nodes, one run after the other. -/
def ownedSlots (nodes : List DynamicNode) : List ℕ :=
  nodes.flatMap fun run => List.range' run.firstEdge run.edges

/-- A loop over all edges of all nodes that changes them in place. -/
def DynamicGraph.changeEdges (graph : DynamicGraph EdgeData)
    (change : DynamicEdge EdgeData → DynamicEdge EdgeData) : DynamicGraph EdgeData :=
  { graph with edgeList := changeSlots change (ownedSlots graph.nodeArray) graph.edgeList }

/-! ## The loop over the nodes -/

section Loop

variable {change : DynamicEdge EdgeData → DynamicEdge EdgeData} {oldToNewNode slots : List ℕ}
  {edgeList : List (DynamicEdge EdgeData)} {slot : ℕ}

theorem length_changeSlots : (changeSlots change slots edgeList).length = edgeList.length := by
  rw [changeSlots]
  induction slots generalizing edgeList with
  | nil => rfl
  | cons first rest ih => rw [List.foldl_cons, ih, List.length_modify]

theorem getElem?_changeSlots_ne (outside : slot ∉ slots) :
    (changeSlots change slots edgeList)[slot]? = edgeList[slot]? := by
  rw [changeSlots]
  induction slots generalizing edgeList with
  | nil => rfl
  | cons first rest ih =>
      rw [List.mem_cons, not_or] at outside
      rw [List.foldl_cons, ih outside.2, List.getElem?_modify_ne _ _ (Ne.symm outside.1)]

theorem getElem?_changeSlots (nodup : slots.Nodup) (inside : slot ∈ slots) :
    (changeSlots change slots edgeList)[slot]? = edgeList[slot]?.map change := by
  induction slots generalizing edgeList with
  | nil => cases inside
  | cons first rest ih =>
      obtain ⟨fresh, later⟩ := List.nodup_cons.mp nodup
      rw [changeSlots, List.foldl_cons, ← changeSlots]
      rcases List.mem_cons.mp inside with rfl | inside
      case inl =>
        rw [getElem?_changeSlots_ne fresh, List.getElem?_modify_eq]
        rfl
      case inr =>
        have ne : first ≠ slot := by
          rintro rfl
          exact fresh inside
        rw [ih later inside, List.getElem?_modify_ne _ _ ne]

theorem changeSlots_append {later : List ℕ} : changeSlots change (slots ++ later) edgeList =
    changeSlots change later (changeSlots change slots edgeList) :=
  List.foldl_append

theorem ownedSlots_append {first second : List DynamicNode} :
    ownedSlots (first ++ second) = ownedSlots first ++ ownedSlots second :=
  List.flatMap_append

theorem ownedSlots_cons {run : DynamicNode} {rest : List DynamicNode} :
    ownedSlots (run :: rest) = List.range' run.firstEdge run.edges ++ ownedSlots rest :=
  List.flatMap_cons

theorem length_ownedSlots {nodes : List DynamicNode} :
    (ownedSlots nodes).length = (nodes.map DynamicNode.edges).sum := by
  rw [ownedSlots, List.length_flatMap]
  exact congrArg List.sum (List.map_congr_left fun run _ => List.length_range')

/-- The runs of nodes, moved together from a first slot on. -/
def packRuns : ℕ → List DynamicNode → List DynamicNode
  | _, [] => []
  | first, run :: rest => ⟨first, run.edges⟩ :: packRuns (first + run.edges) rest

theorem length_packRuns {first : ℕ} {nodes : List DynamicNode} :
    (packRuns first nodes).length = nodes.length := by
  induction nodes generalizing first with
  | nil => rfl
  | cons run rest ih => rw [packRuns, List.length_cons, List.length_cons, ih]

theorem packRuns_append {first : ℕ} {nodes later : List DynamicNode} :
    packRuns first (nodes ++ later) =
      packRuns first nodes ++ packRuns (first + (ownedSlots nodes).length) later := by
  induction nodes generalizing first with
  | nil => rfl
  | cons run rest ih =>
      rw [List.cons_append, packRuns, ih, packRuns, ownedSlots_cons, List.length_append,
        List.length_range', Nat.add_assoc, List.cons_append]

theorem getElem?_packRuns {nodes : List DynamicNode} {node : ℕ} {run : DynamicNode}
    (stored : nodes[node]? = some run) :
    (packRuns 0 nodes)[node]? = some ⟨(ownedSlots (nodes.take node)).length, run.edges⟩ := by
  obtain ⟨inside, rfl⟩ := List.getElem?_eq_some_iff.mp stored
  have whole : nodes = nodes.take node ++ nodes[node] :: nodes.drop (node + 1) := by
    rw [← List.drop_eq_getElem_cons inside, List.take_append_drop]
  have length : (packRuns 0 (nodes.take node)).length = node := by
    rw [length_packRuns, List.length_take, Nat.min_eq_left (Nat.le_of_lt inside)]
  have split : packRuns 0 nodes = packRuns 0 (nodes.take node) ++
      packRuns (0 + (ownedSlots (nodes.take node)).length)
        (nodes[node] :: nodes.drop (node + 1)) := by
    rw [← packRuns_append, ← whole]
  rw [split, List.getElem?_append_right (Nat.le_of_eq length), length, Nat.sub_self, packRuns,
    List.getElem?_cons_zero, Nat.zero_add]

/-- The state after so many turns of the loop. -/
theorem numberEdges_foldl {nodes : List DynamicNode} {count size : ℕ}
    (small : count ≤ nodes.length) :
    (List.range count).foldl (numberEdges oldToNewNode)
      ⟨nodes, edgeList, List.replicate size specialEdgeId, 0⟩ =
      ⟨packRuns 0 (nodes.take count) ++ nodes.drop count,
        changeSlots (retarget oldToNewNode) (ownedSlots (nodes.take count)) edgeList,
        numberSlots 0 (ownedSlots (nodes.take count)) (List.replicate size specialEdgeId),
        (ownedSlots (nodes.take count)).length⟩ := by
  induction count with
  | zero => rfl
  | succ count ih =>
      obtain ⟨run, stored⟩ : ∃ run, nodes[count]? = some run :=
        ⟨_, List.getElem?_eq_getElem (Nat.lt_of_succ_le small)⟩
      have length : (packRuns 0 (nodes.take count)).length = count := by
        rw [length_packRuns, List.length_take, Nat.min_eq_left (Nat.le_of_succ_le small)]
      have taken : nodes.take (count + 1) = nodes.take count ++ [run] := by
        rw [List.take_add_one, stored, Option.toList_some]
      have dropped : nodes.drop count = run :: nodes.drop (count + 1) := by
        obtain ⟨inside, rfl⟩ := List.getElem?_eq_some_iff.mp stored
        exact List.drop_eq_getElem_cons inside
      have owned : ownedSlots (nodes.take (count + 1)) = ownedSlots (nodes.take count) ++
          List.range' run.firstEdge run.edges := by
        rw [taken, ownedSlots_append, ownedSlots, ownedSlots, List.flatMap_singleton]
      have read : (packRuns 0 (nodes.take count) ++ nodes.drop count)[count]? = some run := by
        rw [List.getElem?_append_right (Nat.le_of_eq length), length, Nat.sub_self, dropped,
          List.getElem?_cons_zero]
      rw [List.range_succ, List.foldl_append, List.foldl_cons, List.foldl_nil,
        ih (Nat.le_of_succ_le small), numberEdges, read, owned, changeSlots_append,
        numberSlots_append, List.length_append, List.length_range', Nat.zero_add, taken,
        packRuns_append, dropped]
      dsimp only
      refine congrArg (fun nodeArray => EdgeNumbers.mk nodeArray _ _ _) ?_
      rw [List.set_append_right _ _ (Nat.le_of_eq length), length, Nat.sub_self,
        List.set_cons_zero, List.append_assoc, Nat.zero_add]
      rfl

theorem edges_packRuns {first : ℕ} {nodes : List DynamicNode} :
    (packRuns first nodes).map DynamicNode.edges = nodes.map DynamicNode.edges := by
  induction nodes generalizing first with
  | nil => rfl
  | cons run rest ih => rw [packRuns, List.map_cons, List.map_cons, ih]

/-- The slots of a run stand together among those of all runs. -/
theorem getElem?_ownedSlots {nodes : List DynamicNode} {node index : ℕ} {run : DynamicNode}
    (stored : nodes[node]? = some run) (small : index < run.edges) :
    (ownedSlots nodes)[(ownedSlots (nodes.take node)).length + index]? =
      some (run.firstEdge + index) := by
  obtain ⟨inside, rfl⟩ := List.getElem?_eq_some_iff.mp stored
  have whole : ownedSlots nodes = ownedSlots (nodes.take node) ++
      (List.range' nodes[node].firstEdge nodes[node].edges ++
        ownedSlots (nodes.drop (node + 1))) := by
    rw [← ownedSlots_cons, ← List.drop_eq_getElem_cons inside, ← ownedSlots_append,
      List.take_append_drop]
  rw [whole, List.getElem?_append_right (Nat.le_add_right _ _), Nat.add_sub_cancel_left,
    List.getElem?_append_left (by rwa [List.length_range']), List.getElem?_range' small,
    Nat.one_mul]

/-- The runs of earlier nodes end before those of later ones start. -/
theorem ownedSlots_take_le {nodes : List DynamicNode} {first second : ℕ} {run : DynamicNode}
    (stored : nodes[first]? = some run) (less : first < second) :
    (ownedSlots (nodes.take first)).length + run.edges ≤
      (ownedSlots (nodes.take second)).length := by
  obtain ⟨later, rfl⟩ := Nat.exists_eq_add_of_lt less
  have taken : nodes.take (first + 1) = nodes.take first ++ [run] := by
    rw [List.take_add_one, stored, Option.toList_some]
  have whole : nodes.take (first + later + 1) =
      nodes.take first ++ [run] ++ (nodes.drop (first + 1)).take later := by
    rw [← taken, Nat.add_right_comm, List.take_add]
  rw [whole, ownedSlots_append, ownedSlots_append, List.length_append, List.length_append,
    ownedSlots_cons, List.length_append, List.length_range']
  omega

end Loop

/-! ## The renumbered graph -/

namespace DynamicGraph

section Renumbered

variable {graph renumbered : DynamicGraph EdgeData} {oldToNewNode : List ℕ} {old new : ℕ}

theorem nodes_permuted (perm : oldToNewNode.Perm (List.range graph.getNumberOfNodes))
    (sent : oldToNewNode[old]? = some new) :
    (inplacePermutation graph.nodeArray oldToNewNode)[new]? = some (graph.node old) := by
  have length := perm.length_eq
  rw [List.length_range] at length
  have inside : old < graph.nodeArray.length :=
    Nat.lt_of_lt_of_eq (List.getElem?_eq_some_iff.mp sent).1 length
  rw [(inplacePermutation_moves perm).2 sent, DynamicGraph.node,
    List.getElem?_eq_getElem inside, Option.getD_some]

theorem exists_permuted (perm : oldToNewNode.Perm (List.range graph.getNumberOfNodes))
    (inside : new < graph.getNumberOfNodes) : ∃ old : ℕ, oldToNewNode[old]? = some new :=
  List.mem_iff_getElem?.mp (perm.mem_iff.mpr (List.mem_range.mpr inside))

theorem mem_ownedSlots {slot : ℕ} :
    slot ∈ ownedSlots graph.nodeArray ↔ ∃ id, (graph.node id).Owns slot := by
  rw [ownedSlots, List.mem_flatMap]
  constructor
  · rintro ⟨run, member, inside⟩
    obtain ⟨id, stored⟩ := List.mem_iff_getElem?.mp member
    refine ⟨id, ?_⟩
    rw [DynamicGraph.node, stored, Option.getD_some]
    exact List.mem_range'_1.mp inside
  · rintro ⟨id, owns⟩
    refine ⟨graph.node id, ?_, List.mem_range'_1.mpr owns⟩
    rw [DynamicGraph.node, List.getElem?_eq_getElem (lt_of_owns owns), Option.getD_some]
    exact List.getElem_mem _

/-- No slot is owned twice. -/
theorem WellFormed.nodup_ownedSlots (well : graph.WellFormed) :
    (ownedSlots graph.nodeArray).Nodup := by
  refine List.nodup_flatMap.mpr ⟨fun run _ => List.nodup_range', ?_⟩
  rw [List.pairwise_iff_getElem]
  intro first second inside inside' less slot here there
  have owns : ∀ {id : ℕ} (inside : id < graph.nodeArray.length),
      slot ∈ List.range' graph.nodeArray[id].firstEdge graph.nodeArray[id].edges →
      (graph.node id).Owns slot := by
    intro id inside member
    rw [DynamicGraph.node, List.getElem?_eq_getElem inside, Option.getD_some]
    exact List.mem_range'_1.mp member
  have same := well.disjoint (owns inside here) (owns inside' there)
  omega

theorem WellFormed.bounded_ownedSlots (well : graph.WellFormed) :
    ∀ slot ∈ ownedSlots graph.nodeArray, slot < graph.edgeList.length := by
  intro slot member
  obtain ⟨id, owns⟩ := mem_ownedSlots.mp member
  exact well.bounded owns

/-- A change of all entries is a change of what every node has. -/
theorem adjacent_changeEdges (well : graph.WellFormed)
    (change : DynamicEdge EdgeData → DynamicEdge EdgeData) (id : ℕ) :
    (graph.changeEdges change).adjacent id = (graph.adjacent id).map change := by
  refine List.ext_getElem? fun index => ?_
  have same : (graph.changeEdges change).node id = graph.node id := rfl
  rw [List.getElem?_map, adjacent, adjacent, getElem?_slice, getElem?_slice, same]
  split
  case isTrue small =>
    refine getElem?_changeSlots well.nodup_ownedSlots (mem_ownedSlots.mpr ⟨id, ?_⟩)
    exact ⟨Nat.le_add_right _ _, Nat.add_lt_add_left small _⟩
  case isFalse => rfl

theorem wellFormed_changeEdges (well : graph.WellFormed)
    {change : DynamicEdge EdgeData → DynamicEdge EdgeData}
    (kept : ∀ entry, (change entry).target = entry.target) :
    (graph.changeEdges change).WellFormed := by
  refine ⟨?_, well.disjoint, well.counted⟩
  intro id slot owns
  obtain ⟨entry, stored, real⟩ := well.filled owns
  refine ⟨change entry, ?_, by rwa [kept]⟩
  rw [changeEdges, getElem?_changeSlots well.nodup_ownedSlots (mem_ownedSlots.mpr ⟨id, owns⟩),
    stored, Option.map_some]

/-- What a renumbering leaves: the runs are moved together in the order of the new nodes. -/
theorem renumber_cases (well : graph.WellFormed)
    (perm : oldToNewNode.Perm (List.range graph.getNumberOfNodes))
    (ran : graph.renumber oldToNewNode = some renumbered) :
    renumbered.numberOfEdges =
      (ownedSlots (inplacePermutation graph.nodeArray oldToNewNode)).length ∧
    renumbered.nodeArray = packRuns 0 (inplacePermutation graph.nodeArray oldToNewNode) ∧
    ∀ {place slot : ℕ},
      (ownedSlots (inplacePermutation graph.nodeArray oldToNewNode))[place]? = some slot →
      renumbered.edgeList[place]? = graph.edgeList[slot]?.map (retarget oldToNewNode) := by
  have length := (inplacePermutation_moves perm).1
  have same : (ownedSlots (inplacePermutation graph.nodeArray oldToNewNode)).Perm
      (ownedSlots graph.nodeArray) := (inplacePermutation_perm perm).flatMap_right _
  have nodup := same.nodup_iff.mpr well.nodup_ownedSlots
  rw [renumber] at ran
  split at ran
  case isTrue => cases ran
  case isFalse few =>
    rw [← length, numberEdges_foldl (Nat.le_refl _), List.take_length, List.drop_length,
      List.append_nil] at ran
    dsimp only at ran
    generalize owned_eq : ownedSlots (inplacePermutation graph.nodeArray oldToNewNode) =
      owned at *
    obtain ⟨order, ordered, numbers⟩ := numberRest_perm nodup
      (fun slot member => well.bounded_ownedSlots slot (same.mem_iff.mp (owned_eq ▸ member)))
      (Nat.le_of_not_le few)
    rw [numbers] at ran
    cases ran
    refine ⟨rfl, rfl, fun {place slot} found => ?_⟩
    have inside := (List.getElem?_eq_some_iff.mp found).1
    have sizes : (List.replicate graph.edgeList.length specialEdgeId).length =
        (changeSlots (retarget oldToNewNode) owned graph.edgeList).length := by
      rw [List.length_replicate, length_changeSlots]
    rw [← List.length_replicate (n := graph.edgeList.length) (a := specialEdgeId), sizes] at ordered
    have moved := (inplacePermutation_numberSlots sizes ordered).2
      ((List.getElem?_append_left inside).trans found)
    dsimp only
    rw [List.getElem?_take_of_lt inside, moved,
      getElem?_changeSlots nodup (List.mem_of_getElem? found)]

variable (well : graph.WellFormed)
  (perm : oldToNewNode.Perm (List.range graph.getNumberOfNodes))
  (ran : graph.renumber oldToNewNode = some renumbered)

include well perm ran

theorem getNumberOfNodes_renumber :
    renumbered.getNumberOfNodes = graph.getNumberOfNodes := by
  rw [getNumberOfNodes, (renumber_cases well perm ran).2.1, length_packRuns,
    (inplacePermutation_moves perm).1, getNumberOfNodes]

theorem node_renumber (sent : oldToNewNode[old]? = some new) :
    renumbered.node new = ⟨(ownedSlots ((inplacePermutation graph.nodeArray
      oldToNewNode).take new)).length, (graph.node old).edges⟩ := by
  rw [DynamicGraph.node, (renumber_cases well perm ran).2.1,
    getElem?_packRuns (nodes_permuted perm sent), Option.getD_some]

/-- A node keeps its edges, in their order and with their targets renumbered. -/
theorem adjacent_renumber (sent : oldToNewNode[old]? = some new) :
    renumbered.adjacent new = (graph.adjacent old).map (retarget oldToNewNode) := by
  obtain ⟨_, _, moved⟩ := renumber_cases well perm ran
  refine List.ext_getElem? fun index => ?_
  rw [adjacent, node_renumber well perm ran sent, getElem?_slice, List.getElem?_map, adjacent,
    getElem?_slice]
  dsimp only
  split
  case isTrue small => exact moved (getElem?_ownedSlots (nodes_permuted perm sent) small)
  case isFalse => rfl

theorem wellFormed_renumber (real : ∀ {id : ℕ} {entry : DynamicEdge EdgeData},
    entry ∈ graph.adjacent id → oldToNewNode.getD entry.target 0 ≠ specialNodeId) :
    renumbered.WellFormed := by
  obtain ⟨count, nodes, moved⟩ := renumber_cases well perm ran
  have known : ∀ {id slot : ℕ}, (renumbered.node id).Owns slot →
      ∃ old : ℕ, oldToNewNode[old]? = some id := by
    intro id slot owns
    refine exists_permuted perm ?_
    rw [← getNumberOfNodes_renumber well perm ran]
    exact lt_of_owns owns
  refine ⟨?_, ?_, ?_⟩
  case refine_1 =>
    intro id slot owns
    obtain ⟨old, sent⟩ := known owns
    rw [node_renumber well perm ran sent] at owns
    obtain ⟨low, high⟩ := owns
    dsimp only at low high
    obtain ⟨index, rfl⟩ := Nat.exists_eq_add_of_le low
    have small : index < (graph.node old).edges := by omega
    have owned : (graph.node old).Owns ((graph.node old).firstEdge + index) :=
      ⟨Nat.le_add_right _ _, Nat.add_lt_add_left small _⟩
    obtain ⟨entry, stored, _⟩ := well.filled owned
    refine ⟨retarget oldToNewNode entry, ?_, real (mem_adjacent.mpr ⟨_, owned, stored⟩)⟩
    rw [moved (getElem?_ownedSlots (nodes_permuted perm sent) small), stored, Option.map_some]
  case refine_2 =>
    intro id other slot owns owns'
    obtain ⟨old, sent⟩ := known owns
    obtain ⟨old', sent'⟩ := known owns'
    rw [node_renumber well perm ran sent] at owns
    rw [node_renumber well perm ran sent'] at owns'
    obtain ⟨low, high⟩ := owns
    obtain ⟨low', high'⟩ := owns'
    dsimp only at low high low' high'
    rcases lt_trichotomy id other with less | same | more
    case inl =>
      have := ownedSlots_take_le (nodes_permuted perm sent) less
      omega
    case inr.inl => exact same
    case inr.inr =>
      have := ownedSlots_take_le (nodes_permuted perm sent') more
      omega
  case refine_3 => rw [count, nodes, edges_packRuns, length_ownedSlots]

end Renumbered

end DynamicGraph

end Proximity.Routing
