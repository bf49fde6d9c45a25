import Mathlib.Algebra.Order.BigOperators.Group.List
import Mathlib.Data.Multiset.AddSub
import Mathlib.Data.Multiset.Filter
import Mathlib.Logic.Function.Basic
import Proximity.Routing.Renumber
import Proximity.Systems.Run

/-!
# The dynamic graph as a multigraph

What the dynamic graph is for: a bag of edges for each node.  Whatever is inserted, deleted and
written in whatever order, the slots of the array hold just these bags.
-/

namespace Proximity.Routing

open Proximity.Systems

universe u

/-- The edges that leave each node. -/
abbrev Multigraph (EdgeData : Type u) : Type u := ℕ → Multiset (DynamicEdge EdgeData)

/-- The calls that change a graph.  Where a call takes an iterator, it comes with the edge that
the caller has read there. -/
inductive Operation (EdgeData : Type u) where
  | insertEdge (source target : ℕ) (data : EdgeData)
  | deleteEdge (source edge : ℕ) (entry : DynamicEdge EdgeData)
  | deleteEdgesTo (source target : ℕ)
  | setEdgeData (source edge : ℕ) (entry : DynamicEdge EdgeData) (data : EdgeData)
  | renumber (oldToNewNode : List ℕ)

variable {EdgeData : Type u}

/-- What a call does to the bags. -/
def Multigraph.effect [DecidableEq EdgeData] (bags : Multigraph EdgeData) :
    Operation EdgeData → Multigraph EdgeData
  | .insertEdge source target data =>
      Function.update bags source (⟨target, data⟩ ::ₘ bags source)
  | .deleteEdge source _ entry => Function.update bags source ((bags source).erase entry)
  | .deleteEdgesTo source target =>
      Function.update bags source ((bags source).filter fun entry => entry.target ≠ target)
  | .setEdgeData source _ entry data =>
      Function.update bags source (⟨entry.target, data⟩ ::ₘ (bags source).erase entry)
  | .renumber oldToNewNode => fun new =>
      (bags (oldToNewNode.idxOf new)).map (retarget oldToNewNode)

namespace DynamicGraph

/-- The bags that the slots hold. -/
def bags (graph : DynamicGraph EdgeData) : Multigraph EdgeData :=
  fun id => graph.adjacent id

/-- An iterator is good when its slot is one of the source's. -/
def Valid (graph : DynamicGraph EdgeData) (source edge : ℕ) (entry : DynamicEdge EdgeData) :
    Prop :=
  (graph.node source).Owns edge ∧ graph.edgeList[edge]? = some entry

instance [DecidableEq EdgeData] (graph : DynamicGraph EdgeData) (source edge : ℕ)
    (entry : DynamicEdge EdgeData) : Decidable (graph.Valid source edge entry) :=
  inferInstanceAs (Decidable ((_ ∧ _) ∧ _))

/-- A table for a renumbering has a place for every node and every target. -/
def Renumbers (graph : DynamicGraph EdgeData) (oldToNewNode : List ℕ) : Prop :=
  oldToNewNode.Perm (List.range graph.getNumberOfNodes) ∧
    graph.getNumberOfNodes ≤ specialNodeId ∧
    ∀ slot ∈ ownedSlots graph.nodeArray, ∀ entry ∈ graph.edgeList[slot]?,
      entry.target < graph.getNumberOfNodes

instance (graph : DynamicGraph EdgeData) (oldToNewNode : List ℕ) :
    Decidable (graph.Renumbers oldToNewNode) :=
  inferInstanceAs (Decidable (_ ∧ _ ∧ _))

/-- A call with a node that is not there, or with an iterator that is not good any more, is
undefined behaviour. -/
def step? [DecidableEq EdgeData] [Inhabited EdgeData] (graph : DynamicGraph EdgeData) :
    Operation EdgeData → Option (DynamicGraph EdgeData)
  | .insertEdge source target data =>
      if source < graph.getNumberOfNodes ∧ target ≠ specialNodeId then
        some (graph.insertEdge source target data).1
      else none
  | .deleteEdge source edge entry =>
      if graph.Valid source edge entry then some (graph.deleteEdge source edge) else none
  | .deleteEdgesTo source target =>
      if source < graph.getNumberOfNodes then some (graph.deleteEdgesTo source target).1 else none
  | .setEdgeData source edge entry data =>
      if graph.Valid source edge entry then some (graph.setEdgeData edge data) else none
  | .renumber oldToNewNode =>
      if graph.Renumbers oldToNewNode then graph.renumber oldToNewNode else none

section Refinement

variable {graph final : DynamicGraph EdgeData} {source : ℕ}

/-- A call that changes the edges of one node changes one bag. -/
theorem bags_eq_update {bag : Multiset (DynamicEdge EdgeData)}
    (self : (final.adjacent source : Multiset (DynamicEdge EdgeData)) = bag)
    (others : ∀ other, other ≠ source → final.adjacent other = graph.adjacent other) :
    final.bags = Function.update graph.bags source bag := by
  funext id
  by_cases same : id = source
  case pos =>
    subst same
    rw [Function.update_self]
    exact self
  case neg =>
    rw [Function.update_of_ne same, bags, others id same, bags]

/-- The count is the number of all edges. -/
theorem WellFormed.numberOfEdges_eq (well : graph.WellFormed) :
    graph.numberOfEdges =
      ((List.range graph.getNumberOfNodes).map fun id => (graph.bags id).card).sum := by
  rw [well.counted]
  congr 1
  refine List.ext_getElem? fun index => ?_
  rw [List.getElem?_map, List.getElem?_map]
  by_cases inside : index < graph.getNumberOfNodes
  case pos =>
    rw [List.getElem?_range inside, Option.map_some, bags, Multiset.coe_card, well.length_adjacent,
      node, List.getElem?_eq_getElem inside]
    rfl
  case neg =>
    have outside := Nat.le_of_not_lt inside
    rw [List.getElem?_eq_none outside, List.getElem?_eq_none (by rwa [List.length_range])]
    rfl

/-- A renumbering moves the bags, with their targets renumbered. -/
theorem bags_renumber {oldToNewNode : List ℕ} (well : graph.WellFormed)
    (renumbers : graph.Renumbers oldToNewNode) (ran : graph.renumber oldToNewNode = some final) :
    final.WellFormed ∧ final.bags = fun new =>
      (graph.bags (oldToNewNode.idxOf new)).map (retarget oldToNewNode) := by
  obtain ⟨perm, small, inside⟩ := renumbers
  have length := perm.length_eq.trans List.length_range
  refine ⟨wellFormed_renumber well perm ran fun {id entry} member => ?_, ?_⟩
  case refine_1 =>
    obtain ⟨slot, owns, found⟩ := mem_adjacent.mp member
    have target := inside slot (mem_ownedSlots.mpr ⟨id, owns⟩) entry found
    have placed := Nat.lt_of_lt_of_eq target length.symm
    have kept := List.mem_range.mp (perm.mem_iff.mp (List.getElem_mem placed))
    rw [List.getD_eq_getElem?_getD, List.getElem?_eq_getElem placed, Option.getD_some]
    omega
  case refine_2 =>
    funext new
    rw [bags, bags, Multiset.map_coe]
    by_cases known : new < graph.getNumberOfNodes
    case pos =>
      have placed := List.idxOf_lt_length_iff.mpr (perm.mem_iff.mpr (List.mem_range.mpr known))
      rw [adjacent_renumber well perm ran]
      exact (List.getElem?_eq_getElem placed).trans (congrArg some (List.getElem_idxOf placed))
    case neg =>
      have absent : new ∉ oldToNewNode := fun member =>
        known (List.mem_range.mp (perm.mem_iff.mp member))
      rw [adjacent_of_le (by rw [getNumberOfNodes_renumber well perm ran]; omega),
        List.idxOf_of_notMem absent, adjacent_of_le (Nat.le_of_eq length.symm), List.map_nil]

section Steps

variable [DecidableEq EdgeData] [Inhabited EdgeData]

/-- One call keeps the graph well formed and does to the bags what it should. -/
theorem WellFormed.step {operation : Operation EdgeData}
    (well : graph.WellFormed) (stepped : graph.step? operation = some final) :
    final.WellFormed ∧ final.bags = graph.bags.effect operation := by
  cases operation with
  | insertEdge source target data =>
      rw [step?, Option.ite_none_right_eq_some] at stepped
      obtain ⟨⟨inside, real⟩, reached⟩ := stepped
      cases reached
      refine ⟨well.insertEdge inside real, bags_eq_update ?_ fun _ ne =>
        adjacent_insertEdge_ne well real ne⟩
      exact Multiset.coe_eq_coe.mpr (adjacent_insertEdge_self well inside)
  | deleteEdge source edge entry =>
      rw [step?, Option.ite_none_right_eq_some] at stepped
      obtain ⟨⟨owns, found⟩, reached⟩ := stepped
      cases reached
      refine ⟨well.deleteEdge owns, bags_eq_update ?_ fun _ ne =>
        adjacent_deleteEdge_ne well owns ne⟩
      have perm := Multiset.coe_eq_coe.mpr (adjacent_deleteEdge_self well owns found)
      rw [bags, ← perm, ← Multiset.cons_coe, Multiset.erase_cons_head]
  | deleteEdgesTo source target =>
      rw [step?, Option.ite_none_right_eq_some] at stepped
      obtain ⟨inside, reached⟩ := stepped
      cases reached
      refine ⟨well.deleteEdgesTo target inside, bags_eq_update ?_ fun _ ne =>
        adjacent_deleteEdgesTo_ne well ne⟩
      rw [bags, Multiset.filter_coe, Multiset.coe_eq_coe]
      refine (adjacent_deleteEdgesTo_self well inside).trans (List.Perm.of_eq ?_)
      refine List.filter_congr fun entry _ => Bool.eq_iff_iff.mpr ?_
      rw [bne_iff_ne, decide_eq_true_iff]
  | setEdgeData source edge entry data =>
      rw [step?, Option.ite_none_right_eq_some] at stepped
      obtain ⟨⟨owns, found⟩, reached⟩ := stepped
      cases reached
      refine ⟨well.setEdgeData, bags_eq_update ?_ fun _ ne => adjacent_setEdgeData_ne well owns ne⟩
      have perm := Multiset.coe_eq_coe.mpr (perm_setEdgeData_self data owns found)
      have member : entry ∈ graph.bags source := by
        rw [bags, Multiset.mem_coe, mem_adjacent]
        exact ⟨edge, owns, found⟩
      rw [← Multiset.cons_coe, ← Multiset.cons_coe] at perm
      have cons := Multiset.cons_erase member
      rw [bags] at cons
      rw [← cons, Multiset.cons_swap, Multiset.cons_inj_right] at perm
      exact perm
  | renumber oldToNewNode =>
      rw [step?, Option.ite_none_right_eq_some] at stepped
      exact bags_renumber well stepped.1 stepped.2

end Steps

/-- Two nodes whose runs touch: the first insertion has to move the run of node 0. -/
def crowded : DynamicGraph ℕ :=
  ofEdges 2 [⟨0, 1, 7⟩, ⟨1, 0, 9⟩]

theorem wellFormed_crowded : crowded.WellFormed :=
  wellFormed_ofEdges (show List.Pairwise _ _ by decide) (by decide) (by decide)

end Refinement

end DynamicGraph

end Proximity.Routing
