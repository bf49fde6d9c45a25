import Proximity.Routing.Hierarchy
import Proximity.Routing.StaticGraph

/-!
# The query graph

`toEdges` copies the edges of the contracted graph, with the fields that a query reads; the static
graph over them is what the queries search.
-/

namespace Proximity.Routing

open Proximity.Systems

/-- `QueryEdge::EdgeData`, whose distance is left out.  `turnId` is the middle node of a shortcut,
or else the id of the edge. -/
structure QueryEdgeData where
  turnId : ℕ
  shortcut : Bool
  weight : ℕ
  duration : ℤ
  forward : Bool
  backward : Bool
  deriving DecidableEq, Repr

abbrev QueryEdge : Type := InputEdge QueryEdgeData

abbrev QueryGraph : Type := StaticGraph QueryEdgeData

/-- The fields of an edge: `turn_id` has 31 bits and `duration` is signed and has 30. -/
def toQueryData (data : ContractorEdgeData) : QueryEdgeData :=
  ⟨data.id % 2 ^ 31, data.shortcut, data.weight, Int.bmod data.duration (2 ^ 30), data.forward,
    data.backward⟩

def toQueryEntry (entry : DynamicEdge ContractorEdgeData) : DynamicEdge QueryEdgeData :=
  ⟨entry.target, toQueryData entry.data⟩

/-- `toEdges`, before the sort. -/
def toEdges (graph : ContractorGraph) : List QueryEdge :=
  (List.range graph.getNumberOfNodes).flatMap fun node =>
    (graph.adjacent node).map fun entry => ⟨node, entry.target, toQueryData entry.data⟩

/-- The graph of the edges, from the order that the sort has left. -/
def toQueryGraph (nodes : ℕ) (sorted : List QueryEdge) : QueryGraph :=
  StaticGraph.ofSortedEdges nodes sorted

section Edges

variable {graph : ContractorGraph} {sorted : List QueryEdge}

/-- The array that `toEdges` allocates is filled. -/
theorem length_toEdges (well : graph.WellFormed) :
    (toEdges graph).length = graph.numberOfEdges := by
  rw [toEdges, List.length_flatMap, well.counted]
  refine congrArg List.sum (List.ext_getElem? fun id => ?_)
  rw [List.getElem?_map, List.getElem?_map]
  by_cases inside : id < graph.getNumberOfNodes
  case pos =>
    rw [List.getElem?_range inside, Option.map_some, List.length_map, well.length_adjacent,
      DynamicGraph.node, List.getElem?_eq_getElem inside]
    rfl
  case neg =>
    rw [List.getElem?_eq_none (by rw [List.length_range]; omega),
      List.getElem?_eq_none (Nat.le_of_not_lt inside)]
    rfl

theorem mem_toEdges {edge : QueryEdge} : edge ∈ toEdges graph ↔
    ∃ entry ∈ graph.adjacent edge.source, toQueryEntry entry = edge.entry := by
  obtain ⟨source, target, data⟩ := edge
  rw [toEdges, List.mem_flatMap]
  constructor
  · rintro ⟨node, _, member⟩
    obtain ⟨entry, there, same⟩ := List.mem_map.mp member
    cases same
    exact ⟨entry, there, rfl⟩
  · rintro ⟨entry, there, same⟩
    cases same
    refine ⟨source, List.mem_range.mpr ?_, List.mem_map.mpr ⟨entry, there, rfl⟩⟩
    by_contra outside
    rw [DynamicGraph.adjacent_of_le (Nat.le_of_not_lt outside)] at there
    exact absurd there List.not_mem_nil

/-- The query graph has the edges of the contracted graph. -/
theorem mem_toQueryGraph (sorts : SortsTo (toEdges graph) sorted) {id : ℕ}
    {entry : DynamicEdge QueryEdgeData} :
    entry ∈ (toQueryGraph graph.getNumberOfNodes sorted).adjacent id ↔
      ∃ edge ∈ graph.adjacent id, toQueryEntry edge = entry := by
  have by_source := sorts.sortedBy
  rw [toQueryGraph]
  by_cases inside : id < graph.getNumberOfNodes
  case pos =>
    rw [StaticGraph.adjacent_ofSortedEdges by_source inside, List.mem_map]
    constructor
    · rintro ⟨edge, member, rfl⟩
      obtain ⟨there, same⟩ := List.mem_filter.mp member
      rw [beq_iff_eq] at same
      subst same
      exact mem_toEdges.mp (sorts.1.mem_iff.mp there)
    · rintro ⟨edge, there, rfl⟩
      refine ⟨⟨id, edge.target, toQueryData edge.data⟩, List.mem_filter.mpr ⟨?_, ?_⟩, rfl⟩
      · exact sorts.1.mem_iff.mpr (mem_toEdges.mpr ⟨edge, there, rfl⟩)
      · exact beq_self_eq_true id
  case neg =>
    rw [StaticGraph.adjacent_of_le by_source (Nat.le_of_not_lt inside),
      DynamicGraph.adjacent_of_le (Nat.le_of_not_lt inside)]
    exact iff_of_false List.not_mem_nil fun ⟨_, member, _⟩ => absurd member List.not_mem_nil

end Edges

end Proximity.Routing
