import Proximity.Routing.ContractorSearch

/-!
# The static graph

`util::StaticGraph` keeps, for each node, where its edges begin in the array of all edges; the
edges of a node end where those of the next one begin.
-/

namespace Proximity.Routing

open Proximity.Systems

universe u

/-- `number_of_nodes` is one less than the length of `node_array`, which has a sentinel.  An entry
of `edge_array` is a target with its data. -/
structure StaticGraph (EdgeData : Type u) where
  numberOfEdges : ℕ
  nodeArray : List ℕ
  edgeArray : List (DynamicEdge EdgeData)
  deriving DecidableEq, Repr

variable {EdgeData : Type u}

namespace StaticGraph

/-- The loop over the nodes: where the edges of each one end. -/
def fillOffsets : List ℕ → ℕ → List (InputEdge EdgeData) → List ℕ
  | [], _, _ => []
  | node :: nodes, position, edges =>
      let own := edges.takeWhile fun edge => edge.source == node
      (position + own.length) ::
        fillOffsets nodes (position + own.length) (edges.drop own.length)

/-- `InitializeFromSortedEdgeRange`. -/
def ofSortedEdges (nodes : ℕ) (edges : List (InputEdge EdgeData)) : StaticGraph EdgeData :=
  ⟨edges.length, 0 :: fillOffsets (List.range nodes) 0 edges, edges.map InputEdge.entry⟩

def getNumberOfNodes (graph : StaticGraph EdgeData) : ℕ :=
  graph.nodeArray.length - 1

/-- Reading past `node_array` throws; here such a node has no edges. -/
def beginEdges (graph : StaticGraph EdgeData) (node : ℕ) : ℕ :=
  graph.nodeArray[node]?.getD 0

def endEdges (graph : StaticGraph EdgeData) (node : ℕ) : ℕ :=
  graph.nodeArray[node + 1]?.getD 0

def getOutDegree (graph : StaticGraph EdgeData) (node : ℕ) : ℕ :=
  graph.endEdges node - graph.beginEdges node

def getAdjacentEdgeRange (graph : StaticGraph EdgeData) (node : ℕ) : List ℕ :=
  List.range' (graph.beginEdges node) (graph.getOutDegree node)

/-- The edges of a node, as the loops over its range see them. -/
def adjacent (graph : StaticGraph EdgeData) (node : ℕ) : List (DynamicEdge EdgeData) :=
  slice graph.edgeArray (graph.beginEdges node) (graph.getOutDegree node)

/-- One turn of the loop of `FindSmallestEdge`, over the best edge and its weight. -/
def smallerEdge (graph : StaticGraph EdgeData) (weight : EdgeData → ℕ) (filter : EdgeData → Bool)
    (target : ℕ) (best : Option ℕ × ℕ) (edge : ℕ) : Option ℕ × ℕ :=
  match graph.edgeArray[edge]? with
  | none => best
  | some entry =>
      if entry.target = target ∧ weight entry.data < best.2 ∧ filter entry.data = true then
        (some edge, weight entry.data)
      else best

def findSmallestEdge (graph : StaticGraph EdgeData) (weight : EdgeData → ℕ)
    (filter : EdgeData → Bool) (source target : ℕ) : Option ℕ :=
  ((graph.getAdjacentEdgeRange source).foldl (graph.smallerEdge weight filter target)
    (none, invalidEdgeWeight)).1

section Construction

variable {nodes : ℕ} {edges : List (InputEdge EdgeData)}

theorem fillOffsets_eq (ids : List ℕ) (position : ℕ) (edges : List (InputEdge EdgeData)) :
    fillOffsets ids position edges =
      (DynamicGraph.fillNodes ids position edges).map fun node => node.firstEdge + node.edges := by
  induction ids generalizing position edges with
  | nil => rfl
  | cons id ids ih =>
      rw [fillOffsets, DynamicGraph.fillNodes, List.map_cons, ih]

theorem offsets_eq (sorted : SortedBy InputEdge.source edges) :
    fillOffsets (List.range nodes) 0 edges =
      (List.range nodes).map fun id => below InputEdge.source edges (id + 1) := by
  have filled : DynamicGraph.fillNodes (List.range nodes) 0 edges = _ :=
    DynamicGraph.nodeArray_ofEdges sorted
  rw [fillOffsets_eq, filled, List.map_map]
  exact List.map_congr_left fun id _ => (below_succ edges id).symm

theorem getNumberOfNodes_ofSortedEdges (nodes : ℕ) (sorted : SortedBy InputEdge.source edges) :
    (ofSortedEdges nodes edges).getNumberOfNodes = nodes := by
  rw [getNumberOfNodes, ofSortedEdges, offsets_eq sorted, List.length_cons, List.length_map,
    List.length_range, Nat.add_sub_cancel]

theorem endEdges_ofSortedEdges (sorted : SortedBy InputEdge.source edges) {node : ℕ}
    (inside : node < nodes) :
    (ofSortedEdges nodes edges).endEdges node = below InputEdge.source edges (node + 1) := by
  rw [endEdges, ofSortedEdges, offsets_eq sorted, List.getElem?_cons_succ, List.getElem?_map,
    List.getElem?_range inside]
  rfl

theorem beginEdges_ofSortedEdges (sorted : SortedBy InputEdge.source edges) {node : ℕ}
    (inside : node < nodes) :
    (ofSortedEdges nodes edges).beginEdges node = below InputEdge.source edges node := by
  cases node with
  | zero => exact (below_zero edges).symm
  | succ before =>
      exact endEdges_ofSortedEdges sorted (Nat.lt_of_succ_lt inside)

/-- The edges of a node are those with it as their source, in their order. -/
theorem adjacent_ofSortedEdges (sorted : SortedBy InputEdge.source edges) {node : ℕ}
    (inside : node < nodes) :
    (ofSortedEdges nodes edges).adjacent node =
      (ofKey InputEdge.source edges node).map InputEdge.entry := by
  rw [adjacent, getOutDegree, endEdges_ofSortedEdges sorted inside,
    beginEdges_ofSortedEdges sorted inside, below_succ, Nat.add_sub_cancel_left, ofSortedEdges,
    slice, ← List.map_drop, ← List.map_take]
  exact congrArg (List.map InputEdge.entry) (sorted.slice node)

theorem adjacent_of_le (sorted : SortedBy InputEdge.source edges) {node : ℕ}
    (outside : nodes ≤ node) : (ofSortedEdges nodes edges).adjacent node = [] := by
  have past : (ofSortedEdges nodes edges).endEdges node = 0 := by
    rw [endEdges, List.getElem?_eq_none, Option.getD_none]
    have count := getNumberOfNodes_ofSortedEdges nodes sorted
    rw [getNumberOfNodes] at count
    omega
  rw [adjacent, getOutDegree, past, Nat.zero_sub, slice_zero]

end Construction

section Lookups

variable {graph : StaticGraph EdgeData} {weight : EdgeData → ℕ} {filter : EdgeData → Bool}
  {source target edge : ℕ}

theorem mem_adjacent {entry : DynamicEdge EdgeData} :
    entry ∈ graph.adjacent source ↔
      ∃ edge ∈ graph.getAdjacentEdgeRange source, graph.edgeArray[edge]? = some entry := by
  rw [adjacent, mem_slice]
  refine exists_congr fun edge => ?_
  rw [getAdjacentEdgeRange, List.mem_range'_1, and_assoc]

/-- The edge leads to the target and passes the filter. -/
def Matches (graph : StaticGraph EdgeData) (filter : EdgeData → Bool) (target edge : ℕ)
    (entry : DynamicEdge EdgeData) : Prop :=
  graph.edgeArray[edge]? = some entry ∧ entry.target = target ∧ filter entry.data = true

/-- What the loop over some edges makes of the best one. -/
theorem foldl_smallerEdge (graph : StaticGraph EdgeData) (weight : EdgeData → ℕ)
    (filter : EdgeData → Bool) (target : ℕ) (edges : List ℕ) (best : Option ℕ × ℕ) :
    (edges.foldl (graph.smallerEdge weight filter target) best = best ∨
      ∃ edge ∈ edges, ∃ entry, graph.Matches filter target edge entry ∧
        edges.foldl (graph.smallerEdge weight filter target) best =
          (some edge, weight entry.data) ∧ weight entry.data < best.2) ∧
    ∀ edge ∈ edges, ∀ entry, graph.Matches filter target edge entry →
      (edges.foldl (graph.smallerEdge weight filter target) best).2 ≤ weight entry.data := by
  induction edges generalizing best with
  | nil => exact ⟨Or.inl rfl, fun _ member => absurd member List.not_mem_nil⟩
  | cons first rest ih =>
      rw [List.foldl_cons, List.forall_mem_cons]
      have turn : graph.smallerEdge weight filter target best first = best ∨
          ∃ entry, graph.Matches filter target first entry ∧
            graph.smallerEdge weight filter target best first = (some first, weight entry.data) ∧
              weight entry.data < best.2 := by
        rw [smallerEdge]
        split
        case h_1 => exact Or.inl rfl
        case h_2 entry found =>
          split
          case isTrue better =>
            exact Or.inr ⟨entry, ⟨found, better.1, better.2.2⟩, rfl, better.2.1⟩
          case isFalse => exact Or.inl rfl
      have beaten : ∀ entry, graph.Matches filter target first entry →
          (graph.smallerEdge weight filter target best first).2 ≤ weight entry.data := by
        rintro entry ⟨found, same, passes⟩
        rw [smallerEdge, found]
        dsimp only
        split
        case isTrue => exact Nat.le_refl _
        case isFalse worse =>
          by_contra less
          exact worse ⟨same, Nat.lt_of_not_le less, passes⟩
      generalize graph.smallerEdge weight filter target best first = middle at turn beaten ⊢
      obtain ⟨outcome, least⟩ := ih middle
      have lowered : (rest.foldl (graph.smallerEdge weight filter target) middle).2 ≤ middle.2 := by
        rcases outcome with same | ⟨_, _, _, _, found, less⟩
        · rw [same]
        · rw [found]
          exact Nat.le_of_lt less
      refine ⟨?_, fun entry also => Nat.le_trans lowered (beaten entry also), least⟩
      rcases outcome with same | ⟨edge, member, entry, found, result, less⟩
      case inl =>
        rw [same]
        rcases turn with kept | ⟨entry, found, taken, less⟩
        · exact Or.inl kept
        · exact Or.inr ⟨first, List.mem_cons_self, entry, found, taken, less⟩
      case inr =>
        refine Or.inr ⟨edge, List.mem_cons_of_mem _ member, entry, found, result, ?_⟩
        rcases turn with rfl | ⟨_, _, rfl, before⟩
        · exact less
        · exact Nat.lt_trans less before

/-- The smallest edge leads to the target, passes the filter, and none that does is lighter. -/
theorem findSmallestEdge_eq_some
    (found : graph.findSmallestEdge weight filter source target = some edge) :
    ∃ entry ∈ graph.adjacent source, graph.edgeArray[edge]? = some entry ∧
      entry.target = target ∧ filter entry.data = true ∧
      weight entry.data < invalidEdgeWeight ∧
      ∀ other ∈ graph.adjacent source, other.target = target → filter other.data = true →
        weight entry.data ≤ weight other.data := by
  obtain ⟨outcome, least⟩ := foldl_smallerEdge graph weight filter target
    (graph.getAdjacentEdgeRange source) (none, invalidEdgeWeight)
  rw [findSmallestEdge] at found
  rcases outcome with same | ⟨taken, member, entry, ⟨stored, same, passes⟩, result, valid⟩
  case inl =>
    rw [same] at found
    cases found
  case inr =>
    rw [result] at found least
    obtain rfl := Option.some.inj found
    refine ⟨entry, mem_adjacent.mpr ⟨taken, member, stored⟩, stored, same, passes, valid, ?_⟩
    intro other there same' passes'
    obtain ⟨edge, member', stored'⟩ := mem_adjacent.mp there
    exact least edge member' other ⟨stored', same', passes'⟩

/-- An edge that leads to the target and passes the filter is found, or one that is no heavier. -/
theorem findSmallestEdge_isSome {entry : DynamicEdge EdgeData}
    (member : entry ∈ graph.adjacent source) (same : entry.target = target)
    (passes : filter entry.data = true) (valid : weight entry.data < invalidEdgeWeight) :
    ∃ edge, graph.findSmallestEdge weight filter source target = some edge := by
  obtain ⟨outcome, least⟩ := foldl_smallerEdge graph weight filter target
    (graph.getAdjacentEdgeRange source) (none, invalidEdgeWeight)
  obtain ⟨edge, inside, stored⟩ := mem_adjacent.mp member
  have le := least edge inside entry ⟨stored, same, passes⟩
  rcases outcome with kept | ⟨taken, _, _, _, result, _⟩
  case inl =>
    rw [kept] at le
    exact absurd valid (Nat.not_lt_of_le le)
  case inr =>
    rw [findSmallestEdge, result]
    exact ⟨taken, rfl⟩

end Lookups

end StaticGraph

end Proximity.Routing
