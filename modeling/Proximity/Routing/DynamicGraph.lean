import Mathlib.Algebra.GroupWithZero.Nat
import Mathlib.Algebra.Order.BigOperators.Group.List
import Mathlib.Algebra.Order.Group.Nat
import Mathlib.Data.List.Basic
import Mathlib.Data.List.Perm.Basic
import Proximity.Systems.Grouped
import Proximity.Systems.Slices

/-!
# The dynamic graph

`util::DynamicGraph` keeps the edges of a node in one run of `edge_list`.  An edge that has the
greatest node as its target is a dummy: its slot is free, and an insertion may take the slot
after the run, the slot before it, or move the run to the end of the list.
-/

namespace Proximity.Routing

open Proximity.Systems

universe u

/-- `std::numeric_limits<NodeIterator>::max()`, the target of a dummy edge. -/
def specialNodeId : ℕ := 4294967295

structure DynamicNode where
  firstEdge : ℕ
  edges : ℕ
  deriving DecidableEq, Repr

structure DynamicEdge (EdgeData : Type u) where
  target : ℕ
  data : EdgeData
  deriving DecidableEq, Repr

/-- `number_of_nodes` is the length of `node_array`. -/
structure DynamicGraph (EdgeData : Type u) where
  numberOfEdges : ℕ
  nodeArray : List DynamicNode
  edgeList : List (DynamicEdge EdgeData)
  deriving DecidableEq, Repr

structure InputEdge (EdgeData : Type u) where
  source : ℕ
  target : ℕ
  data : EdgeData
  deriving DecidableEq, Repr

variable {EdgeData : Type u}

def InputEdge.entry (edge : InputEdge EdgeData) : DynamicEdge EdgeData :=
  ⟨edge.target, edge.data⟩

def isDummy (edgeList : List (DynamicEdge EdgeData)) (edge : ℕ) : Bool :=
  edgeList[edge]?.any fun entry => entry.target == specialNodeId

def makeDummy (edgeList : List (DynamicEdge EdgeData)) (edge : ℕ) : List (DynamicEdge EdgeData) :=
  edgeList.modify edge fun entry => { entry with target := specialNodeId }

namespace DynamicGraph

/-- The loop of the constructor over the nodes: each takes the edges that come next and have it as
their source. -/
def fillNodes : List ℕ → ℕ → List (InputEdge EdgeData) → List DynamicNode
  | [], _, _ => []
  | node :: nodes, position, edges =>
      let own := edges.takeWhile fun edge => edge.source == node
      ⟨position, own.length⟩ :: fillNodes nodes (position + own.length) (edges.drop own.length)

/-- The graph of a list of edges that is sorted by source. -/
def ofEdges (nodes : ℕ) (graph : List (InputEdge EdgeData)) : DynamicGraph EdgeData :=
  let nodeArray := fillNodes (List.range nodes) 0 graph
  ⟨graph.length, nodeArray,
    (graph.take (nodeArray.map DynamicNode.edges).sum).map InputEdge.entry⟩

/-- Reading past `node_array` is undefined; here such a node has no edges. -/
def node (graph : DynamicGraph EdgeData) (id : ℕ) : DynamicNode :=
  graph.nodeArray[id]?.getD ⟨0, 0⟩

def getNumberOfNodes (graph : DynamicGraph EdgeData) : ℕ :=
  graph.nodeArray.length

/-- The edges of `GetAdjacentEdgeRange`, in their order. -/
def adjacent (graph : DynamicGraph EdgeData) (id : ℕ) : List (DynamicEdge EdgeData) :=
  slice graph.edgeList (graph.node id).firstEdge (graph.node id).edges

/-- The loop that moves the edges of a node over and invalidates the old ones. -/
def moveEdges (firstEdge newFirstEdge : ℕ) :
    ℕ → List (DynamicEdge EdgeData) → List (DynamicEdge EdgeData)
  | 0, edgeList => edgeList
  | index + 1, edgeList =>
      let moved := moveEdges firstEdge newFirstEdge index edgeList
      makeDummy (copyEntry moved (newFirstEdge + index) (firstEdge + index)) (firstEdge + index)

/-- The part of `InsertEdge` that sees to a free slot behind the last edge of the node.  The
size of the moved run is `node.edges * 1.1 + 2`, rounded towards zero. -/
def makeRoom [Inhabited EdgeData] (node : DynamicNode) (edgeList : List (DynamicEdge EdgeData)) :
    DynamicNode × List (DynamicEdge EdgeData) :=
  let oneBeyondLastOfNode := node.edges + node.firstEdge
  if oneBeyondLastOfNode == edgeList.length || !isDummy edgeList oneBeyondLastOfNode then
    if node.firstEdge != 0 && isDummy edgeList (node.firstEdge - 1) then
      let firstEdge := node.firstEdge - 1
      (⟨firstEdge, node.edges⟩, copyEntry edgeList firstEdge (firstEdge + node.edges))
    else
      let newFirstEdge := edgeList.length
      let newSize := node.edges * 11 / 10 + 2
      let resized := edgeList ++ List.replicate newSize ⟨0, default⟩
      let moved := moveEdges node.firstEdge newFirstEdge node.edges resized
      (⟨newFirstEdge, node.edges⟩,
        (List.range' (newFirstEdge + (node.edges + 1)) (newSize - (node.edges + 1))).foldl
          makeDummy moved)
  else (node, edgeList)

/-- The returned iterator is the one of the slot after the new edge, as the count was raised
before. -/
def insertEdge [Inhabited EdgeData] (graph : DynamicGraph EdgeData) (source target : ℕ)
    (data : EdgeData) : DynamicGraph EdgeData × ℕ :=
  let room := makeRoom (graph.node source) graph.edgeList
  let node : DynamicNode := ⟨room.1.firstEdge, room.1.edges + 1⟩
  (⟨graph.numberOfEdges + 1, graph.nodeArray.set source node,
    room.2.set (room.1.firstEdge + room.1.edges) ⟨target, data⟩⟩, node.firstEdge + node.edges)

def deleteEdge (graph : DynamicGraph EdgeData) (source edge : ℕ) : DynamicGraph EdgeData :=
  let node := graph.node source
  let last := node.firstEdge + (node.edges - 1)
  ⟨graph.numberOfEdges - 1, graph.nodeArray.set source ⟨node.firstEdge, node.edges - 1⟩,
    makeDummy (copyEntry graph.edgeList edge last) last⟩

/-- The loop of `DeleteEdgesTo` over the slots from `index` on.  The inner loop, which looks at
the swapped edge again, is the call that stays at `index`. -/
def deleteLoop (target : ℕ) :
    ℕ → List (DynamicEdge EdgeData) → ℕ → List (DynamicEdge EdgeData) × ℕ
  | 0, edgeList, _ => (edgeList, 0)
  | left + 1, edgeList, index =>
      if edgeList[index]?.any fun entry => entry.target == target then
        let swapped := makeDummy (copyEntry edgeList index (index + left)) (index + left)
        let rest := deleteLoop target left swapped index
        (rest.1, rest.2 + 1)
      else deleteLoop target left edgeList (index + 1)

/-- The number of the deleted edges comes with the graph. -/
def deleteEdgesTo (graph : DynamicGraph EdgeData) (source target : ℕ) :
    DynamicGraph EdgeData × ℕ :=
  let node := graph.node source
  let rest := deleteLoop target node.edges graph.edgeList node.firstEdge
  (⟨graph.numberOfEdges - rest.2,
    graph.nodeArray.set source ⟨node.firstEdge, node.edges - rest.2⟩, rest.1⟩, rest.2)

/-- `SPECIAL_EDGEID` is `none`. -/
def findEdge (graph : DynamicGraph EdgeData) (source target : ℕ) : Option ℕ :=
  (List.range' (graph.node source).firstEdge (graph.node source).edges).find? fun edge =>
    graph.edgeList[edge]?.any fun entry => target == entry.target

/-- An assignment to the reference that `GetEdgeData` returns. -/
def setEdgeData (graph : DynamicGraph EdgeData) (edge : ℕ) (data : EdgeData) :
    DynamicGraph EdgeData :=
  { graph with edgeList := graph.edgeList.modify edge fun entry => { entry with data := data } }

end DynamicGraph

/-! ## Slots -/

/-- The slots that a node owns. -/
def DynamicNode.Owns (node : DynamicNode) (slot : ℕ) : Prop :=
  node.firstEdge ≤ slot ∧ slot < node.firstEdge + node.edges

section Slots

variable {edgeList : List (DynamicEdge EdgeData)} {edge slot : ℕ} {entry : DynamicEdge EdgeData}

theorem length_makeDummy : (makeDummy edgeList edge).length = edgeList.length :=
  List.length_modify _ _ _

theorem getElem?_makeDummy_ne (ne : slot ≠ edge) :
    (makeDummy edgeList edge)[slot]? = edgeList[slot]? := by
  rw [makeDummy, List.getElem?_modify_ne _ _ (Ne.symm ne)]

theorem length_makeDummies (slots : List ℕ) :
    (slots.foldl makeDummy edgeList).length = edgeList.length := by
  induction slots generalizing edgeList with
  | nil => rfl
  | cons first rest ih => rw [List.foldl_cons, ih, length_makeDummy]

theorem getElem?_makeDummies_not_mem {slots : List ℕ} (outside : slot ∉ slots) :
    (slots.foldl makeDummy edgeList)[slot]? = edgeList[slot]? := by
  induction slots generalizing edgeList with
  | nil => rfl
  | cons first rest ih =>
      rw [List.mem_cons, not_or] at outside
      rw [List.foldl_cons, ih outside.2, getElem?_makeDummy_ne outside.1]

/-- An edge is overwritten by the last one of its run, and the last slot becomes a dummy. -/
theorem perm_swap_last {firstEdge count : ℕ} (low : firstEdge ≤ edge)
    (high : edge ≤ firstEdge + count) (inside : firstEdge + count < edgeList.length)
    (found : edgeList[edge]? = some entry) :
    (entry :: slice (makeDummy (copyEntry edgeList edge (firstEdge + count)) (firstEdge + count))
      firstEdge count).Perm (slice edgeList firstEdge (count + 1)) := by
  have last := List.getElem?_eq_getElem inside
  rw [slice_succ last]
  rcases Nat.lt_or_eq_of_le high with before | same
  case inr =>
    subst same
    rw [found] at last
    obtain rfl := Option.some.inj last
    rw [slice_congr fun index small => ?_]
    · exact (List.perm_append_singleton _ _).symm
    · rw [getElem?_makeDummy_ne (by omega), getElem?_copyEntry_ne (by omega)]
  case inl =>
    have set : slice (makeDummy (copyEntry edgeList edge (firstEdge + count)) (firstEdge + count))
        firstEdge count =
        (slice edgeList firstEdge count).set (edge - firstEdge) edgeList[firstEdge + count] := by
      refine List.ext_getElem? fun index => ?_
      rw [getElem?_slice, List.getElem?_set, getElem?_slice]
      by_cases small : index < count
      case neg =>
        rw [if_neg small, if_neg small, if_neg (by omega)]
      case pos =>
        rw [if_pos small, if_pos small, getElem?_makeDummy_ne (by omega), copyEntry_eq last,
          List.getElem?_set]
        by_cases here : edge - firstEdge = index
        case pos =>
          have length : (slice edgeList firstEdge count).length = count := by
            rw [slice, List.length_take, List.length_drop]
            omega
          rw [if_pos (by omega), if_pos here, if_pos (by omega), if_pos (by omega)]
        case neg => rw [if_neg (by omega), if_neg here]
    have member : (slice edgeList firstEdge count)[edge - firstEdge]? = some entry := by
      rw [getElem?_slice, if_pos (by omega), Nat.add_sub_cancel' low, found]
    obtain ⟨small, rfl⟩ := List.getElem?_eq_some_iff.mp member
    rw [set]
    refine ((List.set_perm_cons_eraseIdx small _).cons _).trans ?_
    refine (List.Perm.swap _ _ _).trans ?_
    exact ((List.getElem_cons_eraseIdx_perm small).cons _).trans
      (List.perm_append_singleton _ _).symm

end Slots

/-! ## What every operation keeps -/

namespace DynamicGraph

structure WellFormed (graph : DynamicGraph EdgeData) : Prop where
  filled : ∀ {id slot : ℕ}, (graph.node id).Owns slot →
    ∃ entry, graph.edgeList[slot]? = some entry ∧ entry.target ≠ specialNodeId
  disjoint : ∀ {id other slot : ℕ}, (graph.node id).Owns slot → (graph.node other).Owns slot →
    id = other
  counted : graph.numberOfEdges = (graph.nodeArray.map DynamicNode.edges).sum

/-- What an operation on the edges of `id` may do to the slots: the new run lies in the old one or
in slots that were free, and no slot of another node changes. -/
structure Rewrites (graph : DynamicGraph EdgeData) (id : ℕ) (node : DynamicNode)
    (edgeList : List (DynamicEdge EdgeData)) : Prop where
  filled : ∀ {slot : ℕ}, node.Owns slot →
    ∃ entry, edgeList[slot]? = some entry ∧ entry.target ≠ specialNodeId
  fresh : ∀ {slot : ℕ} {entry : DynamicEdge EdgeData}, node.Owns slot →
    graph.edgeList[slot]? = some entry → entry.target ≠ specialNodeId → (graph.node id).Owns slot
  frame : ∀ {slot : ℕ} {entry : DynamicEdge EdgeData}, graph.edgeList[slot]? = some entry →
    entry.target ≠ specialNodeId → ¬(graph.node id).Owns slot → edgeList[slot]? = some entry

section Rewriting

variable {graph : DynamicGraph EdgeData} {id other count : ℕ} {node : DynamicNode}
  {edgeList : List (DynamicEdge EdgeData)}

theorem node_set_self (inside : id < graph.getNumberOfNodes) :
    (DynamicGraph.mk count (graph.nodeArray.set id node) edgeList).node id = node := by
  rw [DynamicGraph.node, List.getElem?_set_self inside, Option.getD_some]

theorem node_set_ne (ne : other ≠ id) :
    (DynamicGraph.mk count (graph.nodeArray.set id node) edgeList).node other =
      graph.node other := by
  rw [DynamicGraph.node, List.getElem?_set_ne (Ne.symm ne), DynamicGraph.node]

/-- A node that owns a slot is in `node_array`. -/
theorem lt_of_owns {slot : ℕ} (owns : (graph.node id).Owns slot) :
    id < graph.getNumberOfNodes := by
  by_contra outside
  have low := owns.1
  have high := owns.2
  rw [DynamicGraph.node, List.getElem?_eq_none (Nat.le_of_not_lt outside)] at low high
  simp only [Option.getD_none] at low high
  omega

theorem Rewrites.adjacent_ne (rewrites : graph.Rewrites id node edgeList)
    (well : graph.WellFormed) (ne : other ≠ id) :
    (DynamicGraph.mk count (graph.nodeArray.set id node) edgeList).adjacent other =
      graph.adjacent other := by
  rw [adjacent, node_set_ne ne, adjacent]
  refine slice_congr fun index small => ?_
  have owns : (graph.node other).Owns ((graph.node other).firstEdge + index) :=
    ⟨Nat.le_add_right _ _, Nat.add_lt_add_left small _⟩
  obtain ⟨entry, found, real⟩ := well.filled owns
  rw [found]
  exact rewrites.frame found real fun also => ne (well.disjoint owns also)

theorem Rewrites.wellFormed (rewrites : graph.Rewrites id node edgeList)
    (well : graph.WellFormed) (inside : id < graph.getNumberOfNodes)
    (counted : count + (graph.node id).edges = graph.numberOfEdges + node.edges) :
    (DynamicGraph.mk count (graph.nodeArray.set id node) edgeList).WellFormed := by
  have apart : ∀ {other slot : ℕ}, other ≠ id → (graph.node other).Owns slot → ¬node.Owns slot := by
    intro other slot ne owns also
    obtain ⟨entry, found, real⟩ := well.filled owns
    exact ne (well.disjoint owns (rewrites.fresh also found real))
  refine ⟨?_, ?_, ?_⟩
  case refine_1 =>
    intro other slot owns
    by_cases same : other = id
    case pos =>
      subst same
      rw [node_set_self inside] at owns
      exact rewrites.filled owns
    case neg =>
      rw [node_set_ne same] at owns
      obtain ⟨entry, found, real⟩ := well.filled owns
      exact ⟨entry, rewrites.frame found real fun also => same (well.disjoint owns also), real⟩
  case refine_2 =>
    intro first second slot owns also
    by_cases same : first = id
    case pos =>
      subst same
      rw [node_set_self inside] at owns
      by_contra ne
      rw [node_set_ne (Ne.symm ne)] at also
      exact apart (Ne.symm ne) also owns
    case neg =>
      rw [node_set_ne same] at owns
      by_cases same' : second = id
      case pos =>
        subst same'
        rw [node_set_self inside] at also
        exact absurd also (apart same owns)
      case neg =>
        rw [node_set_ne same'] at also
        exact well.disjoint owns also
  case refine_3 =>
    have length : id < (graph.nodeArray.map DynamicNode.edges).length := by
      rw [List.length_map]
      exact inside
    have old : (graph.node id).edges = (graph.nodeArray.map DynamicNode.edges)[id] := by
      rw [List.getElem_map, DynamicGraph.node, List.getElem?_eq_getElem inside]
      rfl
    have split := List.sum_set (graph.nodeArray.map DynamicNode.edges) id node.edges
    have split' := List.sum_take_add_sum_drop (graph.nodeArray.map DynamicNode.edges) id
    rw [List.drop_eq_getElem_cons length, List.sum_cons] at split'
    rw [if_pos length] at split
    have counted' := well.counted
    change count = ((graph.nodeArray.set id node).map DynamicNode.edges).sum
    rw [List.map_set]
    omega

end Rewriting

/-! ### Insertion -/

/-- What `makeRoom` gives: the edges of the node in some order, and a slot behind them that no
other node owns. -/
structure Room (node : DynamicNode) (edgeList : List (DynamicEdge EdgeData)) (room : DynamicNode)
    (roomList : List (DynamicEdge EdgeData)) : Prop where
  edges : room.edges = node.edges
  inside : room.firstEdge + room.edges < roomList.length
  perm : (slice roomList room.firstEdge room.edges).Perm
    (slice edgeList node.firstEdge node.edges)
  fresh : ∀ {slot : ℕ} {entry : DynamicEdge EdgeData}, room.firstEdge ≤ slot →
    slot ≤ room.firstEdge + room.edges → edgeList[slot]? = some entry →
    entry.target ≠ specialNodeId → node.Owns slot
  frame : ∀ {slot : ℕ} {entry : DynamicEdge EdgeData}, edgeList[slot]? = some entry →
    entry.target ≠ specialNodeId → ¬node.Owns slot → roomList[slot]? = some entry

section Insertion

variable {node : DynamicNode} {edgeList : List (DynamicEdge EdgeData)}

theorem exists_of_isDummy {slot : ℕ} (dummy : isDummy edgeList slot = true) :
    ∃ entry, edgeList[slot]? = some entry ∧ entry.target = specialNodeId := by
  rw [isDummy, Option.any_eq_true] at dummy
  obtain ⟨entry, found, special⟩ := dummy
  exact ⟨entry, found, beq_iff_eq.mp special⟩

/-- A free slot right behind the run is taken as it is. -/
theorem room_behind (dummy : isDummy edgeList (node.edges + node.firstEdge) = true) :
    Room node edgeList node edgeList := by
  obtain ⟨free, found, special⟩ := exists_of_isDummy dummy
  have inside := (List.getElem?_eq_some_iff.mp found).1
  refine ⟨rfl, by omega, List.Perm.refl _, ?_, fun found' _ _ => found'⟩
  intro slot entry low high found' real
  rcases Nat.lt_or_eq_of_le high with before | rfl
  case inl => exact ⟨low, before⟩
  case inr =>
    rw [Nat.add_comm, found'] at found
    obtain rfl := Option.some.inj found
    exact absurd special real

/-- A free slot right before the run takes the last edge of the run. -/
theorem room_before (bounded : ∀ {slot : ℕ}, node.Owns slot → slot < edgeList.length)
    (positive : node.firstEdge ≠ 0) (dummy : isDummy edgeList (node.firstEdge - 1) = true) :
    Room node edgeList ⟨node.firstEdge - 1, node.edges⟩
      (copyEntry edgeList (node.firstEdge - 1) (node.firstEdge - 1 + node.edges)) := by
  obtain ⟨free, found, special⟩ := exists_of_isDummy dummy
  have inside := (List.getElem?_eq_some_iff.mp found).1
  obtain ⟨firstEdge, edges⟩ := node
  dsimp only at *
  have last_inside : firstEdge - 1 + edges < edgeList.length := by
    rcases Nat.eq_zero_or_pos edges with rfl | some
    case inl => omega
    case inr => exact bounded ⟨by dsimp only; omega, by dsimp only; omega⟩
  refine ⟨rfl, by rwa [length_copyEntry], ?_, ?_, ?_⟩
  case refine_1 =>
    cases edges with
    | zero => rw [slice_zero, slice_zero]
    | succ count =>
        have shift : firstEdge - 1 + (count + 1) = firstEdge + count := by omega
        rw [shift] at last_inside ⊢
        have last := List.getElem?_eq_getElem last_inside
        rw [slice_succ last, slice_cons (getElem?_copyEntry_self inside last)]
        have rest : slice (copyEntry edgeList (firstEdge - 1) (firstEdge + count))
            (firstEdge - 1 + 1) count = slice edgeList firstEdge count := by
          rw [Nat.sub_add_cancel (Nat.pos_of_ne_zero positive)]
          exact slice_congr fun index _ => getElem?_copyEntry_ne (by omega)
        rw [rest]
        exact (List.perm_append_singleton _ _).symm
  case refine_2 =>
    intro slot entry low high found' real
    dsimp only at low high
    rcases Nat.lt_or_eq_of_le low with after | rfl
    case inl => exact ⟨by dsimp only; omega, by dsimp only; omega⟩
    case inr =>
      rw [found'] at found
      obtain rfl := Option.some.inj found
      exact absurd special real
  case refine_3 =>
    intro slot entry found' real _
    rw [getElem?_copyEntry_ne, found']
    rintro rfl
    rw [found'] at found
    obtain rfl := Option.some.inj found
    exact real special

theorem length_moveEdges (firstEdge newFirstEdge count : ℕ) :
    (moveEdges firstEdge newFirstEdge count edgeList).length = edgeList.length := by
  induction count with
  | zero => rfl
  | succ index ih => rw [moveEdges, length_makeDummy, length_copyEntry, ih]

/-- The loop writes the slots of the old run and of the new one. -/
theorem getElem?_moveEdges_ne {firstEdge newFirstEdge count slot : ℕ}
    (old : ¬(firstEdge ≤ slot ∧ slot < firstEdge + count))
    (new : ¬(newFirstEdge ≤ slot ∧ slot < newFirstEdge + count)) :
    (moveEdges firstEdge newFirstEdge count edgeList)[slot]? = edgeList[slot]? := by
  induction count with
  | zero => rfl
  | succ index ih =>
      rw [moveEdges, getElem?_makeDummy_ne (by omega), getElem?_copyEntry_ne (by omega)]
      exact ih (by omega) (by omega)

theorem getElem?_moveEdges {firstEdge newFirstEdge count index : ℕ}
    (apart : firstEdge + count ≤ newFirstEdge)
    (inside : newFirstEdge + count ≤ edgeList.length) (small : index < count) :
    (moveEdges firstEdge newFirstEdge count edgeList)[newFirstEdge + index]? =
      edgeList[firstEdge + index]? := by
  induction count with
  | zero => exact absurd small (Nat.not_lt_zero index)
  | succ last ih =>
      rw [moveEdges, getElem?_makeDummy_ne (by omega)]
      by_cases here : index = last
      case pos =>
        subst here
        have source : (moveEdges firstEdge newFirstEdge index edgeList)[firstEdge + index]? =
            some edgeList[firstEdge + index] := by
          rw [getElem?_moveEdges_ne (by omega) (by omega), List.getElem?_eq_getElem]
        rw [getElem?_copyEntry_self (by rw [length_moveEdges]; omega) source,
          List.getElem?_eq_getElem]
      case neg =>
        rw [getElem?_copyEntry_ne (by omega)]
        exact ih (by omega) (by omega) (by omega)

/-- Otherwise the run moves to the end of the list, which grows by more than one slot. -/
theorem room_moved [Inhabited EdgeData]
    (bounded : ∀ {slot : ℕ}, node.Owns slot → slot < edgeList.length) {newSize : ℕ}
    (large : node.edges + 2 ≤ newSize) :
    Room node edgeList ⟨edgeList.length, node.edges⟩
      ((List.range' (edgeList.length + (node.edges + 1)) (newSize - (node.edges + 1))).foldl
        makeDummy (moveEdges node.firstEdge edgeList.length node.edges
          (edgeList ++ List.replicate newSize ⟨0, default⟩))) := by
  obtain ⟨firstEdge, edges⟩ := node
  dsimp only at *
  have length : (edgeList ++ List.replicate newSize (⟨0, default⟩ : DynamicEdge EdgeData)).length =
      edgeList.length + newSize := by
    rw [List.length_append, List.length_replicate]
  have before : edges ≠ 0 → firstEdge + edges ≤ edgeList.length := by
    intro some
    have owns : (⟨firstEdge, edges⟩ : DynamicNode).Owns (firstEdge + (edges - 1)) :=
      ⟨by dsimp only; omega, by dsimp only; omega⟩
    have last := bounded owns
    omega
  refine ⟨rfl, ?_, ?_, ?_, ?_⟩
  case refine_1 =>
    rw [length_makeDummies, length_moveEdges, length]
    dsimp only
    omega
  case refine_2 =>
    dsimp only
    rw [slice_congr fun index small => ?_]
    have apart := before (by omega)
    rw [getElem?_makeDummies_not_mem, getElem?_moveEdges apart (by omega) small,
      List.getElem?_append_left (by omega)]
    rw [List.mem_range'_1]
    omega
  case refine_3 =>
    intro slot entry low _ found _
    have inside := (List.getElem?_eq_some_iff.mp found).1
    dsimp only at low
    omega
  case refine_4 =>
    intro slot entry found _ other
    have inside := (List.getElem?_eq_some_iff.mp found).1
    rw [getElem?_makeDummies_not_mem, getElem?_moveEdges_ne other (by omega),
      List.getElem?_append_left inside, found]
    rw [List.mem_range'_1]
    omega

theorem makeRoom_room [Inhabited EdgeData]
    (bounded : ∀ {slot : ℕ}, node.Owns slot → slot < edgeList.length) :
    Room node edgeList (makeRoom node edgeList).1 (makeRoom node edgeList).2 := by
  rw [makeRoom]
  split
  case isTrue full =>
    split
    case isTrue free =>
      rw [Bool.and_eq_true, bne_iff_ne] at free
      exact room_before bounded free.1 free.2
    case isFalse => exact room_moved bounded (by omega)
  case isFalse free =>
    rw [Bool.or_eq_true, not_or, Bool.not_eq_true', Bool.not_eq_false] at free
    exact room_behind free.2

end Insertion

section Operations

variable {graph : DynamicGraph EdgeData} {source other target edge : ℕ} {data : EdgeData}

/-- What is owned is adjacent. -/
theorem mem_adjacent {entry : DynamicEdge EdgeData} :
    entry ∈ graph.adjacent source ↔
      ∃ slot, (graph.node source).Owns slot ∧ graph.edgeList[slot]? = some entry := by
  rw [adjacent, mem_slice]
  constructor
  · rintro ⟨slot, low, high, found⟩
    exact ⟨slot, ⟨low, high⟩, found⟩
  · rintro ⟨slot, owns, found⟩
    exact ⟨slot, owns.1, owns.2, found⟩

theorem WellFormed.target_ne (well : graph.WellFormed) {entry : DynamicEdge EdgeData}
    (adjacent : entry ∈ graph.adjacent source) : entry.target ≠ specialNodeId := by
  obtain ⟨slot, owns, found⟩ := mem_adjacent.mp adjacent
  obtain ⟨same, found', real⟩ := well.filled owns
  rw [found] at found'
  obtain rfl := Option.some.inj found'
  exact real

theorem WellFormed.bounded (well : graph.WellFormed) {slot : ℕ}
    (owns : (graph.node source).Owns slot) : slot < graph.edgeList.length := by
  obtain ⟨entry, found, _⟩ := well.filled owns
  exact (List.getElem?_eq_some_iff.mp found).1

theorem WellFormed.length_adjacent (well : graph.WellFormed) (source : ℕ) :
    (graph.adjacent source).length = (graph.node source).edges := by
  rw [adjacent, slice, List.length_take, List.length_drop]
  cases count : (graph.node source).edges with
  | zero => exact Nat.zero_min _
  | succ before =>
      have owns : (graph.node source).Owns ((graph.node source).firstEdge + before) :=
        ⟨Nat.le_add_right _ _, by omega⟩
      have last := well.bounded owns
      omega

/-- No node has more edges than the graph. -/
theorem WellFormed.edges_le (well : graph.WellFormed)
    (inside : source < graph.getNumberOfNodes) :
    (graph.node source).edges ≤ graph.numberOfEdges := by
  rw [well.counted, DynamicGraph.node, List.getElem?_eq_getElem inside, Option.getD_some]
  exact List.single_le_sum (fun _ _ => Nat.zero_le _) _
    (List.mem_map_of_mem (List.getElem_mem inside))

theorem adjacent_of_le (outside : graph.getNumberOfNodes ≤ source) :
    graph.adjacent source = [] := by
  rw [adjacent, DynamicGraph.node, List.getElem?_eq_none outside, Option.getD_none, slice_zero]

theorem Room.rewrites {room : DynamicNode} {roomList : List (DynamicEdge EdgeData)}
    (made : Room (graph.node source) graph.edgeList room roomList) (well : graph.WellFormed)
    (real : target ≠ specialNodeId) :
    graph.Rewrites source ⟨room.firstEdge, room.edges + 1⟩
      (roomList.set (room.firstEdge + room.edges) ⟨target, data⟩) := by
  refine ⟨?_, ?_, ?_⟩
  case refine_1 =>
    intro slot owns
    obtain ⟨low, high⟩ := owns
    dsimp only at low high
    by_cases new : room.firstEdge + room.edges = slot
    case pos =>
      subst new
      exact ⟨_, List.getElem?_set_self made.inside, real⟩
    case neg =>
      have inside : slot < roomList.length := by
        have := made.inside
        omega
      have member : roomList[slot] ∈ slice roomList room.firstEdge room.edges :=
        mem_slice.mpr ⟨slot, low, by omega, List.getElem?_eq_getElem inside⟩
      refine ⟨roomList[slot], ?_, ?_⟩
      · rw [List.getElem?_set_ne new, List.getElem?_eq_getElem]
      · exact well.target_ne (made.perm.mem_iff.mp member)
  case refine_2 =>
    intro slot entry owns found occupied
    exact made.fresh owns.1 (Nat.le_of_lt_succ owns.2) found occupied
  case refine_3 =>
    intro slot entry found occupied others
    rw [List.getElem?_set_ne, made.frame found occupied others]
    rintro rfl
    exact others (made.fresh (Nat.le_add_right _ _) (Nat.le_refl _) found occupied)

section Insertion

variable [Inhabited EdgeData]

theorem WellFormed.room (well : graph.WellFormed) (source : ℕ) :
    Room (graph.node source) graph.edgeList (makeRoom (graph.node source) graph.edgeList).1
      (makeRoom (graph.node source) graph.edgeList).2 :=
  makeRoom_room well.bounded

theorem WellFormed.insertEdge (well : graph.WellFormed)
    (inside : source < graph.getNumberOfNodes) (real : target ≠ specialNodeId) :
    (graph.insertEdge source target data).1.WellFormed := by
  refine ((well.room source).rewrites well real).wellFormed well inside ?_
  dsimp only
  rw [(well.room source).edges]
  omega

/-- The new edge joins the edges of its source. -/
theorem adjacent_insertEdge_self (well : graph.WellFormed)
    (inside : source < graph.getNumberOfNodes) :
    ((graph.insertEdge source target data).1.adjacent source).Perm
      (⟨target, data⟩ :: graph.adjacent source) := by
  have made := well.room source
  rw [DynamicGraph.insertEdge, adjacent, node_set_self inside]
  dsimp only
  rw [slice_succ (List.getElem?_set_self made.inside),
    slice_congr fun index small => List.getElem?_set_ne (by omega)]
  exact (made.perm.append_right _).trans (List.perm_append_singleton _ _)

theorem adjacent_insertEdge_ne (well : graph.WellFormed) (real : target ≠ specialNodeId)
    (ne : other ≠ source) :
    (graph.insertEdge source target data).1.adjacent other = graph.adjacent other :=
  ((well.room source).rewrites well real).adjacent_ne well ne

theorem getNumberOfNodes_insertEdge :
    (graph.insertEdge source target data).1.getNumberOfNodes = graph.getNumberOfNodes :=
  List.length_set

end Insertion

/-! ### Deletion -/

theorem length_deleteLoop (left index : ℕ) (edgeList : List (DynamicEdge EdgeData)) :
    (deleteLoop target left edgeList index).1.length = edgeList.length := by
  induction left generalizing edgeList index with
  | zero => rfl
  | succ left ih =>
      rw [deleteLoop]
      split
      case isTrue => rw [ih, length_makeDummy, length_copyEntry]
      case isFalse => exact ih _ _

theorem getElem?_deleteLoop_ne {left index slot : ℕ} {edgeList : List (DynamicEdge EdgeData)}
    (other : ¬(index ≤ slot ∧ slot < index + left)) :
    (deleteLoop target left edgeList index).1[slot]? = edgeList[slot]? := by
  induction left generalizing edgeList index with
  | zero => rfl
  | succ left ih =>
      rw [deleteLoop]
      split
      case isTrue =>
        dsimp only
        rw [ih (by omega), getElem?_makeDummy_ne (by omega), getElem?_copyEntry_ne (by omega)]
      case isFalse => exact ih (by omega)

/-- The slots that remain hold the edges to other targets. -/
theorem perm_deleteLoop (target left index : ℕ) {edgeList : List (DynamicEdge EdgeData)}
    (bounded : ∀ {slot : ℕ}, index ≤ slot → slot < index + left → slot < edgeList.length) :
    (deleteLoop target left edgeList index).2 ≤ left ∧
      (slice (deleteLoop target left edgeList index).1 index
        (left - (deleteLoop target left edgeList index).2)).Perm
        ((slice edgeList index left).filter fun entry => entry.target != target) := by
  induction left generalizing edgeList index with
  | zero =>
      rw [slice_zero]
      exact ⟨Nat.le_refl 0, List.Perm.refl _⟩
  | succ left ih =>
      have inside := bounded (Nat.le_refl index) (by omega)
      have found := List.getElem?_eq_getElem inside
      rw [deleteLoop, found, Option.any_some]
      split
      case isTrue same =>
        have swapped := perm_swap_last (Nat.le_refl index) (Nat.le_add_right index left)
          (bounded (Nat.le_add_right index left) (by omega)) found
        have bounded' : ∀ {slot : ℕ}, index ≤ slot → slot < index + left →
            slot < (makeDummy (copyEntry edgeList index (index + left)) (index + left)).length := by
          intro slot low high
          rw [length_makeDummy, length_copyEntry]
          exact bounded low (by omega)
        obtain ⟨le, perm⟩ := ih index bounded'
        refine ⟨Nat.succ_le_succ le, ?_⟩
        dsimp only
        rw [Nat.add_sub_add_right]
        refine perm.trans ?_
        have filtered := swapped.filter fun entry => entry.target != target
        rwa [List.filter_cons_of_neg (by rw [bne, same]; exact Bool.false_ne_true)] at filtered
      case isFalse differs =>
        have bounded' : ∀ {slot : ℕ}, index + 1 ≤ slot → slot < index + 1 + left →
            slot < edgeList.length := fun low high => bounded (by omega) (by omega)
        obtain ⟨le, perm⟩ := ih (index + 1) bounded'
        refine ⟨Nat.le_succ_of_le le, ?_⟩
        rw [Nat.succ_sub le, slice_cons found, List.filter_cons_of_pos
          (by rw [bne, Bool.not_eq_true']; exact Bool.eq_false_iff.mpr differs),
          slice_cons (getElem?_deleteLoop_ne (by omega) |>.trans found)]
        exact perm.cons _

/-- A deletion rewrites the edges of its source. -/
theorem rewrites_of_shrinks {edgeList : List (DynamicEdge EdgeData)} {count : ℕ}
    (well : graph.WellFormed) (length : edgeList.length = graph.edgeList.length)
    (le : count ≤ (graph.node source).edges)
    (kept : ∀ entry ∈ slice edgeList (graph.node source).firstEdge count,
      entry ∈ graph.adjacent source)
    (frame : ∀ {slot : ℕ}, ¬(graph.node source).Owns slot →
      edgeList[slot]? = graph.edgeList[slot]?) :
    graph.Rewrites source ⟨(graph.node source).firstEdge, count⟩ edgeList := by
  refine ⟨?_, fun owns _ _ => ⟨owns.1, Nat.lt_of_lt_of_le owns.2 (Nat.add_le_add_left le _)⟩, ?_⟩
  case refine_1 =>
    intro slot owns
    have inside : slot < edgeList.length := by
      rw [length]
      have before : (graph.node source).Owns slot :=
        ⟨owns.1, Nat.lt_of_lt_of_le owns.2 (Nat.add_le_add_left le _)⟩
      exact well.bounded before
    have found := List.getElem?_eq_getElem inside
    exact ⟨_, found, well.target_ne (kept _ (mem_slice.mpr ⟨slot, owns.1, owns.2, found⟩))⟩
  case refine_2 =>
    intro slot entry found _ others
    rw [frame others, found]

theorem WellFormed.rewrites_deleteEdgesTo (well : graph.WellFormed) :
    graph.Rewrites source
      ⟨(graph.node source).firstEdge, (graph.node source).edges -
        (deleteLoop target (graph.node source).edges graph.edgeList
          (graph.node source).firstEdge).2⟩
      (deleteLoop target (graph.node source).edges graph.edgeList
        (graph.node source).firstEdge).1 := by
  obtain ⟨_, perm⟩ := perm_deleteLoop target (graph.node source).edges
    (graph.node source).firstEdge fun low high => well.bounded ⟨low, high⟩
  refine rewrites_of_shrinks well (length_deleteLoop _ _ _) (Nat.sub_le _ _) ?_
    getElem?_deleteLoop_ne
  intro entry member
  exact (List.mem_filter.mp (perm.mem_iff.mp member)).1

theorem WellFormed.deleteEdgesTo (well : graph.WellFormed) (target : ℕ)
    (inside : source < graph.getNumberOfNodes) :
    (graph.deleteEdgesTo source target).1.WellFormed := by
  obtain ⟨le, _⟩ := perm_deleteLoop target (graph.node source).edges
    (graph.node source).firstEdge fun low high => well.bounded ⟨low, high⟩
  refine well.rewrites_deleteEdgesTo.wellFormed well inside ?_
  have counted := well.edges_le inside
  dsimp only
  omega

/-- All edges to the target go, the others stay. -/
theorem adjacent_deleteEdgesTo_self (well : graph.WellFormed)
    (inside : source < graph.getNumberOfNodes) :
    ((graph.deleteEdgesTo source target).1.adjacent source).Perm
      ((graph.adjacent source).filter fun entry => entry.target != target) := by
  rw [DynamicGraph.deleteEdgesTo, adjacent, node_set_self inside]
  exact (perm_deleteLoop _ _ _ fun low high => well.bounded ⟨low, high⟩).2

theorem adjacent_deleteEdgesTo_ne (well : graph.WellFormed) (ne : other ≠ source) :
    (graph.deleteEdgesTo source target).1.adjacent other = graph.adjacent other :=
  well.rewrites_deleteEdgesTo.adjacent_ne well ne

theorem getNumberOfNodes_deleteEdgesTo :
    (graph.deleteEdgesTo source target).1.getNumberOfNodes = graph.getNumberOfNodes :=
  List.length_set

/-- The number that is returned. -/
theorem deleteEdgesTo_snd (well : graph.WellFormed) (inside : source < graph.getNumberOfNodes) :
    (graph.deleteEdgesTo source target).2 =
      (graph.adjacent source).countP fun entry => entry.target == target := by
  obtain ⟨le, _⟩ := perm_deleteLoop target (graph.node source).edges
    (graph.node source).firstEdge fun low high => well.bounded ⟨low, high⟩
  have before := well.length_adjacent source
  have after := (well.deleteEdgesTo target inside).length_adjacent source
  rw [(adjacent_deleteEdgesTo_self well inside).length_eq, ← List.countP_eq_length_filter,
    DynamicGraph.deleteEdgesTo, node_set_self inside] at after
  have split := List.length_eq_countP_add_countP (fun entry => entry.target == target)
    (l := graph.adjacent source)
  have others : (graph.adjacent source).countP (fun entry => entry.target != target) =
      (graph.adjacent source).countP fun entry => ¬(entry.target == target) :=
    List.countP_congr fun entry _ => by simp
  dsimp only at after
  rw [DynamicGraph.deleteEdgesTo]
  dsimp only
  omega

/-- One edge, and no more, goes. -/
theorem adjacent_deleteEdge_self (well : graph.WellFormed) {entry : DynamicEdge EdgeData}
    (owns : (graph.node source).Owns edge) (found : graph.edgeList[edge]? = some entry) :
    (entry :: (graph.deleteEdge source edge).adjacent source).Perm (graph.adjacent source) := by
  have low := owns.1
  have high := owns.2
  rw [DynamicGraph.deleteEdge, adjacent, node_set_self (lt_of_owns owns), adjacent]
  dsimp only
  have last : (graph.node source).Owns
      ((graph.node source).firstEdge + ((graph.node source).edges - 1)) :=
    ⟨by omega, by omega⟩
  refine (perm_swap_last low (by omega) (well.bounded last) found).trans ?_
  · rw [Nat.sub_add_cancel (by omega)]

theorem WellFormed.rewrites_deleteEdge (well : graph.WellFormed)
    (owns : (graph.node source).Owns edge) :
    graph.Rewrites source ⟨(graph.node source).firstEdge, (graph.node source).edges - 1⟩
      (graph.deleteEdge source edge).edgeList := by
  obtain ⟨entry, found, _⟩ := well.filled owns
  have perm := adjacent_deleteEdge_self well owns found
  have low := owns.1
  have high := owns.2
  rw [adjacent, DynamicGraph.deleteEdge, node_set_self (lt_of_owns owns)] at perm
  refine rewrites_of_shrinks well ?_ (Nat.sub_le _ _) ?_ ?_
  case refine_1 => exact length_makeDummy.trans length_copyEntry
  case refine_2 =>
    intro entry' member
    exact perm.mem_iff.mp (List.mem_cons_of_mem _ member)
  case refine_3 =>
    intro slot others
    rw [DynamicNode.Owns] at others
    exact (getElem?_makeDummy_ne (by omega)).trans (getElem?_copyEntry_ne (by omega))

theorem WellFormed.deleteEdge (well : graph.WellFormed) (owns : (graph.node source).Owns edge) :
    (graph.deleteEdge source edge).WellFormed := by
  refine (well.rewrites_deleteEdge owns).wellFormed well (lt_of_owns owns) ?_
  have counted := well.edges_le (lt_of_owns owns)
  have low := owns.1
  have high := owns.2
  dsimp only
  omega

theorem adjacent_deleteEdge_ne (well : graph.WellFormed) (owns : (graph.node source).Owns edge)
    (ne : other ≠ source) :
    (graph.deleteEdge source edge).adjacent other = graph.adjacent other :=
  (well.rewrites_deleteEdge owns).adjacent_ne well ne

/-! ### Reading and writing the data -/

theorem getElem?_setEdgeData_self {entry : DynamicEdge EdgeData}
    (found : graph.edgeList[edge]? = some entry) :
    (graph.setEdgeData edge data).edgeList[edge]? = some ⟨entry.target, data⟩ := by
  rw [setEdgeData, List.getElem?_modify_eq, found]
  rfl

theorem getElem?_setEdgeData_ne {slot : ℕ} (ne : slot ≠ edge) :
    (graph.setEdgeData edge data).edgeList[slot]? = graph.edgeList[slot]? :=
  List.getElem?_modify_ne _ _ (Ne.symm ne)

theorem WellFormed.setEdgeData (well : graph.WellFormed) :
    (graph.setEdgeData edge data).WellFormed := by
  refine ⟨?_, well.disjoint, well.counted⟩
  intro id slot owns
  obtain ⟨entry, found, real⟩ := well.filled owns
  by_cases same : slot = edge
  case pos =>
    subst same
    exact ⟨_, getElem?_setEdgeData_self found, real⟩
  case neg => exact ⟨entry, (getElem?_setEdgeData_ne same).trans found, real⟩

theorem adjacent_setEdgeData_self {entry : DynamicEdge EdgeData}
    (owns : (graph.node source).Owns edge) (found : graph.edgeList[edge]? = some entry) :
    (graph.setEdgeData edge data).adjacent source =
      (graph.adjacent source).set (edge - (graph.node source).firstEdge) ⟨entry.target, data⟩ := by
  refine List.ext_getElem? fun index => ?_
  have low := owns.1
  rw [List.getElem?_set, adjacent, adjacent, getElem?_slice, getElem?_slice]
  change (if index < (graph.node source).edges then
    (graph.setEdgeData edge data).edgeList[(graph.node source).firstEdge + index]? else none) = _
  by_cases here : edge - (graph.node source).firstEdge = index
  case pos =>
    subst here
    have inside : edge - (graph.node source).firstEdge < (graph.node source).edges := by
      have high := owns.2
      omega
    have length : edge - (graph.node source).firstEdge <
        (slice graph.edgeList (graph.node source).firstEdge (graph.node source).edges).length := by
      refine (List.getElem?_eq_some_iff (a := entry)).mp ?_ |>.1
      rw [getElem?_slice, if_pos inside, Nat.add_sub_cancel' low, found]
    rw [if_pos inside, if_pos rfl, if_pos length, Nat.add_sub_cancel' low,
      getElem?_setEdgeData_self found]
  case neg => rw [if_neg here, getElem?_setEdgeData_ne (by omega)]

theorem perm_setEdgeData_self (data : EdgeData) {entry : DynamicEdge EdgeData}
    (owns : (graph.node source).Owns edge) (found : graph.edgeList[edge]? = some entry) :
    (entry :: (graph.setEdgeData edge data).adjacent source).Perm
      (⟨entry.target, data⟩ :: graph.adjacent source) := by
  have low := owns.1
  have high := owns.2
  have stored : (graph.adjacent source)[edge - (graph.node source).firstEdge]? = some entry := by
    rw [adjacent, getElem?_slice, if_pos (by omega), Nat.add_sub_cancel' low, found]
  obtain ⟨inside, rfl⟩ := List.getElem?_eq_some_iff.mp stored
  rw [adjacent_setEdgeData_self owns found]
  refine ((List.set_perm_cons_eraseIdx inside _).cons _).trans ((List.Perm.swap _ _ _).trans ?_)
  exact (List.getElem_cons_eraseIdx_perm inside).cons _

theorem adjacent_setEdgeData_ne (well : graph.WellFormed) (owns : (graph.node source).Owns edge)
    (ne : other ≠ source) :
    (graph.setEdgeData edge data).adjacent other = graph.adjacent other := by
  refine slice_congr fun index small => getElem?_setEdgeData_ne ?_
  intro same
  have also : (graph.node other).Owns edge := by
    rw [← same]
    exact ⟨Nat.le_add_right _ _, Nat.add_lt_add_left small _⟩
  exact ne (well.disjoint also owns)

/-- The edge that is found is one of the source's, to the target. -/
theorem findEdge_eq_some (found : graph.findEdge source target = some edge) :
    (graph.node source).Owns edge ∧
      ∃ entry, graph.edgeList[edge]? = some entry ∧ entry.target = target := by
  have member := List.mem_of_find?_eq_some found
  have matched := List.find?_some found
  rw [List.mem_range'_1] at member
  rw [Option.any_eq_true] at matched
  obtain ⟨entry, stored, same⟩ := matched
  exact ⟨member, entry, stored, (beq_iff_eq.mp same).symm⟩

end Operations

/-! ## The constructor -/

section Construction

variable {nodes : ℕ} {edges : List (InputEdge EdgeData)}

theorem fillNodes_eq (sorted : SortedBy InputEdge.source edges) (start count : ℕ) :
    fillNodes (List.range' start count) (below InputEdge.source edges start)
      (edges.drop (below InputEdge.source edges start)) =
      (List.range' start count).map fun id =>
        ⟨below InputEdge.source edges id, (ofKey InputEdge.source edges id).length⟩ := by
  induction count generalizing start with
  | zero => rfl
  | succ count ih =>
      rw [List.range'_succ, fillNodes, List.map_cons, sorted.takeWhile, List.drop_drop,
        ← below_succ, ih]

theorem nodeArray_ofEdges (sorted : SortedBy InputEdge.source edges) :
    (ofEdges nodes edges).nodeArray = (List.range nodes).map fun id =>
      ⟨below InputEdge.source edges id, (ofKey InputEdge.source edges id).length⟩ := by
  have filled := fillNodes_eq sorted 0 nodes
  rwa [below_zero, List.drop_zero, ← List.range_eq_range'] at filled

theorem getNumberOfNodes_ofEdges (sorted : SortedBy InputEdge.source edges) :
    (ofEdges nodes edges).getNumberOfNodes = nodes := by
  rw [getNumberOfNodes, nodeArray_ofEdges sorted, List.length_map, List.length_range]

theorem sum_edges_eq_below (edges : List (InputEdge EdgeData)) (nodes : ℕ) :
    ((List.range nodes).map fun id => (ofKey InputEdge.source edges id).length).sum =
      below InputEdge.source edges nodes := by
  induction nodes with
  | zero => exact (below_zero edges).symm
  | succ count ih =>
      rw [List.range_succ, List.map_append, List.sum_append, ih, List.map_singleton,
        List.sum_singleton, below_succ]

theorem node_ofEdges (sorted : SortedBy InputEdge.source edges) {id : ℕ} (inside : id < nodes) :
    (ofEdges nodes edges).node id =
      ⟨below InputEdge.source edges id, (ofKey InputEdge.source edges id).length⟩ := by
  rw [node, nodeArray_ofEdges sorted, List.getElem?_map, List.getElem?_range inside]
  rfl

theorem edgeList_ofEdges (sorted : SortedBy InputEdge.source edges)
    (bounded : ∀ edge ∈ edges, edge.source < nodes) :
    (ofEdges nodes edges).edgeList = edges.map InputEdge.entry := by
  have total : ((ofEdges nodes edges).nodeArray.map DynamicNode.edges).sum = edges.length := by
    rw [nodeArray_ofEdges sorted, List.map_map, ← below_eq_self bounded]
    exact sum_edges_eq_below edges nodes
  change (edges.take ((ofEdges nodes edges).nodeArray.map DynamicNode.edges).sum).map
    InputEdge.entry = _
  rw [total, List.take_length]

/-- The edges of a node are those with it as their source, in their order. -/
theorem adjacent_ofEdges (sorted : SortedBy InputEdge.source edges)
    (bounded : ∀ edge ∈ edges, edge.source < nodes) {id : ℕ} (inside : id < nodes) :
    (ofEdges nodes edges).adjacent id =
      (ofKey InputEdge.source edges id).map InputEdge.entry := by
  rw [adjacent, node_ofEdges sorted inside, edgeList_ofEdges sorted bounded, slice,
    ← List.map_drop, ← List.map_take]
  exact congrArg (List.map InputEdge.entry) (sorted.slice id)

theorem wellFormed_ofEdges (sorted : SortedBy InputEdge.source edges)
    (bounded : ∀ edge ∈ edges, edge.source < nodes)
    (real : ∀ edge ∈ edges, edge.target ≠ specialNodeId) : (ofEdges nodes edges).WellFormed := by
  have end_eq : ∀ {id : ℕ}, below InputEdge.source edges id +
      (ofKey InputEdge.source edges id).length = below InputEdge.source edges (id + 1) :=
    (below_succ edges _).symm
  refine ⟨?_, ?_, ?_⟩
  case refine_1 =>
    intro id slot owns
    have inside := lt_of_owns owns
    rw [getNumberOfNodes_ofEdges sorted] at inside
    have member : slot < edges.length := by
      have high := owns.2
      rw [node_ofEdges sorted inside] at high
      have le := below_mono InputEdge.source edges (show id + 1 ≤ nodes from inside)
      rw [below_eq_self bounded] at le
      dsimp only at high
      rw [end_eq] at high
      omega
    refine ⟨edges[slot].entry, ?_, real _ (List.getElem_mem member)⟩
    rw [edgeList_ofEdges sorted bounded, List.getElem?_map, List.getElem?_eq_getElem member]
    rfl
  case refine_2 =>
    intro first second slot owns also
    have inside := lt_of_owns owns
    have inside' := lt_of_owns also
    rw [getNumberOfNodes_ofEdges sorted] at inside inside'
    have low := owns.1
    have high := owns.2
    have low' := also.1
    have high' := also.2
    rw [node_ofEdges sorted inside] at low high
    rw [node_ofEdges sorted inside'] at low' high'
    dsimp only at low high low' high'
    rw [end_eq] at high high'
    rcases Nat.lt_trichotomy first second with less | same | more
    case inl =>
      have le := below_mono InputEdge.source edges (show first + 1 ≤ second from less)
      omega
    case inr.inl => exact same
    case inr.inr =>
      have le := below_mono InputEdge.source edges (show second + 1 ≤ first from more)
      omega
  case refine_3 =>
    rw [nodeArray_ofEdges sorted, List.map_map]
    exact (below_eq_self bounded).symm.trans (sum_edges_eq_below edges nodes).symm

end Construction

end DynamicGraph

end Proximity.Routing
