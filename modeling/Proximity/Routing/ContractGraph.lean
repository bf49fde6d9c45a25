import Mathlib.Data.List.Dedup
import Mathlib.Data.List.Forall2
import Mathlib.Data.List.Induction
import Proximity.Routing.ContractNode

/-!
# The rounds of the contraction

`contractGraph` contracts, round by round, nodes that are independent of each other: it inserts
their shortcuts and deletes the edges that lead to them.  The priorities, the node weights that
the simulations leave, the distribution over the threads and the orders of the parallel loops are
not fixed here: a round may take any.
-/

namespace Proximity.Routing

open Proximity.Systems

/-! ## Deletion -/

/-- The neighbours of a node, sorted and without duplicates. -/
def neighbours (graph : ContractorGraph) (node : ℕ) : List ℕ :=
  (((graph.adjacent node).map DynamicEdge.target).filter (· != node)).mergeSort.dedup

def deleteIncomingEdges (graph : ContractorGraph) (node : ℕ) : ContractorGraph :=
  (neighbours graph node).foldl (fun graph neighbour => (graph.deleteEdgesTo neighbour node).1)
    graph

/-! ## Insertion -/

/-- An inserted edge updates a shortcut with the same flags, or becomes an edge of its own. -/
def insertShortcut (graph : ContractorGraph) (edge : ContractorEdge) : ContractorGraph :=
  match graph.findEdge edge.source edge.target with
  | none => (graph.insertEdge edge.source edge.target edge.data).1
  | some current =>
      if graph.edgeList[current]?.any fun entry => entry.data.shortcut &&
          edge.data.forward == entry.data.forward && edge.data.backward == entry.data.backward then
        if graph.edgeList[current]?.any fun entry => decide (edge.data.weight < entry.data.weight)
        then graph.setEdgeData current edge.data
        else graph
      else (graph.insertEdge edge.source edge.target edge.data).1

/-! ## Independence -/

/-- `Bias`, with the hash as it is. -/
def bias (hash : ℕ → ℕ) (first second : ℕ) : Bool :=
  if hash first != hash second then decide (hash first < hash second) else decide (first < second)

/-- What the comparison of two nodes needs: `close` is that the difference of the priorities is
less than the epsilon of a float. -/
structure Ranking (Priority : Type) where
  close : Priority → Priority → Bool
  hash : ℕ → ℕ
  newToOldNodeId : ℕ → ℕ
  priorities : ℕ → Priority
  close_self : ∀ priority, close priority priority = true
  injective : Function.Injective newToOldNodeId

section Independence

variable {Priority : Type} [LinearOrder Priority]

/-- The other node has a lower priority, or wins the tie. -/
def Ranking.beats (ranking : Ranking Priority) (node target : ℕ) : Bool :=
  decide (ranking.priorities target < ranking.priorities node) ||
    (ranking.close (ranking.priorities node) (ranking.priorities target) &&
      bias ranking.hash (ranking.newToOldNodeId node) (ranking.newToOldNodeId target))

/-- No node at most two edges away beats the node. -/
def isNodeIndependent (ranking : Ranking Priority) (graph : ContractorGraph) (node : ℕ) : Bool :=
  ((graph.adjacent node).all fun edge => node == edge.target || !ranking.beats node edge.target) &&
    (neighbours graph node).all fun neighbour =>
      (graph.adjacent neighbour).all fun edge =>
        node == edge.target || !ranking.beats node edge.target

end Independence

/-! ## Rounds -/

structure ContractionState where
  graph : ContractorGraph
  isCore : List Bool
  remainingNodes : List ℕ
  deriving DecidableEq, Repr

/-- The node has not been contracted. -/
def ContractionState.Alive (state : ContractionState) (node : ℕ) : Prop :=
  state.isCore[node]? = some true

/-- A thread contracts a node: it has a list of inserted edges of its own. -/
def contractTurn (graph : ContractorGraph) (state : List (List ContractorEdge) × List ℕ)
    (turn : ℕ × ℕ) : Except Undefined (List (List ContractorEdge) × List ℕ) := do
  let contracted ← contractNode graph turn.2 state.2
  .ok (state.1.modify turn.1 (· ++ contracted.insertedEdges), contracted.nodeWeights)

/-- The parallel loop over the independent nodes, one turn after the other. -/
def contractBatch (graph : ContractorGraph) (threads : ℕ) (schedule : List (ℕ × ℕ))
    (nodeWeights : List ℕ) : Except Undefined (List (List ContractorEdge) × List ℕ) :=
  schedule.foldlM (contractTurn graph) (List.replicate threads [], nodeWeights)

/-- What a round does with the batch it has chosen; the deletions come in an order of their own. -/
def ContractionState.contracted (state : ContractionState) (batch deletions : List ℕ)
    (insertedEdges : List (List ContractorEdge)) : ContractionState where
  graph :=
    insertedEdges.flatten.foldl insertShortcut (deletions.foldl deleteIncomingEdges state.graph)
  isCore := batch.foldl (fun core node => core.set node false) state.isCore
  remainingNodes := state.remainingNodes.filter fun node => !batch.contains node

/-- One turn of the loop of `contractGraph`. -/
inductive Round {Priority : Type} [LinearOrder Priority] (ranking : Ranking Priority) :
    ContractionState → ContractionState → Prop where
  | contract (state : ContractionState) {threads : ℕ} {schedule : List (ℕ × ℕ)}
      {deletions nodeWeights leftWeights : List ℕ} {blocks sorted : List (List ContractorEdge)}
      (scheduled : (schedule.map Prod.snd).Perm
        (state.remainingNodes.filter (isNodeIndependent ranking state.graph)))
      (threaded : ∀ turn ∈ schedule, turn.1 < threads)
      (ran : contractBatch state.graph threads schedule nodeWeights = .ok (blocks, leftWeights))
      (deletes : deletions.Perm (schedule.map Prod.snd))
      (sorts : List.Forall₂ (fun block sorted => List.Perm sorted block) blocks sorted) :
      Round ranking state (state.contracted (schedule.map Prod.snd) deletions sorted)

/-! ## What the deletions leave -/

section Deletions

variable {graph : ContractorGraph} {node : ℕ}

/-- Targets are nodes of the graph, and none of them is the node of the dummies. -/
structure Closed (graph : ContractorGraph) : Prop where
  well : graph.WellFormed
  small : graph.getNumberOfNodes ≤ specialNodeId
  inside : ∀ {id : ℕ} {edge : DynamicEdge ContractorEdgeData}, edge ∈ graph.adjacent id →
    edge.target < graph.getNumberOfNodes

theorem mem_neighbours {neighbour : ℕ} : neighbour ∈ neighbours graph node ↔
    neighbour ≠ node ∧ ∃ edge ∈ graph.adjacent node, edge.target = neighbour := by
  rw [neighbours, List.mem_dedup, List.mem_mergeSort, List.mem_filter, List.mem_map, bne_iff_ne,
    and_comm]

/-- The edges to the node go at those sources, and nothing else changes. -/
theorem deleteEdgesTo_foldl (closed : Closed graph) {sources : List ℕ}
    (inside : ∀ source ∈ sources, source < graph.getNumberOfNodes) :
    let after := sources.foldl (fun graph source => (graph.deleteEdgesTo source node).1) graph
    Closed after ∧ after.getNumberOfNodes = graph.getNumberOfNodes ∧
      ∀ {id : ℕ} {edge : DynamicEdge ContractorEdgeData}, edge ∈ after.adjacent id ↔
        edge ∈ graph.adjacent id ∧ ¬(id ∈ sources ∧ edge.target = node) := by
  induction sources generalizing graph with
  | nil =>
      refine ⟨closed, rfl, ?_⟩
      intro id edge
      rw [List.foldl_nil, and_iff_left fun also => absurd also.1 List.not_mem_nil]
  | cons source rest ih =>
      rw [List.forall_mem_cons] at inside
      have mem : ∀ {id : ℕ} {edge : DynamicEdge ContractorEdgeData},
          edge ∈ (graph.deleteEdgesTo source node).1.adjacent id ↔
            edge ∈ graph.adjacent id ∧ ¬(id = source ∧ edge.target = node) := by
        intro id edge
        by_cases same : id = source
        case pos =>
          subst same
          rw [(DynamicGraph.adjacent_deleteEdgesTo_self closed.well inside.1).mem_iff,
            List.mem_filter, bne_iff_ne, and_iff_right rfl]
        case neg =>
          rw [DynamicGraph.adjacent_deleteEdgesTo_ne closed.well same,
            and_iff_left fun also => same also.1]
      have length : (graph.deleteEdgesTo source node).1.getNumberOfNodes =
          graph.getNumberOfNodes := DynamicGraph.getNumberOfNodes_deleteEdgesTo
      have next : Closed (graph.deleteEdgesTo source node).1 := by
        refine ⟨closed.well.deleteEdgesTo node inside.1, by rw [length]; exact closed.small, ?_⟩
        intro id edge member
        rw [length]
        exact closed.inside (mem.mp member).1
      obtain ⟨kept, count, rest_mem⟩ := ih next (by rw [length]; exact inside.2)
      refine ⟨kept, count.trans length, ?_⟩
      intro id edge
      rw [List.foldl_cons, rest_mem, mem, List.mem_cons]
      tauto

theorem deleteIncomingEdges_spec (node : ℕ) (closed : Closed graph) :
    Closed (deleteIncomingEdges graph node) ∧
      (deleteIncomingEdges graph node).getNumberOfNodes = graph.getNumberOfNodes ∧
      ∀ {id : ℕ} {edge : DynamicEdge ContractorEdgeData},
        edge ∈ (deleteIncomingEdges graph node).adjacent id ↔
          edge ∈ graph.adjacent id ∧ ¬(id ∈ neighbours graph node ∧ edge.target = node) := by
  refine deleteEdgesTo_foldl closed ?_
  intro source member
  obtain ⟨_, edge, adjacent, rfl⟩ := mem_neighbours.mp member
  exact closed.inside adjacent

/-- No node of the batch is a neighbour of another one. -/
def Apart (graph : ContractorGraph) (batch : List ℕ) : Prop :=
  ∀ {node other : ℕ}, node ∈ batch → other ∈ batch → other ∉ neighbours graph node

/-- What a batch deletes: the edges from its neighbours to its nodes. -/
theorem deleteBatch_spec (closed : Closed graph) {batch : List ℕ} (apart : Apart graph batch) :
    Closed (batch.foldl deleteIncomingEdges graph) ∧
      (batch.foldl deleteIncomingEdges graph).getNumberOfNodes = graph.getNumberOfNodes ∧
      ∀ {id : ℕ} {edge : DynamicEdge ContractorEdgeData},
        edge ∈ (batch.foldl deleteIncomingEdges graph).adjacent id ↔
          edge ∈ graph.adjacent id ∧
            ¬(edge.target ∈ batch ∧ id ∈ neighbours graph edge.target) := by
  induction batch using List.reverseRecOn with
  | nil =>
      refine ⟨closed, rfl, ?_⟩
      intro id edge
      rw [List.foldl_nil, and_iff_left fun also => absurd also.1 List.not_mem_nil]
  | append_singleton front last ih =>
      have before : Apart graph front := fun member other =>
        apart (List.mem_append_left _ member) (List.mem_append_left _ other)
      obtain ⟨kept, count, mem⟩ := ih before
      obtain ⟨kept', count', mem'⟩ := deleteIncomingEdges_spec last kept
      -- no edge of the last node has been deleted
      have same : ∀ {id : ℕ}, id ∈ neighbours (front.foldl deleteIncomingEdges graph) last ↔
          id ∈ neighbours graph last := by
        intro id
        rw [mem_neighbours, mem_neighbours]
        refine and_congr_right fun _ => exists_congr fun edge => and_congr_left fun _ => ?_
        rw [mem, and_iff_left]
        rintro ⟨member, near⟩
        exact apart (List.mem_append_left _ member)
          (List.mem_append_right _ (List.mem_singleton_self last)) near
      rw [List.foldl_append, List.foldl_cons, List.foldl_nil]
      refine ⟨kept', count'.trans count, ?_⟩
      intro id edge
      rw [mem', mem, same, List.mem_append, List.mem_singleton]
      constructor
      · rintro ⟨⟨member, front_not⟩, last_not⟩
        refine ⟨member, ?_⟩
        rintro ⟨in_front | rfl, near⟩
        · exact front_not ⟨in_front, near⟩
        · exact last_not ⟨near, rfl⟩
      · rintro ⟨member, none⟩
        refine ⟨⟨member, fun also => none ⟨Or.inl also.1, also.2⟩⟩, ?_⟩
        rintro ⟨near, rfl⟩
        exact none ⟨Or.inr rfl, near⟩

end Deletions

/-! ## What the insertions leave -/

section Insertions

variable {graph : ContractorGraph}

/-- An edge that serves for another one: to the same target, with the same flags, and no
heavier. -/
structure Serves (edge other : DynamicEdge ContractorEdgeData) : Prop where
  target : edge.target = other.target
  forward : edge.data.forward = other.data.forward
  backward : edge.data.backward = other.data.backward
  le : edge.data.weight ≤ other.data.weight

theorem Serves.refl (edge : DynamicEdge ContractorEdgeData) : Serves edge edge :=
  ⟨rfl, rfl, rfl, Nat.le_refl _⟩

theorem Serves.trans {first second third : DynamicEdge ContractorEdgeData}
    (serves : Serves first second) (also : Serves second third) : Serves first third :=
  ⟨serves.target.trans also.target, serves.forward.trans also.forward,
    serves.backward.trans also.backward, Nat.le_trans serves.le also.le⟩

/-- What edges are inserted leave: no edge is there that was not, or was not inserted, and for
each of these one is there that serves. -/
structure Grows (graph after : ContractorGraph) (edges : List ContractorEdge) : Prop where
  closed : Closed after
  count : after.getNumberOfNodes = graph.getNumberOfNodes
  only : ∀ {id : ℕ} {edge : DynamicEdge ContractorEdgeData}, edge ∈ after.adjacent id →
    edge ∈ graph.adjacent id ∨ ∃ inserted ∈ edges, inserted.source = id ∧ inserted.entry = edge
  kept : ∀ {id : ℕ} {edge : DynamicEdge ContractorEdgeData}, edge ∈ graph.adjacent id →
    ∃ serving ∈ after.adjacent id, Serves serving edge
  new : ∀ {inserted : ContractorEdge}, inserted ∈ edges →
    ∃ serving ∈ after.adjacent inserted.source, Serves serving inserted.entry
  frame : ∀ {id : ℕ}, (∀ inserted ∈ edges, inserted.source ≠ id) →
    after.adjacent id = graph.adjacent id

theorem grows_insertEdge (closed : Closed graph) {edge : ContractorEdge}
    (source_in : edge.source < graph.getNumberOfNodes)
    (target_in : edge.target < graph.getNumberOfNodes) :
    Grows graph (graph.insertEdge edge.source edge.target edge.data).1 [edge] := by
  have real : edge.target ≠ specialNodeId := by
    have := closed.small
    omega
  have mem : ∀ {id : ℕ} {other : DynamicEdge ContractorEdgeData},
      other ∈ (graph.insertEdge edge.source edge.target edge.data).1.adjacent id ↔
        (id = edge.source ∧ other = edge.entry) ∨ other ∈ graph.adjacent id := by
    intro id other
    by_cases same : id = edge.source
    case pos =>
      subst same
      rw [(DynamicGraph.adjacent_insertEdge_self closed.well source_in).mem_iff, List.mem_cons,
        and_iff_right rfl]
      rfl
    case neg =>
      rw [DynamicGraph.adjacent_insertEdge_ne closed.well real same,
        or_iff_right fun also => same also.1]
  have count : (graph.insertEdge edge.source edge.target edge.data).1.getNumberOfNodes =
      graph.getNumberOfNodes := DynamicGraph.getNumberOfNodes_insertEdge
  refine ⟨⟨closed.well.insertEdge source_in real, by rw [count]; exact closed.small, ?_⟩, count,
    ?_, ?_, ?_, ?_⟩
  case refine_1 =>
    intro id other member
    rw [count]
    rcases mem.mp member with ⟨_, rfl⟩ | before
    · exact target_in
    · exact closed.inside before
  case refine_2 =>
    intro id other member
    rcases mem.mp member with ⟨rfl, rfl⟩ | before
    · exact Or.inr ⟨edge, List.mem_singleton_self _, rfl, rfl⟩
    · exact Or.inl before
  case refine_3 =>
    intro id other member
    exact ⟨other, mem.mpr (Or.inr member), Serves.refl other⟩
  case refine_4 =>
    intro inserted member
    rw [List.mem_singleton] at member
    subst member
    exact ⟨_, mem.mpr (Or.inl ⟨rfl, rfl⟩), Serves.refl _⟩
  case refine_5 =>
    intro id others
    have ne := others edge (List.mem_singleton_self _)
    exact DynamicGraph.adjacent_insertEdge_ne closed.well real (Ne.symm ne)

theorem Grows.refl (closed : Closed graph) {edges : List ContractorEdge}
    (served : ∀ {inserted : ContractorEdge}, inserted ∈ edges →
      ∃ serving ∈ graph.adjacent inserted.source, Serves serving inserted.entry) :
    Grows graph graph edges :=
  ⟨closed, rfl, Or.inl, fun {_ edge} member => ⟨edge, member, Serves.refl edge⟩, served,
    fun _ => rfl⟩

/-- A shortcut that is found takes the data of a lighter one with the same flags. -/
theorem grows_setEdgeData (closed : Closed graph) {edge : ContractorEdge} {current : ℕ}
    {entry : DynamicEdge ContractorEdgeData} (owns : (graph.node edge.source).Owns current)
    (found : graph.edgeList[current]? = some entry) (target : entry.target = edge.target)
    (forward : edge.data.forward = entry.data.forward)
    (backward : edge.data.backward = entry.data.backward)
    (lighter : edge.data.weight < entry.data.weight) :
    Grows graph (graph.setEdgeData current edge.data) [edge] := by
  have perm := DynamicGraph.perm_setEdgeData_self edge.data owns found
  rw [target] at perm
  have self : ∀ {other : DynamicEdge ContractorEdgeData},
      other ∈ (graph.setEdgeData current edge.data).adjacent edge.source →
      other = edge.entry ∨ other ∈ graph.adjacent edge.source := fun member =>
    List.mem_cons.mp (perm.mem_iff.mp (List.mem_cons_of_mem entry member))
  have rest : ∀ {id : ℕ}, id ≠ edge.source →
      (graph.setEdgeData current edge.data).adjacent id = graph.adjacent id := fun ne =>
    DynamicGraph.adjacent_setEdgeData_ne closed.well owns ne
  have serves : Serves edge.entry entry :=
    ⟨target.symm, forward, backward, Nat.le_of_lt lighter⟩
  have new : edge.entry ∈ (graph.setEdgeData current edge.data).adjacent edge.source := by
    refine DynamicGraph.mem_adjacent.mpr ⟨current, owns, ?_⟩
    rw [DynamicGraph.getElem?_setEdgeData_self found, target]
    rfl
  have stored : entry ∈ graph.adjacent edge.source :=
    DynamicGraph.mem_adjacent.mpr ⟨current, owns, found⟩
  refine ⟨⟨closed.well.setEdgeData, closed.small, ?_⟩, rfl, ?_, ?_, ?_, ?_⟩
  case refine_1 =>
    intro id other member
    by_cases same : id = edge.source
    case pos =>
      subst same
      rcases self member with rfl | before
      · have inside := closed.inside stored
        rw [target] at inside
        exact inside
      · exact closed.inside before
    case neg =>
      rw [rest same] at member
      exact closed.inside member
  case refine_2 =>
    intro id other member
    by_cases same : id = edge.source
    case pos =>
      subst same
      rcases self member with rfl | before
      · exact Or.inr ⟨edge, List.mem_singleton_self _, rfl, rfl⟩
      · exact Or.inl before
    case neg =>
      rw [rest same] at member
      exact Or.inl member
  case refine_3 =>
    intro id other member
    by_cases same : id = edge.source
    case pos =>
      subst same
      have there := perm.mem_iff.mpr (List.mem_cons_of_mem _ member)
      rcases List.mem_cons.mp there with rfl | kept
      · exact ⟨edge.entry, new, serves⟩
      · exact ⟨other, kept, Serves.refl other⟩
    case neg =>
      rw [rest same]
      exact ⟨other, member, Serves.refl other⟩
  case refine_4 =>
    intro inserted member
    rw [List.mem_singleton] at member
    subst member
    exact ⟨_, new, Serves.refl _⟩
  case refine_5 =>
    intro id others
    exact rest (Ne.symm (others edge (List.mem_singleton_self _)))

theorem grows_insertShortcut (closed : Closed graph) {edge : ContractorEdge}
    (source_in : edge.source < graph.getNumberOfNodes)
    (target_in : edge.target < graph.getNumberOfNodes) :
    Grows graph (insertShortcut graph edge) [edge] := by
  rw [insertShortcut]
  split
  case h_1 => exact grows_insertEdge closed source_in target_in
  case h_2 current found =>
    obtain ⟨owns, entry, stored, target⟩ := DynamicGraph.findEdge_eq_some found
    rw [stored, Option.any_some, Option.any_some]
    split
    case isFalse => exact grows_insertEdge closed source_in target_in
    case isTrue alike =>
      rw [Bool.and_eq_true, Bool.and_eq_true, beq_iff_eq, beq_iff_eq] at alike
      obtain ⟨⟨_, forward⟩, backward⟩ := alike
      split
      case isTrue lighter =>
        exact grows_setEdgeData closed owns stored target forward backward
          (of_decide_eq_true lighter)
      case isFalse heavier =>
        rw [decide_eq_true_iff, not_lt] at heavier
        refine Grows.refl closed fun member => ?_
        rw [List.mem_singleton] at member
        subst member
        exact ⟨entry, DynamicGraph.mem_adjacent.mpr ⟨current, owns, stored⟩, target,
          forward.symm, backward.symm, heavier⟩

theorem grows_insertShortcuts (closed : Closed graph) {edges : List ContractorEdge}
    (inside : ∀ edge ∈ edges, edge.source < graph.getNumberOfNodes ∧
      edge.target < graph.getNumberOfNodes) :
    Grows graph (edges.foldl insertShortcut graph) edges := by
  induction edges generalizing graph with
  | nil => exact Grows.refl closed fun member => absurd member List.not_mem_nil
  | cons first rest ih =>
      rw [List.forall_mem_cons] at inside
      have one := grows_insertShortcut closed inside.1.1 inside.1.2
      have more := ih one.closed (by rw [one.count]; exact inside.2)
      refine ⟨more.closed, more.count.trans one.count, ?_, ?_, ?_, ?_⟩
      case refine_1 =>
        intro id edge member
        rcases more.only member with before | ⟨inserted, later, source, same⟩
        case inr => exact Or.inr ⟨inserted, List.mem_cons_of_mem _ later, source, same⟩
        case inl =>
          rcases one.only before with old | ⟨inserted, only, source, same⟩
          · exact Or.inl old
          · rw [List.mem_singleton] at only
            exact Or.inr ⟨inserted, only ▸ List.mem_cons_self, source, same⟩
      case refine_2 =>
        intro id edge member
        obtain ⟨serving, there, serves⟩ := one.kept member
        obtain ⟨last, here, also⟩ := more.kept there
        exact ⟨last, here, also.trans serves⟩
      case refine_3 =>
        intro inserted member
        rcases List.mem_cons.mp member with rfl | later
        case inr => exact more.new later
        case inl =>
          obtain ⟨serving, there, serves⟩ := one.new (List.mem_singleton_self inserted)
          obtain ⟨last, here, also⟩ := more.kept there
          exact ⟨last, here, also.trans serves⟩
      case refine_4 =>
        intro id others
        rw [List.forall_mem_cons] at others
        refine (more.frame others.2).trans (one.frame ?_)
        exact fun inserted only => List.mem_singleton.mp only ▸ others.1

end Insertions

/-! ## What the threads have inserted -/

section Batches

variable {graph : ContractorGraph}

theorem mem_flatten_modify {blocks : List (List ContractorEdge)} {thread : ℕ}
    (inside : thread < blocks.length) {new : List ContractorEdge} {edge : ContractorEdge} :
    edge ∈ (blocks.modify thread (· ++ new)).flatten ↔ edge ∈ blocks.flatten ∨ edge ∈ new := by
  induction blocks generalizing thread with
  | nil => exact absurd inside (Nat.not_lt_zero thread)
  | cons first rest ih =>
      cases thread with
      | zero =>
          rw [List.modify_zero_cons, List.flatten_cons, List.flatten_cons, List.mem_append,
            List.mem_append, List.mem_append]
          exact or_right_comm
      | succ thread =>
          rw [List.modify_succ_cons, List.flatten_cons, List.flatten_cons, List.mem_append,
            List.mem_append, ih (Nat.lt_of_succ_lt_succ inside), or_assoc]

theorem Goes.mono {flag : ContractorEdgeData → Bool} {first second : List ContractorEdge}
    {source target weight : ℕ} (goes : Goes flag first source target weight)
    (kept : ∀ edge ∈ first, edge ∈ second) : Goes flag second source target weight := by
  obtain ⟨edge, member, rest⟩ := goes
  exact ⟨edge, kept edge member, rest⟩

theorem CoversWay.of_subset {node : ℕ} {inEdge outEdge : DynamicEdge ContractorEdgeData}
    {first second : List ContractorEdge} (covers : CoversWay graph node inEdge outEdge first)
    (kept : ∀ edge ∈ first, edge ∈ second) : CoversWay graph node inEdge outEdge second := by
  intro enabled ne
  exact (covers enabled ne).imp_left fun goes => goes.mono kept

/-- The shortcuts over the nodes of a batch. -/
structure InsertedOver (graph : ContractorGraph) (batch : List ℕ) (edges : List ContractorEdge) :
    Prop where
  spans : ∀ edge ∈ edges, ∃ node ∈ batch, ShortcutOver graph node edge
  twin : ∀ {source target weight : ℕ}, Goes ContractorEdgeData.forward edges source target weight ↔
    Goes ContractorEdgeData.backward edges target source weight
  covers : ∀ node ∈ batch, ∀ inEdge ∈ graph.adjacent node, CoversFrom graph node inEdge edges

theorem InsertedOver.congr {batch : List ℕ} {edges others : List ContractorEdge}
    (inserted : InsertedOver graph batch edges) (same : ∀ edge, edge ∈ others ↔ edge ∈ edges) :
    InsertedOver graph batch others := by
  have goes : ∀ {flag : ContractorEdgeData → Bool} {source target weight : ℕ},
      Goes flag others source target weight ↔ Goes flag edges source target weight :=
    ⟨fun goes => goes.mono fun edge => (same edge).mp,
      fun goes => goes.mono fun edge => (same edge).mpr⟩
  refine ⟨fun edge member => inserted.spans edge ((same edge).mp member), ?_, ?_⟩
  case refine_1 =>
    intro source target weight
    rw [goes, goes]
    exact inserted.twin
  case refine_2 =>
    intro node member inEdge entering set ne outEdge leaving
    exact (inserted.covers node member inEdge entering set ne outEdge leaving).of_subset
      fun edge => (same edge).mpr

theorem contractTurn_spec {state after : List (List ContractorEdge) × List ℕ} {turn : ℕ × ℕ}
    (inside : turn.1 < state.1.length) (turned : contractTurn graph state turn = .ok after) :
    after.1.length = state.1.length ∧ ∃ new, Inserted graph turn.2 new ∧
      (∀ inEdge ∈ graph.adjacent turn.2, CoversFrom graph turn.2 inEdge new) ∧
      ∀ edge, edge ∈ after.1.flatten ↔ edge ∈ state.1.flatten ∨ edge ∈ new := by
  obtain ⟨contracted, done, turned⟩ := bind_eq_ok_iff.mp turned
  cases turned
  obtain ⟨inserted, covers⟩ := contractNode_spec done
  exact ⟨List.length_modify _ _ _, contracted.insertedEdges, inserted, covers,
    fun _ => mem_flatten_modify inside⟩

/-- What holds while the threads contract the nodes of a batch. -/
structure Contracting (graph : ContractorGraph) (threads : ℕ) (batch : List ℕ)
    (state : List (List ContractorEdge) × List ℕ) : Prop where
  length : state.1.length = threads
  spans : ∀ edge ∈ state.1.flatten, ∃ node ∈ batch, ShortcutOver graph node edge
  twin : ∀ {source target weight : ℕ},
    Goes ContractorEdgeData.forward state.1.flatten source target weight ↔
      Goes ContractorEdgeData.backward state.1.flatten target source weight

theorem goes_of_mem_iff {flag : ContractorEdgeData → Bool}
    {edges first second : List ContractorEdge}
    (same : ∀ edge, edge ∈ edges ↔ edge ∈ first ∨ edge ∈ second) {source target weight : ℕ} :
    Goes flag edges source target weight ↔
      Goes flag first source target weight ∨ Goes flag second source target weight := by
  rw [← goes_append]
  exact ⟨fun goes => goes.mono fun edge member => List.mem_append.mpr ((same edge).mp member),
    fun goes => goes.mono fun edge member => (same edge).mpr (List.mem_append.mp member)⟩

theorem Contracting.turn {threads : ℕ} {batch : List ℕ} {turn : ℕ × ℕ}
    {state after : List (List ContractorEdge) × List ℕ}
    (contracting : Contracting graph threads batch state) (inside : turn.1 < threads)
    (member : turn.2 ∈ batch) (turned : contractTurn graph state turn = .ok after) :
    Contracting graph threads batch after := by
  obtain ⟨length, new, inserted, _, same⟩ :=
    contractTurn_spec (by rw [contracting.length]; exact inside) turned
  refine ⟨length.trans contracting.length, ?_, ?_⟩
  case refine_1 =>
    intro edge there
    rcases (same edge).mp there with before | now
    · exact contracting.spans edge before
    · exact ⟨turn.2, member, inserted.spans edge now⟩
  case refine_2 =>
    intro source target weight
    rw [goes_of_mem_iff same, goes_of_mem_iff same, contracting.twin, inserted.twin]

/-- Whatever the schedule, the threads insert what the batch needs. -/
theorem contractBatch_spec {threads : ℕ} {schedule : List (ℕ × ℕ)} {nodeWeights : List ℕ}
    {after : List (List ContractorEdge) × List ℕ}
    (threaded : ∀ turn ∈ schedule, turn.1 < threads)
    (ran : contractBatch graph threads schedule nodeWeights = .ok after) :
    InsertedOver graph (schedule.map Prod.snd) after.1.flatten := by
  have empty : (List.replicate threads ([] : List ContractorEdge)).flatten = [] :=
    List.flatten_replicate_nil
  have start : Contracting graph threads (schedule.map Prod.snd)
      (List.replicate threads [], nodeWeights) := by
    refine ⟨List.length_replicate, ?_, ?_⟩
    · rw [empty]
      exact fun _ member => absurd member List.not_mem_nil
    · intro source target weight
      rw [empty]
      exact iff_of_false goes_nil goes_nil
  have kept : ∀ turn ∈ schedule, ∀ state next,
      Contracting graph threads (schedule.map Prod.snd) state →
      contractTurn graph state turn = .ok next →
      Contracting graph threads (schedule.map Prod.snd) next :=
    fun turn member state next contracting turned =>
      contracting.turn (threaded turn member) (List.mem_map_of_mem member) turned
  have final := foldlM_invariant _ kept start ran
  have covers := foldlM_each (Contracting graph threads (schedule.map Prod.snd))
    (fun turn state => ∀ inEdge ∈ graph.adjacent turn.2,
      CoversFrom graph turn.2 inEdge state.1.flatten) kept
    (fun turn member state next contracting turned inEdge entering set ne outEdge leaving => by
      obtain ⟨_, new, _, covers, same⟩ :=
        contractTurn_spec (by rw [contracting.length]; exact threaded turn member) turned
      exact (covers inEdge entering set ne outEdge leaving).of_subset
        fun edge now => (same edge).mpr (Or.inr now))
    (fun turn member other state next contracting done turned inEdge entering set ne outEdge
        leaving => by
      obtain ⟨_, new, _, _, same⟩ :=
        contractTurn_spec (by rw [contracting.length]; exact threaded turn member) turned
      exact (done inEdge entering set ne outEdge leaving).of_subset
        fun edge before => (same edge).mpr (Or.inl before)) start ran
  refine ⟨final.spans, final.twin, ?_⟩
  intro node member
  obtain ⟨turn, scheduled, rfl⟩ := List.mem_map.mp member
  exact covers turn scheduled

end Batches

end Proximity.Routing
