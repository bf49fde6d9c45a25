import Proximity.Routing.ContractorSearch

/-!
# The contraction of a node

`ContractNode` looks, for every way through a node, for a witness around it, and inserts a
shortcut where it finds none.  Each shortcut comes with its twin for the other direction.
-/

namespace Proximity.Routing

open Proximity.Systems

/-- The constructor that takes the values.  `originalEdges` is a field of 29 bits. -/
def ContractorEdgeData.ofValues (weight duration originalEdges id : ℕ)
    (shortcut forward backward : Bool) : ContractorEdgeData :=
  ⟨weight, duration, id, min (2 ^ 29 - 1) originalEdges, shortcut, forward, backward⟩

/-- A shortcut over a node and its twin. -/
def shortcutPair (node source target pathWeight : ℕ) (inData outData : ContractorEdgeData) :
    List ContractorEdge :=
  let duration := inData.duration + outData.duration
  let originalEdges := outData.originalEdges + inData.originalEdges
  [⟨source, target, .ofValues pathWeight duration originalEdges node true true false⟩,
    ⟨target, source, .ofValues pathWeight duration originalEdges node true false true⟩]

/-- What the loops of `ContractNode` write. -/
structure Contraction where
  insertedEdges : List ContractorEdge
  nodeWeights : List ℕ
  deriving DecidableEq, Repr

/-- What the first loop over the outgoing edges writes. -/
structure Targets extends Contraction where
  heap : ContractorHeap
  maxWeight : ℕ
  numberOfTargets : ℕ
  deriving DecidableEq, Repr

/-- One turn of the first loop over the outgoing edges. -/
def addTarget (node source : ℕ) (inData : ContractorEdgeData) (state : Targets)
    (outEdge : DynamicEdge ContractorEdgeData) : Except Undefined Targets :=
  if !outEdge.data.forward then .ok state
  else if node == outEdge.target then .ok state
  else do
    let pathWeight ← addWeight inData.weight outEdge.data.weight
    if outEdge.target == source then
      if pathWeight < state.nodeWeights.getD node 0 then
        .ok { state with
          nodeWeights := state.nodeWeights.set source pathWeight
          insertedEdges := state.insertedEdges ++
            shortcutPair node source outEdge.target pathWeight inData outEdge.data }
      else .ok state
    else if state.heap.wasInserted outEdge.target then
      .ok { state with maxWeight := max state.maxWeight pathWeight }
    else
      .ok { state with
        maxWeight := max state.maxWeight pathWeight
        heap := state.heap.insert outEdge.target invalidEdgeWeight ⟨0, true⟩
        numberOfTargets := state.numberOfTargets + 1 }

/-- One turn of the second loop over the outgoing edges. -/
def addShortcut (node source : ℕ) (inData : ContractorEdgeData) (heap : ContractorHeap)
    (insertedEdges : List ContractorEdge) (outEdge : DynamicEdge ContractorEdgeData) :
    Except Undefined (List ContractorEdge) :=
  if !outEdge.data.forward then .ok insertedEdges
  else if outEdge.target == node then .ok insertedEdges
  else do
    let pathWeight ← addWeight inData.weight outEdge.data.weight
    let weight ← found .key (heap.getKey outEdge.target)
    if pathWeight < weight then
      .ok (insertedEdges ++ shortcutPair node source outEdge.target pathWeight inData outEdge.data)
    else .ok insertedEdges

/-- `FULL_SEARCH_SPACE_SIZE`. -/
def fullSearchSpaceSize : ℕ := 2000

/-- One turn of the loop over the incoming edges. -/
def contractInEdge (graph : ContractorGraph) (node : ℕ) (state : Contraction)
    (inEdge : DynamicEdge ContractorEdgeData) : Except Undefined Contraction :=
  if inEdge.target == node then .ok state
  else if !inEdge.data.backward then .ok state
  else do
    let heap := QueryHeap.insert [] inEdge.target 0 ⟨0, false⟩
    let targets ← (graph.adjacent node).foldlM (addTarget node inEdge.target inEdge.data)
      ⟨state, heap, 0, 0⟩
    let searched ← contractorSearch targets.heap graph targets.numberOfTargets fullSearchSpaceSize
      targets.maxWeight node
    let insertedEdges ← (graph.adjacent node).foldlM
      (addShortcut node inEdge.target inEdge.data searched) targets.insertedEdges
    .ok ⟨insertedEdges, targets.nodeWeights⟩

/-- The flags of an edge are added to those of another. -/
def ContractorEdgeData.withFlags (other edge : ContractorEdgeData) : ContractorEdgeData :=
  { other with
    forward := other.forward || edge.forward
    backward := other.backward || edge.backward }

/-- The loop over the later edges, which gives its flags to the first one that is alike. -/
def mergeInto (edge : ContractorEdge) : List ContractorEdge → Option (List ContractorEdge)
  | [] => none
  | other :: rest =>
      if other.source = edge.source ∧ other.target = edge.target ∧
          other.data.weight = edge.data.weight ∧ other.data.shortcut = edge.data.shortcut then
        some ({ other with data := other.data.withFlags edge.data } :: rest)
      else (mergeInto edge rest).map (other :: ·)

/-- The loop that merges what a contraction has inserted; the first argument is the number of the
edges. -/
def mergeLoop : ℕ → List ContractorEdge → List ContractorEdge
  | 0, _ => []
  | _ + 1, [] => []
  | left + 1, edge :: rest =>
      match mergeInto edge rest with
      | some merged => mergeLoop left merged
      | none => edge :: mergeLoop left rest

/-- The edges that the contraction of a node adds to those of its thread, and the node weights. -/
def contractNode (graph : ContractorGraph) (node : ℕ) (nodeWeights : List ℕ) :
    Except Undefined Contraction := do
  let contracted ← (graph.adjacent node).foldlM (contractInEdge graph node) ⟨[], nodeWeights⟩
  .ok ⟨mergeLoop contracted.insertedEdges.length contracted.insertedEdges, contracted.nodeWeights⟩

/-! ## What is inserted -/

/-- An edge of the list, with the flag set, has these ends and this weight. -/
def Goes (flag : ContractorEdgeData → Bool) (edges : List ContractorEdge)
    (source target weight : ℕ) : Prop :=
  ∃ edge ∈ edges, edge.source = source ∧ edge.target = target ∧ flag edge.data = true ∧
    edge.data.weight = weight

/-- A way through a node, of an edge that enters it and one that leaves it. -/
def Through (graph : ContractorGraph) (node source target weight : ℕ) : Prop :=
  ∃ inEdge ∈ graph.adjacent node, ∃ outEdge ∈ graph.adjacent node,
    inEdge.target = source ∧ inEdge.data.backward = true ∧ outEdge.target = target ∧
      outEdge.data.forward = true ∧ inEdge.data.weight + outEdge.data.weight = weight

/-- A shortcut stands, in each of its directions, for a way through its middle node. -/
structure ShortcutOver (graph : ContractorGraph) (node : ℕ) (edge : ContractorEdge) : Prop where
  shortcut : edge.data.shortcut = true
  id : edge.data.id = node
  source_ne : edge.source ≠ node
  target_ne : edge.target ≠ node
  flagged : edge.data.forward = true ∨ edge.data.backward = true
  forth : edge.data.forward = true → Through graph node edge.source edge.target edge.data.weight
  back : edge.data.backward = true → Through graph node edge.target edge.source edge.data.weight

structure Inserted (graph : ContractorGraph) (node : ℕ) (edges : List ContractorEdge) : Prop where
  spans : ∀ edge ∈ edges, ShortcutOver graph node edge
  twin : ∀ {source target weight : ℕ}, Goes ContractorEdgeData.forward edges source target weight ↔
    Goes ContractorEdgeData.backward edges target source weight

section Pairs

variable {flag : ContractorEdgeData → Bool} {first second edges : List ContractorEdge}
  {node source target weight : ℕ} {graph : ContractorGraph} {inData outData : ContractorEdgeData}

theorem goes_append : Goes flag (first ++ second) source target weight ↔
    Goes flag first source target weight ∨ Goes flag second source target weight := by
  simp only [Goes, List.mem_append, or_and_right, exists_or]

theorem goes_cons {edge : ContractorEdge} : Goes flag (edge :: edges) source target weight ↔
    (edge.source = source ∧ edge.target = target ∧ flag edge.data = true ∧
      edge.data.weight = weight) ∨ Goes flag edges source target weight := by
  simp only [Goes, List.mem_cons, exists_eq_or_imp]

theorem goes_nil : ¬Goes flag [] source target weight :=
  fun ⟨_, member, _⟩ => absurd member List.not_mem_nil

theorem goes_forward_pair {tail head sum : ℕ} :
    Goes ContractorEdgeData.forward (shortcutPair node source target weight inData outData)
      tail head sum ↔ source = tail ∧ target = head ∧ weight = sum := by
  simp [shortcutPair, goes_cons, goes_nil, ContractorEdgeData.ofValues]

theorem goes_backward_pair {tail head sum : ℕ} :
    Goes ContractorEdgeData.backward (shortcutPair node source target weight inData outData)
      head tail sum ↔ source = tail ∧ target = head ∧ weight = sum := by
  simp [shortcutPair, goes_cons, goes_nil, ContractorEdgeData.ofValues]
  exact and_left_comm

/-- A pair over a way through the node may be inserted. -/
theorem Inserted.append (inserted : Inserted graph node edges)
    (through : Through graph node source target weight) (source_ne : source ≠ node)
    (target_ne : target ≠ node) :
    Inserted graph node (edges ++ shortcutPair node source target weight inData outData) := by
  refine ⟨?_, ?_⟩
  case refine_1 =>
    intro edge member
    rcases List.mem_append.mp member with before | new
    case inl => exact inserted.spans edge before
    case inr =>
      rw [shortcutPair, List.mem_cons, List.mem_singleton] at new
      rcases new with rfl | rfl
      case inl =>
        exact ⟨rfl, rfl, source_ne, target_ne, Or.inl rfl, fun _ => through,
          fun set => absurd set Bool.false_ne_true⟩
      case inr =>
        exact ⟨rfl, rfl, target_ne, source_ne, Or.inr rfl,
          fun set => absurd set Bool.false_ne_true, fun _ => through⟩
  case refine_2 =>
    intro tail head sum
    rw [goes_append, goes_append, inserted.twin, goes_forward_pair, goes_backward_pair]

/-- Longer lists go wherever shorter ones do. -/
theorem Goes.append_left (goes : Goes flag first source target weight) :
    Goes flag (first ++ second) source target weight :=
  goes_append.mpr (Or.inl goes)

theorem inserted_nil : Inserted graph node [] :=
  ⟨fun _ member => absurd member List.not_mem_nil,
    iff_of_false goes_nil goes_nil⟩

end Pairs

/-! ## The first loop -/

section Loops

variable {graph : ContractorGraph} {node source : ℕ}
  {inEdge outEdge : DynamicEdge ContractorEdgeData}

/-- What holds while the targets are collected. -/
structure Collecting (graph : ContractorGraph) (node source : ℕ) (state : Targets) : Prop where
  inserted : Inserted graph node state.insertedEdges
  reached : Reached graph source node state.heap
  source_in : source ∈ state.heap.map HeapNode.node

/-- The target of an edge that leads on has been inserted into the heap. -/
def Collected (node : ℕ) (outEdge : DynamicEdge ContractorEdgeData) (state : Targets) : Prop :=
  outEdge.data.forward = true → outEdge.target ≠ node →
    outEdge.target ∈ state.heap.map HeapNode.node

theorem reached_insert {heap : ContractorHeap} {target : ℕ} {data : ContractorHeapData}
    (reached : Reached graph source node heap) (fresh : heap.wasInserted target ≠ true) :
    Reached graph source node (heap.insert target invalidEdgeWeight data) := by
  have absent := QueryHeap.getHeapNode_of_not_inserted fresh
  refine ⟨reached.distinct.insert absent, ?_⟩
  intro other entry found
  by_cases same : other = target
  case pos =>
    subst same
    rw [QueryHeap.getHeapNode_insert_self absent] at found
    cases found
    exact Or.inl rfl
  case neg =>
    rw [QueryHeap.getHeapNode_insert_ne same] at found
    exact reached.walk found

theorem mem_nodes_of_wasInserted {heap : ContractorHeap} {target : ℕ}
    (inserted : heap.wasInserted target = true) : target ∈ heap.map HeapNode.node := by
  obtain ⟨entry, found⟩ := QueryHeap.wasInserted_iff.mp inserted
  obtain ⟨member, rfl⟩ := QueryHeap.mem_of_getHeapNode found
  exact List.mem_map_of_mem member

theorem mem_nodes_insert {heap : ContractorHeap} {target other weight : ℕ}
    {data : ContractorHeapData} :
    other ∈ (heap.insert target weight data).map HeapNode.node ↔
      other ∈ heap.map HeapNode.node ∨ other = target := by
  rw [QueryHeap.insert, List.map_append, List.mem_append, List.map_singleton, List.mem_singleton]

/-- One turn keeps what holds, collects its target and forgets none. -/
theorem Collecting.addTarget {state after : Targets}
    (collecting : Collecting graph node source state)
    (entering : inEdge ∈ graph.adjacent node) (leaving : outEdge ∈ graph.adjacent node)
    (from_source : inEdge.target = source) (backward : inEdge.data.backward = true)
    (source_ne : source ≠ node)
    (added : addTarget node source inEdge.data state outEdge = .ok after) :
    Collecting graph node source after ∧ Collected node outEdge after ∧
      (∀ target ∈ state.heap.map HeapNode.node, target ∈ after.heap.map HeapNode.node) ∧
      state.insertedEdges <+: after.insertedEdges := by
  rw [Routing.addTarget] at added
  split at added
  case isTrue disabled =>
    cases added
    rw [Bool.not_eq_true'] at disabled
    exact ⟨collecting, fun enabled => absurd enabled (Bool.eq_false_iff.mp disabled),
      fun _ member => member, List.prefix_refl _⟩
  case isFalse enabled =>
    rw [Bool.not_eq_true', Bool.not_eq_false] at enabled
    split at added
    case isTrue loop =>
      cases added
      exact ⟨collecting, fun _ ne => absurd (beq_iff_eq.mp loop).symm ne, fun _ member => member,
        List.prefix_refl _⟩
    case isFalse no_loop =>
      rw [beq_iff_eq] at no_loop
      obtain ⟨pathWeight, summed, added⟩ := bind_eq_ok_iff.mp added
      obtain ⟨rfl, _⟩ := addWeight_eq_ok summed
      split at added
      case isTrue round =>
        rw [beq_iff_eq] at round
        have through : Through graph node source outEdge.target
            (inEdge.data.weight + outEdge.data.weight) :=
          ⟨inEdge, entering, outEdge, leaving, from_source, backward, rfl, enabled, rfl⟩
        split at added
        case isTrue =>
          cases added
          refine ⟨⟨collecting.inserted.append through source_ne (Ne.symm no_loop),
            collecting.reached, collecting.source_in⟩, fun _ _ => ?_, fun _ member => member,
            List.prefix_append _ _⟩
          rw [round]
          exact collecting.source_in
        case isFalse =>
          cases added
          refine ⟨collecting, fun _ _ => ?_, fun _ member => member, List.prefix_refl _⟩
          rw [round]
          exact collecting.source_in
      case isFalse =>
        split at added
        case isTrue already =>
          cases added
          exact ⟨⟨collecting.inserted, collecting.reached, collecting.source_in⟩,
            fun _ _ => mem_nodes_of_wasInserted already, fun _ member => member,
            List.prefix_refl _⟩
        case isFalse fresh =>
          cases added
          refine ⟨⟨collecting.inserted, reached_insert collecting.reached fresh,
            mem_nodes_insert.mpr (Or.inl collecting.source_in)⟩,
            fun _ _ => mem_nodes_insert.mpr (Or.inr rfl),
            fun _ member => mem_nodes_insert.mpr (Or.inl member), List.prefix_refl _⟩

/-- The first loop collects the targets of all edges that lead on. -/
theorem Collecting.collected {state after : Targets}
    (collecting : Collecting graph node source state) (entering : inEdge ∈ graph.adjacent node)
    (from_source : inEdge.target = source) (backward : inEdge.data.backward = true)
    (source_ne : source ≠ node)
    (ran : (graph.adjacent node).foldlM (Routing.addTarget node source inEdge.data) state =
      .ok after) : ∀ outEdge ∈ graph.adjacent node, Collected node outEdge after :=
  foldlM_each (Collecting graph node source) (Collected node)
    (fun _ leaving _ _ keeps turned =>
      (keeps.addTarget entering leaving from_source backward source_ne turned).1)
    (fun _ leaving _ _ keeps turned =>
      (keeps.addTarget entering leaving from_source backward source_ne turned).2.1)
    (fun _ leaving _ _ _ keeps done turned on ne =>
      (keeps.addTarget entering leaving from_source backward source_ne turned).2.2.1 _
        (done on ne)) collecting ran

/-! ## The second loop -/

/-- A way through the node is covered: by a shortcut, or by a witness around the node, or it is
too heavy for a path. -/
def Covered (graph : ContractorGraph) (node source target weight : ℕ)
    (edges : List ContractorEdge) : Prop :=
  Goes ContractorEdgeData.forward edges source target weight ∨
    Within (around graph node) source target weight ∨ invalidEdgeWeight ≤ weight

theorem Covered.mono {target weight : ℕ} {first second : List ContractorEdge}
    (covered : Covered graph node source target weight first) (before : first <+: second) :
    Covered graph node source target weight second := by
  obtain ⟨new, rfl⟩ := before
  rcases covered with goes | witness | heavy
  · exact Or.inl goes.append_left
  · exact Or.inr (Or.inl witness)
  · exact Or.inr (Or.inr heavy)

/-- The way of an incoming and an outgoing edge is covered. -/
def CoversWay (graph : ContractorGraph) (node : ℕ)
    (inEdge outEdge : DynamicEdge ContractorEdgeData) (edges : List ContractorEdge) : Prop :=
  outEdge.data.forward = true → outEdge.target ≠ node → Covered graph node inEdge.target
    outEdge.target (inEdge.data.weight + outEdge.data.weight) edges

theorem CoversWay.mono {first second : List ContractorEdge}
    (covers : CoversWay graph node inEdge outEdge first) (before : first <+: second) :
    CoversWay graph node inEdge outEdge second :=
  fun enabled ne => (covers enabled ne).mono before

/-- One turn keeps what is inserted, covers its way and forgets none. -/
theorem addShortcut_spec {edges after : List ContractorEdge} {heap : ContractorHeap}
    (inserted : Inserted graph node edges) (reached : Reached graph inEdge.target node heap)
    (entering : inEdge ∈ graph.adjacent node) (leaving : outEdge ∈ graph.adjacent node)
    (backward : inEdge.data.backward = true) (source_ne : inEdge.target ≠ node)
    (added : addShortcut node inEdge.target inEdge.data heap edges outEdge = .ok after) :
    Inserted graph node after ∧ CoversWay graph node inEdge outEdge after ∧
      edges <+: after := by
  rw [addShortcut] at added
  split at added
  case isTrue disabled =>
    cases added
    rw [Bool.not_eq_true'] at disabled
    exact ⟨inserted, fun enabled => absurd enabled (Bool.eq_false_iff.mp disabled),
      List.prefix_refl _⟩
  case isFalse enabled =>
    rw [Bool.not_eq_true', Bool.not_eq_false] at enabled
    split at added
    case isTrue loop =>
      cases added
      exact ⟨inserted, fun _ ne => absurd (beq_iff_eq.mp loop) ne, List.prefix_refl _⟩
    case isFalse no_loop =>
      rw [beq_iff_eq] at no_loop
      obtain ⟨pathWeight, summed, added⟩ := bind_eq_ok_iff.mp added
      obtain ⟨rfl, _⟩ := addWeight_eq_ok summed
      obtain ⟨weight, known, added⟩ := bind_eq_ok_iff.mp added
      rw [found_eq_ok_iff, QueryHeap.getKey, Option.map_eq_some_iff] at known
      obtain ⟨entry, stored, rfl⟩ := known
      split at added
      case isTrue =>
        cases added
        refine ⟨inserted.append ⟨inEdge, entering, outEdge, leaving, rfl, backward, rfl, enabled,
          rfl⟩ source_ne no_loop, fun _ _ => Or.inl ?_, List.prefix_append _ _⟩
        exact goes_append.mpr (Or.inr (goes_forward_pair.mpr ⟨rfl, rfl, rfl⟩))
      case isFalse short =>
        cases added
        refine ⟨inserted, fun _ _ => Or.inr ?_, List.prefix_refl _⟩
        rcases reached.walk stored with unreached | walk
        case inl => exact Or.inr (by omega)
        case inr => exact Or.inl ⟨_, Nat.le_of_not_lt short, walk⟩

/-- All ways that start with an incoming edge are covered. -/
def CoversFrom (graph : ContractorGraph) (node : ℕ) (inEdge : DynamicEdge ContractorEdgeData)
    (edges : List ContractorEdge) : Prop :=
  inEdge.data.backward = true → inEdge.target ≠ node →
    ∀ outEdge ∈ graph.adjacent node, CoversWay graph node inEdge outEdge edges

/-- The heap that a search starts from. -/
theorem reached_source (graph : ContractorGraph) (node source : ℕ) :
    Reached graph source node (QueryHeap.insert [] source 0 ⟨0, false⟩) := by
  refine ⟨List.nodup_singleton _, ?_⟩
  intro other entry found
  obtain ⟨member, rfl⟩ := QueryHeap.mem_of_getHeapNode found
  rw [QueryHeap.insert, List.nil_append, List.mem_singleton] at member
  subst member
  exact Or.inr (Walk.nil source)

/-- One turn of the loop over the incoming edges. -/
theorem contractInEdge_spec {state after : Contraction}
    (inserted : Inserted graph node state.insertedEdges) (entering : inEdge ∈ graph.adjacent node)
    (contracted : contractInEdge graph node state inEdge = .ok after) :
    Inserted graph node after.insertedEdges ∧ CoversFrom graph node inEdge after.insertedEdges ∧
      state.insertedEdges <+: after.insertedEdges := by
  rw [contractInEdge] at contracted
  split at contracted
  case isTrue loop =>
    cases contracted
    exact ⟨inserted, fun _ ne => absurd (beq_iff_eq.mp loop) ne, List.prefix_refl _⟩
  case isFalse no_loop =>
    rw [beq_iff_eq] at no_loop
    split at contracted
    case isTrue disabled =>
      cases contracted
      rw [Bool.not_eq_true'] at disabled
      exact ⟨inserted, fun enabled => absurd enabled (Bool.eq_false_iff.mp disabled),
        List.prefix_refl _⟩
    case isFalse enabled =>
      rw [Bool.not_eq_true', Bool.not_eq_false] at enabled
      obtain ⟨targets, collected, contracted⟩ := bind_eq_ok_iff.mp contracted
      obtain ⟨searched, search, contracted⟩ := bind_eq_ok_iff.mp contracted
      obtain ⟨edges, added, contracted⟩ := bind_eq_ok_iff.mp contracted
      cases contracted
      -- the loop that collects the targets
      have start : Collecting graph node inEdge.target
          ⟨state, QueryHeap.insert [] inEdge.target 0 ⟨0, false⟩, 0, 0⟩ :=
        ⟨inserted, reached_source graph node inEdge.target, List.mem_singleton_self _⟩
      have collecting := foldlM_invariant
        (fun current => Collecting graph node inEdge.target current ∧
          state.insertedEdges <+: current.insertedEdges)
        (fun outEdge leaving before current keeps turned => by
          obtain ⟨kept, _, _, longer⟩ :=
            keeps.1.addTarget entering leaving rfl enabled no_loop turned
          exact ⟨kept, keeps.2.trans longer⟩) ⟨start, List.prefix_refl _⟩ collected
      -- the search and the loop that inserts the shortcuts
      have reached := contractorSearch_reached collecting.1.reached search
      have adding := foldlM_invariant
        (fun current => Inserted graph node current ∧ targets.insertedEdges <+: current)
        (fun outEdge leaving before current keeps turned => by
          obtain ⟨kept, _, longer⟩ :=
            addShortcut_spec keeps.1 reached entering leaving enabled no_loop turned
          exact ⟨kept, keeps.2.trans longer⟩) ⟨collecting.1.inserted, List.prefix_refl _⟩ added
      have covered := foldlM_each (Inserted graph node) (CoversWay graph node inEdge)
        (fun outEdge leaving before current keeps turned =>
          (addShortcut_spec keeps reached entering leaving enabled no_loop turned).1)
        (fun outEdge leaving before current keeps turned =>
          (addShortcut_spec keeps reached entering leaving enabled no_loop turned).2.1)
        (fun outEdge leaving other before current keeps done turned =>
          done.mono
            (addShortcut_spec keeps reached entering leaving enabled no_loop turned).2.2)
        collecting.1.inserted added
      exact ⟨adding.1, fun _ _ => covered, collecting.2.trans adding.2⟩

/-! ## Merging -/

theorem mergeInto_spec {edge : ContractorEdge} {edges merged : List ContractorEdge}
    (joined : mergeInto edge edges = some merged) :
    merged.length = edges.length ∧
      ∃ first other rest, edges = first ++ other :: rest ∧
        merged = first ++ { other with data := other.data.withFlags edge.data } :: rest ∧
        other.source = edge.source ∧ other.target = edge.target ∧
        other.data.weight = edge.data.weight := by
  induction edges generalizing merged with
  | nil => cases joined
  | cons head tail ih =>
      rw [mergeInto] at joined
      split at joined
      case isTrue same =>
        cases joined
        exact ⟨rfl, [], head, tail, rfl, rfl, same.1, same.2.1, same.2.2.1⟩
      case isFalse =>
        obtain ⟨later, behind, rfl⟩ := Option.map_eq_some_iff.mp joined
        obtain ⟨length, first, other, rest, rfl, rfl, same⟩ := ih behind
        exact ⟨congrArg (· + 1) length, head :: first, other, rest, rfl, rfl, same⟩

/-- Merging loses no direction and makes none up. -/
theorem mergeInto_goes {edge : ContractorEdge} {edges merged : List ContractorEdge}
    {flag : ContractorEdgeData → Bool}
    (flags : ∀ other first : ContractorEdgeData, flag (other.withFlags first) =
      (flag other || flag first))
    (joined : mergeInto edge edges = some merged) {tail head weight : ℕ} :
    Goes flag merged tail head weight ↔ Goes flag (edge :: edges) tail head weight := by
  obtain ⟨_, first, other, rest, rfl, rfl, same_source, same_target, same_weight⟩ :=
    mergeInto_spec joined
  rw [goes_cons, goes_append, goes_cons, goes_append, goes_cons, flags, same_source, same_target,
    Bool.or_eq_true]
  change _ ∨ (_ ∧ _ ∧ _ ∧ other.data.weight = weight) ∨ _ ↔ _
  rw [same_weight]
  tauto

theorem mergeInto_over {edge : ContractorEdge} {edges merged : List ContractorEdge}
    (joined : mergeInto edge edges = some merged)
    (spans : ∀ other ∈ edge :: edges, ShortcutOver graph node other) :
    ∀ other ∈ merged, ShortcutOver graph node other := by
  obtain ⟨_, first, other, rest, rfl, rfl, same_source, same_target, same_weight⟩ :=
    mergeInto_spec joined
  have own := spans edge List.mem_cons_self
  have like := spans other (List.mem_cons_of_mem _ (List.mem_append_right _ List.mem_cons_self))
  intro one member
  rcases List.mem_append.mp member with before | later
  case inl => exact spans one (List.mem_cons_of_mem _ (List.mem_append_left _ before))
  case inr =>
    rcases List.mem_cons.mp later with rfl | after
    case inr =>
      exact spans one (List.mem_cons_of_mem _ (List.mem_append_right _
        (List.mem_cons_of_mem _ after)))
    case inl =>
      refine ⟨like.shortcut, like.id, like.source_ne, like.target_ne, ?_, ?_, ?_⟩
      case refine_1 =>
        exact like.flagged.imp (fun set => Bool.or_eq_true _ _ |>.mpr (Or.inl set))
          fun set => Bool.or_eq_true _ _ |>.mpr (Or.inl set)
      case refine_2 =>
        intro set
        rcases (Bool.or_eq_true _ _).mp set with set | set
        case inl => exact like.forth set
        case inr =>
          have through := own.forth set
          rwa [← same_source, ← same_target, ← same_weight] at through
      case refine_3 =>
        intro set
        rcases (Bool.or_eq_true _ _).mp set with set | set
        case inl => exact like.back set
        case inr =>
          have through := own.back set
          rwa [← same_source, ← same_target, ← same_weight] at through

theorem mergeLoop_goes (flag : ContractorEdgeData → Bool)
    (flags : ∀ other first : ContractorEdgeData, flag (other.withFlags first) =
      (flag other || flag first)) {left : ℕ} {edges : List ContractorEdge}
    (enough : edges.length ≤ left) {tail head weight : ℕ} :
    Goes flag (mergeLoop left edges) tail head weight ↔ Goes flag edges tail head weight := by
  induction left generalizing edges with
  | zero =>
      rw [List.eq_nil_of_length_eq_zero (Nat.le_zero.mp enough), mergeLoop]
  | succ left ih =>
      cases edges with
      | nil => rw [mergeLoop]
      | cons edge rest =>
          rw [List.length_cons] at enough
          rw [mergeLoop]
          split
          case h_1 merged joined =>
            rw [ih (by rw [(mergeInto_spec joined).1]; omega), mergeInto_goes flags joined]
          case h_2 => rw [goes_cons, goes_cons, ih (by omega)]

theorem mergeLoop_over {left : ℕ} {edges : List ContractorEdge}
    (spans : ∀ edge ∈ edges, ShortcutOver graph node edge) :
    ∀ edge ∈ mergeLoop left edges, ShortcutOver graph node edge := by
  induction left generalizing edges with
  | zero => exact fun _ member => absurd member List.not_mem_nil
  | succ left ih =>
      cases edges with
      | nil => exact fun _ member => absurd member List.not_mem_nil
      | cons first rest =>
          rw [mergeLoop]
          split
          case h_1 merged joined => exact ih (mergeInto_over joined spans)
          case h_2 =>
            rw [List.forall_mem_cons] at spans ⊢
            exact ⟨spans.1, ih spans.2⟩

theorem Covered.merged {target weight : ℕ} {edges : List ContractorEdge}
    (covered : Covered graph node source target weight edges) :
    Covered graph node source target weight (mergeLoop edges.length edges) := by
  rcases covered with goes | rest
  case inl =>
    exact Or.inl ((mergeLoop_goes ContractorEdgeData.forward (fun _ _ => rfl)
      (Nat.le_refl _)).mpr goes)
  case inr => exact Or.inr rest

/-- What is inserted for a node: shortcuts over it with their twins, one for every way through the
node that has no witness. -/
theorem contractNode_spec {nodeWeights : List ℕ} {after : Contraction}
    (contracted : contractNode graph node nodeWeights = .ok after) :
    Inserted graph node after.insertedEdges ∧
      ∀ inEdge ∈ graph.adjacent node, CoversFrom graph node inEdge after.insertedEdges := by
  obtain ⟨looped, folded, contracted⟩ := bind_eq_ok_iff.mp contracted
  cases contracted
  have inserted := foldlM_invariant (fun state : Contraction => Inserted graph node
    state.insertedEdges) (fun inEdge entering before current keeps turned =>
      (contractInEdge_spec keeps entering turned).1) inserted_nil folded
  have covers := foldlM_each
    (fun state : Contraction => Inserted graph node state.insertedEdges)
    (fun inEdge state => CoversFrom graph node inEdge state.insertedEdges)
    (fun inEdge entering before current keeps turned =>
      (contractInEdge_spec keeps entering turned).1)
    (fun inEdge entering before current keeps turned =>
      (contractInEdge_spec keeps entering turned).2.1)
    (fun inEdge entering other before current keeps done turned set ne outEdge leaving =>
      (done set ne outEdge leaving).mono (contractInEdge_spec keeps entering turned).2.2)
    inserted_nil folded
  refine ⟨⟨mergeLoop_over inserted.spans, ?_⟩, ?_⟩
  case refine_1 =>
    intro tail head weight
    rw [mergeLoop_goes ContractorEdgeData.forward (fun _ _ => rfl) (Nat.le_refl _),
      mergeLoop_goes ContractorEdgeData.backward (fun _ _ => rfl) (Nat.le_refl _)]
    exact inserted.twin
  case refine_2 =>
    intro inEdge entering set ne outEdge leaving on ne'
    exact (covers inEdge entering set ne outEdge leaving on ne').merged

/-! ## What may go wrong -/

/-- The heap that the targets are collected in: nothing has left it, and the limit of the search
leaves room for another edge. -/
structure Opened (graph : ContractorGraph) (state : Targets) : Prop where
  distinct : state.heap.Distinct
  inside : ∀ entry ∈ state.heap, entry.inHeap = true
  roomy : Roomy graph state.maxWeight

theorem Opened.addTarget {state : Targets} (opened : Opened graph state)
    (entering : inEdge ∈ graph.adjacent node) (leaving : outEdge ∈ graph.adjacent node) :
    FailsOnly (Overflows graph) (addTarget node source inEdge.data state outEdge) ∧
      ∀ {after}, addTarget node source inEdge.data state outEdge = .ok after →
        Opened graph after := by
  rw [Routing.addTarget]
  split
  case isTrue => exact ⟨failsOnly_ok, fun same => by cases same; exact opened⟩
  case isFalse =>
    split
    case isTrue => exact ⟨failsOnly_ok, fun same => by cases same; exact opened⟩
    case isFalse =>
      constructor
      case left =>
        refine (addWeight_fails (roomy_of_mem entering) leaving).bind fun pathWeight _ => ?_
        split
        case isTrue => split <;> exact failsOnly_ok
        case isFalse => split <;> exact failsOnly_ok
      case right =>
        intro after added
        obtain ⟨pathWeight, summed, added⟩ := bind_eq_ok_iff.mp added
        obtain ⟨rfl, _⟩ := addWeight_eq_ok summed
        have roomy : Roomy graph
            (max state.maxWeight (inEdge.data.weight + outEdge.data.weight)) := by
          intro light
          have limit := opened.roomy light
          have first : 3 * inEdge.data.weight ≤ invalidEdgeWeight := by
            by_contra large
            exact light ⟨node, inEdge, entering, Nat.lt_of_not_le large⟩
          have second : 3 * outEdge.data.weight ≤ invalidEdgeWeight := by
            by_contra large
            exact light ⟨node, outEdge, leaving, Nat.lt_of_not_le large⟩
          omega
        split at added
        case isTrue =>
          split at added <;>
          · cases added
            exact ⟨opened.distinct, opened.inside, opened.roomy⟩
        case isFalse =>
          split at added
          case isTrue =>
            cases added
            exact ⟨opened.distinct, opened.inside, roomy⟩
          case isFalse fresh =>
            cases added
            have absent := QueryHeap.getHeapNode_of_not_inserted fresh
            refine ⟨opened.distinct.insert absent, fun entry member => ?_, roomy⟩
            rw [QueryHeap.insert, List.mem_append, List.mem_singleton] at member
            rcases member with before | rfl
            · exact opened.inside entry before
            · rfl

theorem addShortcut_fails {edges : List ContractorEdge} {heap : ContractorHeap}
    (entering : inEdge ∈ graph.adjacent node) (leaving : outEdge ∈ graph.adjacent node)
    (collected : outEdge.data.forward = true → outEdge.target ≠ node →
      outEdge.target ∈ heap.map HeapNode.node) :
    FailsOnly (Overflows graph) (addShortcut node source inEdge.data heap edges outEdge) := by
  rw [addShortcut]
  split
  case isTrue => exact failsOnly_ok
  case isFalse enabled =>
    rw [Bool.not_eq_true', Bool.not_eq_false] at enabled
    split
    case isTrue => exact failsOnly_ok
    case isFalse no_loop =>
      rw [beq_iff_eq] at no_loop
      refine (addWeight_fails (roomy_of_mem entering) leaving).bind fun pathWeight _ => ?_
      obtain ⟨entry, stored⟩ := Option.ne_none_iff_exists'.mp fun absent =>
        QueryHeap.getHeapNode_eq_none.mp absent (collected enabled no_loop)
      rw [QueryHeap.getKey, stored, Option.map_some, Systems.found]
      refine failsOnly_ok.bind fun weight _ => ?_
      split <;> exact failsOnly_ok

theorem contractInEdge_fails {state : Contraction}
    (inserted : Inserted graph node state.insertedEdges) (entering : inEdge ∈ graph.adjacent node) :
    FailsOnly (Overflows graph) (contractInEdge graph node state inEdge) := by
  rw [contractInEdge]
  split
  case isTrue => exact failsOnly_ok
  case isFalse no_loop =>
    rw [beq_iff_eq] at no_loop
    split
    case isTrue => exact failsOnly_ok
    case isFalse enabled =>
      rw [Bool.not_eq_true', Bool.not_eq_false] at enabled
      have opened : Opened graph ⟨state, QueryHeap.insert [] inEdge.target 0 ⟨0, false⟩, 0, 0⟩ := by
        refine ⟨List.nodup_singleton _, fun entry member => ?_, fun _ => Nat.zero_le _⟩
        obtain rfl := List.mem_singleton.mp member
        rfl
      have collecting : Collecting graph node inEdge.target
          ⟨state, QueryHeap.insert [] inEdge.target 0 ⟨0, false⟩, 0, 0⟩ :=
        ⟨inserted, reached_source graph node inEdge.target, List.mem_singleton_self _⟩
      refine FailsOnly.bind ?_ fun targets collected => ?_
      case refine_1 =>
        exact FailsOnly.foldlM (Opened graph)
          (fun outEdge leaving before opened => (opened.addTarget entering leaving).1)
          (fun outEdge leaving before current opened => (opened.addTarget entering leaving).2)
          opened
      case refine_2 =>
        have ready := foldlM_invariant (Opened graph)
          (fun outEdge leaving before current opened => (opened.addTarget entering leaving).2)
          opened collected
        have all_collected := collecting.collected entering rfl enabled no_loop collected
        refine FailsOnly.bind (contractorSearch_fails
          (QueryHeap.ordered_of_inHeap ready.distinct ready.inside) ready.roomy)
          fun searched search => FailsOnly.bind ?_ fun edges added => failsOnly_ok
        refine FailsOnly.foldlM (fun _ => True) (fun outEdge leaving before _ => ?_)
          (fun _ _ _ _ _ _ => trivial) trivial
        exact addShortcut_fails entering leaving fun on ne =>
          contractorSearch_inserted (all_collected outEdge leaving on ne) search

/-- A way through the middle of three nodes that is too heavy for a sum. -/
def heavyGraph : ContractorGraph where
  numberOfEdges := 2
  nodeArray := [⟨0, 0⟩, ⟨0, 2⟩, ⟨2, 0⟩]
  edgeList := [⟨0, .ofValues invalidEdgeWeight 1 1 0 false false true⟩,
    ⟨2, .ofValues invalidEdgeWeight 1 1 0 false true false⟩]

end Loops

end Proximity.Routing
