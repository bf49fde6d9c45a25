import Proximity.Routing.Unpacking

/-!
# From the extracted edges to a shortest route

The edges of the extractor are contracted round by round, the contracted graph is searched from
both ends, and the leg that is found is unpacked.  What comes out is a shortest way along the
extracted edges.
-/

namespace Proximity.Routing

open Proximity.Systems

/-! ## The query graph of an input -/

/-- A way between the nodes of two heaps, with their keys. -/
def Trips (arcs : Arcs ℕ) (forwardHeap reverseHeap : ChHeap) (total : ℤ) : Prop :=
  ∃ first ∈ forwardHeap, ∃ last ∈ reverseHeap, ∃ weight : ℕ,
    Walk arcs first.node last.node weight ∧ first.weight + (weight : ℤ) + last.weight = total

/-- What a query promises of the nodes that the heaps start with. -/
structure Phantoms (numberOfNodes : ℕ) (inputEdgeList : List EdgeBasedEdge)
    (forwardHeap reverseHeap : ChHeap) : Prop where
  distinct : forwardHeap.Distinct ∧ reverseHeap.Distinct
  inside : ∀ {entry : HeapNode ℤ ChHeapData}, entry ∈ forwardHeap ∨ entry ∈ reverseHeap →
    entry.node < numberOfNodes
  fresh : ∀ {entry : HeapNode ℤ ChHeapData}, entry ∈ forwardHeap ∨ entry ∈ reverseHeap →
    entry.inHeap = true ∧ entry.data.parent = entry.node
  positive : ∀ {entry : HeapNode ℤ ChHeapData}, entry ∈ reverseHeap → 0 ≤ entry.weight
  /-- Source and target are not on one segment with the target behind. -/
  sums : ∀ {total : ℤ}, Trips (inputArcs inputEdgeList) forwardHeap reverseHeap total → 0 ≤ total

/-- A query graph that was built of an input, with every node contracted.  The ids of shortcuts
have 31 bits. -/
structure Built (numberOfNodes : ℕ) (inputEdgeList : List EdgeBasedEdge) (facade : QueryGraph) :
    Prop where
  extracted : Extracted numberOfNodes inputEdgeList
  bits : numberOfNodes ≤ 2 ^ 31
  built : ∃ (Priority : Type) (_ : LinearOrder Priority) (sorted : List ContractorEdge)
    (final : ContractionState) (edges : List QueryEdge),
    SortsTo (expandEdges inputEdgeList) sorted ∧
    ContractGraph Priority (initialState (toContractorGraph numberOfNodes sorted)) final ∧
    SortsTo (toEdges final.graph) edges ∧
    facade = toQueryGraph numberOfNodes edges

section Input

variable {numberOfNodes : ℕ} {inputEdgeList : List EdgeBasedEdge} {facade : QueryGraph}
  {forwardHeap reverseHeap : ChHeap} {tail head weight : ℕ} {total : ℤ}

/-- The query graph has the nodes and the edges of a contracted graph. -/
theorem Built.contracted (built : Built numberOfNodes inputEdgeList facade) :
    ∃ (Priority : Type) (_ : LinearOrder Priority) (sorted : List ContractorEdge)
      (final : ContractionState), SortsTo (expandEdges inputEdgeList) sorted ∧
      ContractGraph Priority (initialState (toContractorGraph numberOfNodes sorted)) final ∧
      Run Priority (initialState (toContractorGraph numberOfNodes sorted)) (Equiv.refl ℕ) final ∧
      final.graph.getNumberOfNodes = numberOfNodes ∧
      facade.getNumberOfNodes = numberOfNodes ∧
      ∀ {id : ℕ} {entry : DynamicEdge QueryEdgeData}, entry ∈ facade.adjacent id ↔
        ∃ edge ∈ final.graph.adjacent id, toQueryEntry edge = entry := by
  obtain ⟨Priority, order, sorted, final, edges, sorts, contraction, ordered, rfl⟩ :=
    built.built
  have contractible := contractible_initialState built.extracted sorts
  have run := (contraction.run contractible).1
  have count : final.graph.getNumberOfNodes = numberOfNodes :=
    (run.edges contractible).1.trans
      (DynamicGraph.getNumberOfNodes_ofEdges (sortedBy_merged sorts))
  refine ⟨Priority, order, sorted, final, sorts, contraction, run, count,
    StaticGraph.getNumberOfNodes_ofSortedEdges _ ordered.sortedBy, ?_⟩
  intro id entry
  rw [← count]
  exact mem_toQueryGraph ordered

theorem searchArcs_iff {graph : ContractorGraph}
    (edges : ∀ {id : ℕ} {entry : DynamicEdge QueryEdgeData}, entry ∈ facade.adjacent id ↔
      ∃ edge ∈ graph.adjacent id, toQueryEntry edge = entry) :
    (searchArcs facade true tail head weight ↔ forwardArcs graph tail head weight) ∧
      (searchArcs facade false tail head weight ↔ backwardArcs graph head tail weight) := by
  constructor
  · constructor
    · rintro ⟨_, member, rfl, opened, rfl⟩
      obtain ⟨edge, there, rfl⟩ := edges.mp member
      exact ⟨edge, there, rfl, opened, rfl⟩
    · rintro ⟨edge, there, rfl, forward, rfl⟩
      exact ⟨_, edges.mpr ⟨edge, there, rfl⟩, rfl, forward, rfl⟩
  · constructor
    · rintro ⟨_, member, rfl, opened, rfl⟩
      obtain ⟨edge, there, rfl⟩ := edges.mp member
      exact ⟨edge, there, rfl, opened, rfl⟩
    · rintro ⟨edge, there, rfl, backward, rfl⟩
      exact ⟨_, edges.mpr ⟨edge, there, rfl⟩, rfl, backward, rfl⟩

variable (built : Built numberOfNodes inputEdgeList facade)

include built

theorem Built.searchable : Searchable facade := by
  obtain ⟨Priority, order, sorted, final, sorts, _, run, count, nodes, edges⟩ := built.contracted
  have contractible := contractible_initialState built.extracted sorts
  refine ⟨by rw [nodes]; exact built.extracted.small, ?_, ?_⟩
  case refine_1 =>
    intro id entry member
    obtain ⟨edge, there, rfl⟩ := edges.mp member
    rw [nodes, ← count]
    exact (run.contractible contractible).closed.inside there
  case refine_2 =>
    intro id entry member
    obtain ⟨edge, there, rfl⟩ := edges.mp member
    rcases (run.edges contractible).2 there with ⟨edge, before, rfl⟩ | ⟨_, positive⟩
    case inr => exact positive
    case inl =>
      rw [renameEntry_refl]
      refine contractible.positive ((alive_initialState sorts).mpr ?_) before
      obtain ⟨merged, new, rfl, _⟩ := (mem_toContractorGraph built.extracted sorts).mp before
      exact (inside_merged built.extracted sorts merged new).1

/-- Ways in the query graph weigh what walks of the input do, and no more. -/
theorem Built.distances :
    (∀ {source target weight : ℕ},
      Walk (fun tail head weight => searchArcs facade true tail head weight ∨
        searchArcs facade false head tail weight) source target weight →
      Within (inputArcs inputEdgeList) source target weight) ∧
    ∀ {source target weight : ℕ}, Within (inputArcs inputEdgeList) source target weight →
      weight < invalidEdgeWeight → ∃ middle first second,
        Walk (searchArcs facade true) source middle first ∧
        Walk (searchArcs facade false) target middle second ∧ first + second ≤ weight := by
  obtain ⟨Priority, order, sorted, final, sorts, _, run, count, nodes, edges⟩ := built.contracted
  have contractible := contractible_initialState built.extracted sorts
  have known : ∀ {source target weight : ℕ},
      Within (initialState (toContractorGraph numberOfNodes sorted)).arcs source target weight ↔
        Within (inputArcs inputEdgeList) source target weight :=
    within_initialState built.extracted sorts
  have alive : ∀ {id : ℕ} {edge : DynamicEdge ContractorEdgeData},
      edge ∈ final.graph.adjacent id →
      (initialState (toContractorGraph numberOfNodes sorted)).Alive id := by
    intro id edge member
    rw [alive_initialState sorts]
    by_contra outside
    rw [DynamicGraph.adjacent_of_le (by rw [count]; omega)] at member
    exact absurd member List.not_mem_nil
  constructor
  case left =>
    intro source target weight walk
    refine known.mp (walk.detour fun arc => ?_)
    rcases arc with forth | back
    · obtain ⟨edge, member, rest⟩ := (searchArcs_iff edges).1.mp forth
      exact (run.sound contractible).1 (alive member) ⟨edge, member, rest⟩
    · obtain ⟨edge, member, rest⟩ := (searchArcs_iff edges).2.mp back
      exact (run.sound contractible).2 (alive member) ⟨edge, member, rest⟩
  case right =>
    intro source target weight within below
    obtain ⟨shorter, le, walk⟩ := known.mpr within
    obtain ⟨middle, first, second, up, down, sum⟩ :=
      run.upDown contractible walk (Nat.lt_of_le_of_lt le below)
    exact ⟨middle, first, second, up.mono fun arc => (searchArcs_iff edges).1.mpr arc,
      down.reverse fun arc => (searchArcs_iff edges).2.mpr arc, by omega⟩

theorem Built.complete :
    (searchSides facade forwardHeap reverseHeap).Complete invalidEdgeWeight :=
  fun _ _ _ walk below => built.distances.2 (built.distances.1 walk) below

/-- The query graph is a hierarchy. -/
theorem Built.hierarchy : ∃ level, QueryHierarchy facade level := by
  obtain ⟨Priority, order, sorted, final, sorts, contraction, _, count, nodes, edges⟩ :=
    built.contracted
  obtain ⟨level, hierarchy⟩ := exists_hierarchy built.extracted sorts contraction
  have small : ∀ {middle source target weight : ℕ},
      Through final.graph middle source target weight → middle % 2 ^ 31 = middle := by
    rintro middle source target weight ⟨edge, member, _⟩
    refine Nat.mod_eq_of_lt (Nat.lt_of_lt_of_le ?_ built.bits)
    by_contra outside
    rw [DynamicGraph.adjacent_of_le (by rw [count]; omega)] at member
    exact absurd member List.not_mem_nil
  have halves : ∀ {middle source target weight : ℕ},
      Through final.graph middle source target weight → ∃ first second,
        searchArcs facade false middle source first ∧
        searchArcs facade true middle target second ∧ first + second = weight := by
    rintro middle source target weight
      ⟨inEdge, entering, outEdge, leaving, rfl, backward, rfl, forward, sum⟩
    exact ⟨_, _, (searchArcs_iff edges).2.mpr ⟨inEdge, entering, rfl, backward, rfl⟩,
      (searchArcs_iff edges).1.mpr ⟨outEdge, leaving, rfl, forward, rfl⟩, sum⟩
  refine ⟨level, ?_, ?_, ?_, ?_⟩
  case refine_1 =>
    intro id entry member
    obtain ⟨edge, there, rfl⟩ := edges.mp member
    exact hierarchy.climbs there
  case refine_2 =>
    intro id entry member shortcut
    obtain ⟨edge, there, rfl⟩ := edges.mp member
    have same : edge.data.id % 2 ^ 31 = edge.data.id := by
      rcases hierarchy.flagged there shortcut with forward | backward
      · exact small (hierarchy.forth there shortcut forward)
      · exact small (hierarchy.back there shortcut backward)
    have below := hierarchy.below there shortcut
    rw [← same] at below
    exact below
  case refine_3 =>
    intro id entry member shortcut forward
    obtain ⟨edge, there, rfl⟩ := edges.mp member
    have through := hierarchy.forth there shortcut forward
    have split := halves through
    rw [← small through] at split
    exact split
  case refine_4 =>
    intro id entry member shortcut backward
    obtain ⟨edge, there, rfl⟩ := edges.mp member
    have through := hierarchy.back there shortcut backward
    have split := halves through
    rw [← small through] at split
    exact split

/-- An edge that is no shortcut is one of the input. -/
theorem Built.original (arc : originals facade tail head weight) :
    inputArcs inputEdgeList tail head weight := by
  obtain ⟨Priority, order, sorted, final, sorts, _, run, count, nodes, edges⟩ := built.contracted
  have contractible := contractible_initialState built.extracted sorts
  have merged : ∀ {id : ℕ} {edge : DynamicEdge ContractorEdgeData},
      edge ∈ final.graph.adjacent id → edge.data.shortcut = false →
      ∃ first ∈ mergeParallel sorted.length sorted, first.source = id ∧ first.entry = edge := by
    intro id edge there single
    rcases (run.edges contractible).2 there with ⟨edge, before, rfl⟩ | ⟨shortcut, _⟩
    · rw [renameEntry_refl]
      exact (mem_toContractorGraph built.extracted sorts).mp before
    · rw [single] at shortcut
      cases shortcut
  obtain ⟨_, entry, stands, single, rfl⟩ := arc
  rcases stands with ⟨member, rfl, forward⟩ | ⟨member, rfl, backward⟩
  case inl =>
    obtain ⟨edge, there, rfl⟩ := edges.mp member
    obtain ⟨first, new, source, rfl⟩ := merged there single
    exact (inputArcs_of_merged sorts).1 ⟨first, new, source, rfl, forward, rfl⟩
  case inr =>
    obtain ⟨edge, there, rfl⟩ := edges.mp member
    obtain ⟨first, new, source, rfl⟩ := merged there single
    exact (inputArcs_of_merged sorts).2 ⟨first, new, source, rfl, backward, rfl⟩

theorem Built.trip_of_meets
    (meets : (searchSides facade forwardHeap reverseHeap).Meets total) :
    ∃ other ≤ total, Trips (inputArcs inputEdgeList) forwardHeap reverseHeap other := by
  obtain ⟨middle, _, _, ⟨start, _, weight, ⟨first, found, rfl⟩, up, rfl⟩,
    ⟨finish, _, weight', ⟨last, found', rfl⟩, down, rfl⟩, rfl⟩ := meets
  obtain ⟨member, rfl⟩ := QueryHeap.mem_of_getHeapNode found
  obtain ⟨member', rfl⟩ := QueryHeap.mem_of_getHeapNode found'
  obtain ⟨shorter, le, walk⟩ :=
    built.distances.1 ((up.mono Or.inl).append (down.reverse Or.inr))
  exact ⟨first.weight + shorter + last.weight, by omega,
    first, member, last, member', shorter, walk, rfl⟩

variable (phantoms : Phantoms numberOfNodes inputEdgeList forwardHeap reverseHeap)

include phantoms

theorem Built.ends : Ends facade forwardHeap reverseHeap := by
  obtain ⟨_, _, _, _, _, _, _, _, nodes, _⟩ := built.contracted
  refine ⟨phantoms.distinct, fun member => ?_, phantoms.fresh, phantoms.positive, fun meets => ?_⟩
  case refine_1 =>
    rw [nodes]
    exact phantoms.inside member
  case refine_2 =>
    obtain ⟨other, le, trip⟩ := built.trip_of_meets meets
    exact le_trans (phantoms.sums trip) le

theorem Built.meets_of_trip (trip : Trips (inputArcs inputEdgeList) forwardHeap reverseHeap total)
    (small : total - minEdgeOffset forwardHeap < invalidEdgeWeight) :
    ∃ other ≤ total, (searchSides facade forwardHeap reverseHeap).Meets other := by
  obtain ⟨first, member, last, member', weight, walk, rfl⟩ := trip
  have low := (built.ends phantoms).begun.bounded member
  have high := phantoms.positive member'
  obtain ⟨middle, one, other, up, down, sum⟩ :=
    built.distances.2 walk.within (by omega)
  refine ⟨first.weight + one + (last.weight + other), by omega, middle, _, _,
    ⟨first.node, first.weight, one, ⟨first, ?_, rfl⟩, up, rfl⟩,
    ⟨last.node, last.weight, other, ⟨last, ?_, rfl⟩, down, rfl⟩, rfl⟩
  · exact QueryHeap.getHeapNode_of_mem phantoms.distinct.1 member
  · exact QueryHeap.getHeapNode_of_mem phantoms.distinct.2 member'

/-- The least trip is the least way of the search. -/
theorem Built.isLeast (trip : Trips (inputArcs inputEdgeList) forwardHeap reverseHeap total)
    (least : ∀ {other : ℤ}, Trips (inputArcs inputEdgeList) forwardHeap reverseHeap other →
      total ≤ other) (small : total - minEdgeOffset forwardHeap < invalidEdgeWeight) :
    (searchSides facade forwardHeap reverseHeap).IsLeast total := by
  have above : ∀ other, (searchSides facade forwardHeap reverseHeap).Meets other →
      total ≤ other := by
    intro other meets
    obtain ⟨shorter, le, also⟩ := built.trip_of_meets meets
    exact le_trans (least also) le
  obtain ⟨other, le, meets⟩ := built.meets_of_trip phantoms trip small
  rw [le_antisymm le (above other meets)] at meets
  exact ⟨meets, above⟩

end Input

/-! ## The routes of the chain -/

section Chain

def chainFacade : QueryGraph := toQueryGraph 3 (toEdges chainEnd.graph)

/-- A phantom on the first segment, behind its start, and one on the last. -/
def chainForward : ChHeap := [⟨true, 0, -2, ⟨0⟩⟩]

def chainReverse : ChHeap := [⟨true, 2, 1, ⟨2⟩⟩]

theorem chain_built : Built 3 chain chainFacade := by
  refine ⟨chain_extracted, by decide, ℕ, inferInstance, chainSorted, chainEnd,
    toEdges chainEnd.graph, chain_sorts, chain_contraction, ⟨List.Perm.refl _, ?_⟩, rfl⟩
  have edges : toEdges chainEnd.graph =
      [⟨0, 2, ⟨1, true, 11, 7, true, false⟩⟩, ⟨1, 0, ⟨7, false, 5, 3, false, true⟩⟩,
        ⟨1, 2, ⟨8, false, 6, 4, true, false⟩⟩] := by decide +kernel
  rw [edges]
  simp [edgeLe]

theorem inputArcs_chain {tail head weight : ℕ} : inputArcs chain tail head weight ↔
    (tail = 0 ∧ head = 1 ∧ weight = 5) ∨ (tail = 1 ∧ head = 2 ∧ weight = 6) := by
  simp only [inputArcs, chain, EdgeBasedEdge.Leads, List.mem_cons, List.not_mem_nil, or_false,
    exists_eq_or_imp, exists_eq_left, and_true, Bool.false_eq_true, and_false]
  constructor
  · rintro ⟨_, ⟨_, rfl, rfl, rfl⟩ | ⟨_, rfl, rfl, rfl⟩⟩
    · exact Or.inl ⟨rfl, rfl, rfl⟩
    · exact Or.inr ⟨rfl, rfl, rfl⟩
  · rintro (⟨rfl, rfl, rfl⟩ | ⟨rfl, rfl, rfl⟩) <;> decide

/-- What is left to the end of the chain. -/
def chainLabel (node : ℕ) : ℕ := if node = 0 then 11 else if node = 1 then 6 else 0

theorem chainLabel_le {source target weight : ℕ}
    (walk : Walk (inputArcs chain) source target weight) :
    chainLabel source ≤ weight + chainLabel target := by
  refine walk.label_le fun arc => ?_
  rcases inputArcs_chain.mp arc with ⟨rfl, rfl, rfl⟩ | ⟨rfl, rfl, rfl⟩ <;> decide

theorem chain_trip : Trips (inputArcs chain) chainForward chainReverse 10 := by
  refine ⟨_, List.mem_singleton_self _, _, List.mem_singleton_self _, 5 + 6, ?_, rfl⟩
  exact Walk.cons (inputArcs_chain.mpr (Or.inl ⟨rfl, rfl, rfl⟩))
    (Walk.single (inputArcs_chain.mpr (Or.inr ⟨rfl, rfl, rfl⟩)))

theorem chain_trip_least {other : ℤ}
    (trip : Trips (inputArcs chain) chainForward chainReverse other) : 10 ≤ other := by
  obtain ⟨first, member, last, member', weight, walk, rfl⟩ := trip
  obtain rfl := List.mem_singleton.mp member
  obtain rfl := List.mem_singleton.mp member'
  have least : 11 ≤ weight + 0 := chainLabel_le walk
  dsimp only
  omega

/-- A query between two single nodes. -/
theorem phantoms_of_pair {numberOfNodes first last : ℕ} {inputEdgeList : List EdgeBasedEdge}
    {key key' : ℤ} (inside : first < numberOfNodes) (inside' : last < numberOfNodes)
    (positive : 0 ≤ key') (sums : ∀ {total : ℤ}, Trips (inputArcs inputEdgeList)
      [⟨true, first, key, ⟨first⟩⟩] [⟨true, last, key', ⟨last⟩⟩] total → 0 ≤ total) :
    Phantoms numberOfNodes inputEdgeList [⟨true, first, key, ⟨first⟩⟩]
      [⟨true, last, key', ⟨last⟩⟩] := by
  refine ⟨⟨List.nodup_singleton _, List.nodup_singleton _⟩, ?_, ?_, ?_, sums⟩
  case refine_1 =>
    rintro entry (member | member) <;> obtain rfl := List.mem_singleton.mp member
    · exact inside
    · exact inside'
  case refine_2 =>
    rintro entry (member | member) <;> obtain rfl := List.mem_singleton.mp member <;>
      exact ⟨rfl, rfl⟩
  case refine_3 =>
    intro entry member
    obtain rfl := List.mem_singleton.mp member
    exact positive

theorem chain_phantoms : Phantoms 3 chain chainForward chainReverse :=
  phantoms_of_pair (by decide) (by decide) (by decide)
    fun trip => le_trans (by decide) (chain_trip_least trip)

/-- No edge leads back. -/
theorem chain_no_trip (total : ℤ) :
    ¬Trips (inputArcs chain) [⟨true, 2, 0, ⟨2⟩⟩] [⟨true, 0, 0, ⟨0⟩⟩] total := by
  rintro ⟨first, member, last, member', weight, walk, _⟩
  obtain rfl := List.mem_singleton.mp member
  obtain rfl := List.mem_singleton.mp member'
  cases walk with
  | cons arc _ =>
      rcases inputArcs_chain.mp arc with ⟨same, _⟩ | ⟨same, _⟩
      · exact absurd same (by decide)
      · exact absurd same (by decide)

theorem chain_phantoms_back : Phantoms 3 chain [⟨true, 2, 0, ⟨2⟩⟩] [⟨true, 0, 0, ⟨0⟩⟩] :=
  phantoms_of_pair (by decide) (by decide) (by decide) fun trip => absurd trip (chain_no_trip _)

end Chain

/-! ## The results -/

section Results

variable {numberOfNodes : ℕ} {inputEdgeList : List EdgeBasedEdge} {facade : QueryGraph}
  {forwardHeap reverseHeap : ChHeap} {total bound : ℤ} {route : ChRoute} {turns : ℕ}
  (built : Built numberOfNodes inputEdgeList facade)
  (phantoms : Phantoms numberOfNodes inputEdgeList forwardHeap reverseHeap)

include built phantoms

/-- Without a way between the ends, the search returns no leg. -/
theorem route_is_invalid
    (searched : chSearch facade forwardHeap reverseHeap [] [] bound = .ok route)
    (none : ∀ total : ℤ, ¬Trips (inputArcs inputEdgeList) forwardHeap reverseHeap total) :
    route = ⟨invalidEdgeWeight, []⟩ := by
  rcases chSearch_sound (built.ends phantoms) built.searchable built.complete searched with
    invalid | meets
  case inl => exact invalid
  case inr =>
    obtain ⟨other, _, trip⟩ := built.trip_of_meets meets
    exact absurd trip (none other)

omit built phantoms in
/-- Against the edges of the chain there is no route. -/
theorem route_back_of_chain : ∃ route, chSearch chainFacade [⟨true, 2, 0, ⟨2⟩⟩]
    [⟨true, 0, 0, ⟨0⟩⟩] [] [] invalidEdgeWeight = .ok route ∧ route = ⟨invalidEdgeWeight, []⟩ := by
  have searched : chSearch chainFacade [⟨true, 2, 0, ⟨2⟩⟩] [⟨true, 0, 0, ⟨0⟩⟩] [] []
      invalidEdgeWeight = .ok ⟨invalidEdgeWeight, []⟩ := by decide +kernel
  exact ⟨_, searched, route_is_invalid chain_built chain_phantoms_back searched chain_no_trip⟩

end Results

end Proximity.Routing
