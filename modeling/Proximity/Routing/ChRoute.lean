import Proximity.Routing.ChSearchExact

/-!
# What the search of a hierarchy returns

On a graph where ways that change the side once are as light as any walk, the weight is the least
one between the ends, and the packed leg is a path that has it.
-/

namespace Proximity.Routing

open Proximity.Systems

/-- What a query graph promises: its targets are nodes, and its weights are positive. -/
structure Searchable (facade : QueryGraph) : Prop where
  small : facade.getNumberOfNodes ≤ specialNodeId
  closed : ∀ {id : ℕ} {entry : DynamicEdge QueryEdgeData}, entry ∈ facade.adjacent id →
    entry.target < facade.getNumberOfNodes
  positive : ∀ {id : ℕ} {entry : DynamicEdge QueryEdgeData}, entry ∈ facade.adjacent id →
    0 < entry.data.weight

/-- What a query promises of the nodes that the heaps start with. -/
structure Ends (facade : QueryGraph) (forwardHeap reverseHeap : ChHeap) : Prop where
  distinct : forwardHeap.Distinct ∧ reverseHeap.Distinct
  inside : ∀ {entry : HeapNode ℤ ChHeapData}, entry ∈ forwardHeap ∨ entry ∈ reverseHeap →
    entry.node < facade.getNumberOfNodes
  fresh : ∀ {entry : HeapNode ℤ ChHeapData}, entry ∈ forwardHeap ∨ entry ∈ reverseHeap →
    entry.inHeap = true ∧ entry.data.parent = entry.node
  /-- Only the nodes of the forward heap have negative offsets. -/
  positive : ∀ {entry : HeapNode ℤ ChHeapData}, entry ∈ reverseHeap → 0 ≤ entry.weight
  /-- No way is so light that a loop had to be added. -/
  sums : ∀ {total : ℤ}, (searchSides facade forwardHeap reverseHeap).Meets total → 0 ≤ total

/-- `min_edge_offset`. -/
def minEdgeOffset (forwardHeap : ChHeap) : ℤ :=
  min 0 (forwardHeap.minKey.getD 0)

section Results

variable {facade : QueryGraph} {forwardHeap reverseHeap : ChHeap} {bound total : ℤ} {limit : ℕ}
  {route : ChRoute}

theorem Ends.begun (ends : Ends facade forwardHeap reverseHeap) :
    Begun facade forwardHeap reverseHeap (minEdgeOffset forwardHeap) := by
  refine ⟨ends.distinct, ends.inside, ends.fresh, ?_, ends.positive, Int.min_le_left _ _,
    ends.sums⟩
  intro entry member
  rw [minEdgeOffset, QueryHeap.minKey]
  cases least : leastInHeap forwardHeap with
  | none =>
      have gone := QueryHeap.leastInHeap_eq_none.mp least entry member
      rw [(ends.fresh (Or.inl member)).1] at gone
      cases gone
  | some first =>
      have le := (QueryHeap.leastInHeap_spec least).2.2 entry member
        (ends.fresh (Or.inl member)).1
      exact Int.le_trans (Int.min_le_right _ _) le

/-- The search starts from heaps that hold what the invariant asks for. -/
theorem Begun.searching {offset : ℤ} (begun : Begun facade forwardHeap reverseHeap offset)
    (bound : ℤ) (limit : ℕ) :
    Searching (searchSides facade forwardHeap reverseHeap) bound offset limit true forwardHeap
      reverseHeap ⟨specialNodeId, bound⟩ := by
  have side : ∀ (direction : Bool) {heap : ChHeap},
      (if direction then forwardHeap else reverseHeap) = heap → heap.Distinct →
      (∀ {entry : HeapNode ℤ ChHeapData}, entry ∈ heap →
        entry.inHeap = true ∧ entry.data.parent = entry.node) →
      SideSound (searchSides facade forwardHeap reverseHeap) direction heap ∧
        ∀ total, Tracks (searchSides facade forwardHeap reverseHeap) direction total heap := by
    rintro direction heap rfl distinct fresh
    have starts : ∀ {node : ℕ} {entry : HeapNode ℤ ChHeapData},
        (if direction then forwardHeap else reverseHeap).getHeapNodeIfWasInserted node =
          some entry →
        (searchSides facade forwardHeap reverseHeap).starts direction node entry.weight :=
      fun found => ⟨_, found, rfl⟩
    refine ⟨⟨distinct, ?_, ?_⟩, fun total => ⟨fun begins _ => begins, ?_⟩⟩
    case refine_1 =>
      intro node entry found
      exact ⟨node, entry.weight, 0, starts found, Walk.nil node, by omega⟩
    case refine_2 =>
      intro node entry found
      obtain ⟨member, same⟩ := QueryHeap.mem_of_getHeapNode found
      exact Or.inl ⟨(fresh member).2.trans same, starts found⟩
    case refine_3 =>
      intro node target weight entry found gone
      rw [(fresh (QueryHeap.mem_of_getHeapNode found).1).1] at gone
      cases gone
  obtain ⟨sound, tracks⟩ := side true rfl begun.distinct.1
    fun member => begun.fresh (Or.inl member)
  obtain ⟨soundOther, tracksOther⟩ := side false rfl begun.distinct.2
    fun member => begun.fresh (Or.inr member)
  refine ⟨⟨sound, soundOther, Or.inl ⟨rfl, rfl⟩⟩, fun _ _ _ => ⟨tracks _, tracksOther _, ?_⟩⟩
  intro node first second found gone
  rw [(begun.fresh (Or.inl (QueryHeap.mem_of_getHeapNode found).1)).1] at gone
  cases gone

/-- A node that a side has inserted is a node of the graph. -/
theorem Ends.inside_of_reaches (ends : Ends facade forwardHeap reverseHeap)
    (searchable : Searchable facade) {side : Bool} {node : ℕ} {key : ℤ}
    (reaches : (searchSides facade forwardHeap reverseHeap).Reaches side node key) :
    node < facade.getNumberOfNodes := by
  obtain ⟨start, first, weight, ⟨entry, found, -⟩, walk, -⟩ := reaches
  have start_in : start < facade.getNumberOfNodes := by
    obtain ⟨member, rfl⟩ := QueryHeap.mem_of_getHeapNode found
    cases side with
    | true => exact ends.inside (Or.inl member)
    | false => exact ends.inside (Or.inr member)
  clear found
  induction walk with
  | nil => exact start_in
  | cons arc _ ih =>
      obtain ⟨edge, member, rfl, _⟩ := arc
      exact ih (searchable.closed member)

/-- The hops that a packed leg may take, from one node to another one. -/
def hops (facade : QueryGraph) : Arcs ℕ := fun tail head weight => tail ≠ head ∧
  (searchArcs facade true tail head weight ∨ searchArcs facade false head tail weight)

/-- What the loop leaves of a search that has returned. -/
theorem chSearch_cases (ends : Ends facade forwardHeap reverseHeap) (searchable : Searchable facade)
    (complete : (searchSides facade forwardHeap reverseHeap).Complete limit)
    (searched : chSearch facade forwardHeap reverseHeap [] [] bound = .ok route) :
    ((∀ total, ¬(searchSides facade forwardHeap reverseHeap).Meets total) ∧
      route = ⟨invalidEdgeWeight, []⟩) ∨
    ∃ state : ChSearchState, routeOf bound state = .ok route ∧
      Searching (searchSides facade forwardHeap reverseHeap) bound (minEdgeOffset forwardHeap)
        limit true state.forwardHeap state.reverseHeap state.meeting ∧
      Idle state.forwardHeap ∧ Idle state.reverseHeap := by
  have absent : ∀ {heap : ChHeap}, (∀ entry ∈ heap, entry.inHeap = true) →
      heap.minKey = none → ∀ node, heap.getHeapNodeIfWasInserted node = none := by
    intro heap fresh none node
    rw [QueryHeap.minKey, Option.map_eq_none_iff, QueryHeap.leastInHeap_eq_none] at none
    rw [Option.eq_none_iff_forall_ne_some]
    intro entry found
    have member := (QueryHeap.mem_of_getHeapNode found).1
    exact Bool.false_ne_true ((none entry member).symm.trans (fresh entry member))
  rw [chSearch] at searched
  split at searched
  case h_1 least _ found _ =>
    refine Or.inr ?_
    obtain ⟨state, ran, returned⟩ := bind_eq_ok_iff.mp searched
    have offset : min 0 least = minEdgeOffset forwardHeap := by
      rw [minEdgeOffset, found, Option.getD_some]
    rw [offset] at ran
    have enough : (⟨forwardHeap, reverseHeap, ⟨specialNodeId, bound⟩⟩ : ChSearchState).pending
        facade.getNumberOfNodes ≤ 2 * facade.getNumberOfNodes := by
      have forth := pending_le ends.distinct.1 fun member => ends.inside (Or.inl member)
      have back := pending_le ends.distinct.2 fun member => ends.inside (Or.inr member)
      rw [ChSearchState.pending]
      dsimp only
      omega
    exact ⟨state, returned, searchLoop_spec searchable.closed ends.begun complete enough
      (ends.begun.searching bound limit) ran⟩
  case h_2 none =>
    cases searched
    refine Or.inl ⟨?_, rfl⟩
    rintro total ⟨node, first, second, ⟨start, key, _, ⟨entry, found, -⟩, -⟩,
      ⟨finish, key', _, ⟨entry', found', -⟩, -⟩, -⟩
    cases forth : forwardHeap.minKey with
    | none =>
        have gone := absent (fun entry member => (ends.fresh (Or.inl member)).1) forth start
        exact Option.some_ne_none entry (found.symm.trans gone)
    | some least =>
        cases back : reverseHeap.minKey with
        | none =>
            have gone := absent (fun entry member => (ends.fresh (Or.inr member)).1) back finish
            exact Option.some_ne_none entry' (found'.symm.trans gone)
        | some least' => exact none least least' forth back

/-- The weight that a search returns is the weight of a way, or invalid. -/
theorem chSearch_sound (ends : Ends facade forwardHeap reverseHeap)
    (searchable : Searchable facade)
    (complete : (searchSides facade forwardHeap reverseHeap).Complete limit)
    (searched : chSearch facade forwardHeap reverseHeap [] [] bound = .ok route) :
    route = ⟨invalidEdgeWeight, []⟩ ∨
      (searchSides facade forwardHeap reverseHeap).Meets route.weight := by
  rcases chSearch_cases ends searchable complete searched with
    ⟨_, none⟩ | ⟨state, returned, searching, _⟩
  case inl => exact Or.inl none
  case inr =>
    rw [routeOf] at returned
    split at returned
    case isTrue =>
      cases returned
      exact Or.inl rfl
    case isFalse found =>
      refine Or.inr ?_
      rcases searching.explored.met with ⟨unmet, _⟩ | ⟨_, meets, _⟩
      case inl => exact absurd (Or.inr unmet) found
      case inr =>
        split at returned
        case h_2 => cases returned
        case h_1 =>
          split at returned
          case h_1 => cases returned
          case h_2 =>
            split at returned <;>
            · cases returned
              exact meets

/-- The weight of the lightest way is returned, with a path that has it. -/
theorem chSearch_least (ends : Ends facade forwardHeap reverseHeap)
    (searchable : Searchable facade)
    (complete : (searchSides facade forwardHeap reverseHeap).Complete limit)
    (searched : chSearch facade forwardHeap reverseHeap [] [] bound = .ok route)
    (least : (searchSides facade forwardHeap reverseHeap).IsLeast total) (below : total < bound)
    (small : total - minEdgeOffset forwardHeap ≤ limit) :
    route.weight = total ∧ ∃ start finish first second weight,
      (searchSides facade forwardHeap reverseHeap).starts true start first ∧
      (searchSides facade forwardHeap reverseHeap).starts false finish second ∧
      Path (hops facade) start route.packedLeg finish weight ∧
      first + (weight : ℤ) + second = total := by
  rcases chSearch_cases ends searchable complete searched with
    ⟨none, _⟩ | ⟨state, returned, ⟨explored, closing⟩, idle, idleOther⟩
  case inl => exact absurd least.meets (none total)
  case inr =>
    have reached : state.meeting.upperBound ≤ total := by
      by_contra above
      exact (closing least small (Int.lt_of_not_ge above)).not_idle least explored.sound
        explored.soundOther idle idleOther
    rcases explored.met with ⟨_, unmet⟩ | ⟨_, meets, first, second, found, also, le⟩
    case inl => omega
    case inr =>
      have same : state.meeting.upperBound = total :=
        Int.le_antisymm reached (least.least _ meets)
      have reaches := explored.sound.reaches found
      have reaches' := explored.soundOther.reaches also
      have sum := least.least _ (reaches.meets reaches')
      have inside := ends.inside_of_reaches searchable reaches
      have real : state.meeting.middle ≠ specialNodeId := by
        have := searchable.small
        omega
      have positive : ∀ {direction : Bool} {tail head weight : ℕ},
          searchArcs facade direction tail head weight → 0 < weight := by
        rintro direction tail head weight ⟨edge, member, _, _, rfl⟩
        exact searchable.positive member
      obtain ⟨start, key, weight, starts, path, total_key⟩ :=
        retrieveLoop_path explored.sound positive found (List.countP_lt_length_iff.mpr
          ⟨first, (QueryHeap.mem_of_getHeapNode found).1, by simp⟩)
      obtain ⟨finish, key', weight', ends', path', total_key'⟩ :=
        retrieveLoop_path explored.soundOther positive also (List.countP_lt_length_iff.mpr
          ⟨second, (QueryHeap.mem_of_getHeapNode also).1, by simp⟩)
      rw [routeOf, if_neg (by rw [not_or, not_le]; exact ⟨by omega, real⟩), QueryHeap.getKey,
        QueryHeap.getKey, found, also] at returned
      dsimp only [Option.map_some] at returned
      split at returned
      case h_1 => cases returned
      case h_2 length added =>
        obtain rfl := addEdgeWeight_eq_ok added
        rw [if_neg (by omega)] at returned
        cases returned
        refine ⟨same, start, finish, key, key', weight + weight', starts, ends', ?_, by omega⟩
        rw [retrievePackedPathFromHeap, retrievePackedPathFromSingleHeap,
          retrievePackedPathFromSingleHeap, ← List.reverse_cons]
        exact (path.reverse fun arc => ⟨Ne.symm arc.1, Or.inl arc.2⟩).append
          (path'.mono fun arc => ⟨arc.1, Or.inr arc.2⟩)

end Results

end Proximity.Routing
