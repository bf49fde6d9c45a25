import Proximity.Routing.ChSearchInvariant

/-!
# The weight that a search returns

With as many turns as the nodes allow both heaps run empty, and then no way is lighter than what
was met.
-/

namespace Proximity.Routing

open Proximity.Systems

/-! ## The number of turns -/

/-- The nodes in the heap, and those that may still be inserted. -/
def pending (nodes : ℕ) (heap : ChHeap) : ℕ :=
  heap.size + (List.range nodes).countP fun node => !heap.wasInserted node

section Pending

variable {nodes node : ℕ} {heap popped after : ChHeap} {heapNode : HeapNode ℤ ChHeapData}

theorem wasInserted_congr {other : ChHeap}
    (same : heap.map HeapNode.node = other.map HeapNode.node) (node : ℕ) :
    heap.wasInserted node = other.wasInserted node := by
  have any : ∀ heap : ChHeap, heap.wasInserted node =
      (heap.map HeapNode.node).any fun inserted => inserted == node := by
    intro heap
    rw [List.any_map]
    rfl
  rw [any, any, same]

theorem size_remove (distinct : heap.Distinct) {entry : HeapNode ℤ ChHeapData}
    (member : entry ∈ heap) (inside : entry.inHeap = true) :
    (heap.remove entry.node).size + 1 = heap.size := by
  induction heap with
  | nil => cases member
  | cons first rest ih =>
      obtain ⟨fresh, later⟩ := List.nodup_cons.mp distinct
      have cons : QueryHeap.remove (first :: rest) entry.node =
          (if first.node = entry.node then { first with inHeap := false } else first) ::
            QueryHeap.remove rest entry.node := rfl
      rw [cons, QueryHeap.size, QueryHeap.size, List.countP_cons, List.countP_cons]
      rcases List.mem_cons.mp member with rfl | member
      case inl =>
        have others : QueryHeap.remove rest entry.node = rest := by
          refine (List.map_congr_left fun other there => ?_).trans (List.map_id _)
          rw [if_neg]
          · rfl
          · exact fun same => fresh (same ▸ List.mem_map_of_mem there)
        rw [others, if_pos rfl, if_pos inside, if_neg Bool.false_ne_true]
      case inr =>
        have ne : first.node ≠ entry.node :=
          fun same => fresh (same ▸ List.mem_map_of_mem member)
        have rest := ih later member
        rw [QueryHeap.size, QueryHeap.size] at rest
        rw [if_neg ne]
        omega

theorem pending_congr (same : heap.map HeapNode.node = after.map HeapNode.node) :
    (List.range nodes).countP (fun node => !heap.wasInserted node) =
      (List.range nodes).countP fun node => !after.wasInserted node :=
  List.countP_congr fun node _ => by rw [wasInserted_congr same]

theorem pending_popped (nodes : ℕ) (distinct : heap.Distinct)
    (deleted : heap.deleteMin = some (heapNode, popped)) :
    pending nodes popped + 1 = pending nodes heap := by
  obtain ⟨least, rfl⟩ := QueryHeap.deleteMin_spec deleted
  obtain ⟨member, inside, _⟩ := QueryHeap.leastInHeap_spec least
  have size := size_remove distinct member inside
  have nodes : (heap.remove heapNode.node).map HeapNode.node = heap.map HeapNode.node :=
    QueryHeap.nodes_remove
  rw [pending, pending, pending_congr nodes]
  omega

theorem pending_deleteAll (nodes : ℕ) (heap : ChHeap) :
    pending nodes heap.deleteAll ≤ pending nodes heap := by
  have same : heap.deleteAll.map HeapNode.node = heap.map HeapNode.node := by
    rw [QueryHeap.deleteAll, List.map_map]
    rfl
  have none : heap.deleteAll.size = 0 := by
    rw [QueryHeap.size, List.countP_eq_zero]
    intro entry member
    obtain ⟨_, _, rfl⟩ := List.mem_map.mp member
    exact Bool.false_ne_true
  rw [pending, pending, pending_congr same, none]
  omega

theorem pending_insert {key : ℤ} {data : ChHeapData} (inside : node < nodes)
    (fresh : heap.getHeapNodeIfWasInserted node = none) :
    pending nodes (heap.insert node key data) = pending nodes heap := by
  have size : (heap.insert node key data).size = heap.size + 1 := by
    rw [QueryHeap.size, QueryHeap.insert, List.countP_append, List.countP_singleton, if_pos rfl]
    rfl
  have none : heap.wasInserted node = false := by
    rw [Bool.eq_false_iff, ne_eq, QueryHeap.wasInserted_iff, fresh]
    rintro ⟨entry, found⟩
    exact Option.some_ne_none entry found.symm
  have inserted : ∀ other, (heap.insert node key data).wasInserted other =
      (heap.wasInserted other || node == other) := by
    intro other
    rw [QueryHeap.wasInserted, QueryHeap.insert, List.any_append, List.any_cons, List.any_nil,
      Bool.or_false]
    rfl
  have count : (List.range nodes).countP (fun other => !(heap.insert node key data).wasInserted
      other) + 1 = (List.range nodes).countP fun other => !heap.wasInserted other := by
    clear size
    induction nodes with
    | zero => exact absurd inside (Nat.not_lt_zero node)
    | succ count ih =>
        rw [List.range_succ, List.countP_append, List.countP_append, List.countP_singleton,
          List.countP_singleton, inserted]
        by_cases last : node = count
        case pos =>
          have before : (List.range count).countP
              (fun other => !(heap.insert node key data).wasInserted other) =
                (List.range count).countP fun other => !heap.wasInserted other := by
            refine List.countP_congr fun other member => ?_
            have ne : (node == other) = false :=
              beq_eq_false_iff_ne.mpr (by have := List.mem_range.mp member; omega)
            rw [inserted, ne, Bool.or_false]
          rw [before, ← last, none, beq_self_eq_true, Bool.or_true]
          rfl
        case neg =>
          have before := ih (by omega)
          rw [beq_eq_false_iff_ne.mpr last, Bool.or_false]
          omega
  rw [pending, pending, size]
  omega

theorem pending_decreaseKey {key : ℤ} {data : ChHeapData} :
    pending nodes (heap.decreaseKey node key data) = pending nodes heap := by
  have same : (heap.decreaseKey node key data).map HeapNode.node = heap.map HeapNode.node :=
    QueryHeap.nodes_decreaseKey
  have size : (heap.decreaseKey node key data).size = heap.size := by
    rw [QueryHeap.size, QueryHeap.size, QueryHeap.decreaseKey, QueryHeap.write, List.countP_map]
    refine List.countP_congr fun entry _ => ?_
    rw [Function.comp_apply]
    split <;> rfl
  rw [pending, pending, pending_congr same, size]

theorem pending_relaxed {direction : Bool} {facade : QueryGraph}
    (closed : ∀ {entry : DynamicEdge QueryEdgeData}, entry ∈ facade.adjacent heapNode.node →
      entry.target < nodes)
    (relaxed : relaxOutgoingEdges direction facade heapNode heap = .ok after) :
    pending nodes after = pending nodes heap := by
  refine foldlM_invariant (fun current => pending nodes current = pending nodes heap) ?_ rfl relaxed
  intro edge member source target same turned
  rw [← same]
  rw [relaxOutgoingEdge] at turned
  split at turned
  case isFalse =>
    cases turned
    rfl
  case isTrue =>
    split at turned
    case h_1 => cases turned
    case h_2 =>
      split at turned
      case h_1 fresh =>
        cases turned
        exact pending_insert (closed member) fresh
      case h_2 =>
        split at turned
        case isTrue =>
          split at turned
          case isTrue =>
            cases turned
            exact pending_decreaseKey
          case isFalse => cases turned
        case isFalse =>
          cases turned
          rfl

/-- A heap of distinct nodes has no more pending nodes than the graph has nodes. -/
theorem pending_le (distinct : heap.Distinct)
    (inside : ∀ {entry : HeapNode ℤ ChHeapData}, entry ∈ heap → entry.node < nodes) :
    pending nodes heap ≤ nodes := by
  have size : heap.size ≤ heap.length := List.countP_le_length
  have sub : (heap.map HeapNode.node).Subperm
      ((List.range nodes).filter fun node => heap.wasInserted node) := by
    refine List.Nodup.subperm distinct fun node member => ?_
    obtain ⟨entry, there, rfl⟩ := List.mem_map.mp member
    refine List.mem_filter.mpr ⟨List.mem_range.mpr (inside there), ?_⟩
    exact List.any_eq_true.mpr ⟨entry, there, beq_self_eq_true _⟩
  have fits := sub.length_le
  rw [List.length_map, ← List.countP_eq_length_filter] at fits
  have split := List.length_eq_countP_add_countP (fun node => heap.wasInserted node)
    (l := List.range nodes)
  have others : (List.range nodes).countP (fun node => ¬heap.wasInserted node = true) =
      (List.range nodes).countP fun node => !heap.wasInserted node :=
    List.countP_congr fun node _ => by simp
  rw [List.length_range, others] at split
  rw [pending]
  omega

/-- Every step with a node to settle leaves fewer pending nodes. -/
theorem Stepped.pending_lt {direction : Bool} {facade : QueryGraph} {other : ChHeap}
    {meeting met : Meeting} {offset : ℤ} (distinct : heap.Distinct)
    (closed : ∀ {id : ℕ} {entry : DynamicEdge QueryEdgeData}, entry ∈ facade.adjacent id →
      entry.target < nodes)
    (step : Stepped direction facade heap other meeting offset after met heapNode popped) :
    pending nodes after < pending nodes heap := by
  have fewer := pending_popped nodes distinct step.deleted
  rcases step.outcome with ⟨_, rfl⟩ | ⟨_, rfl⟩ | relaxed
  · have := pending_deleteAll nodes popped
    omega
  · omega
  · rw [pending_relaxed closed relaxed]
    omega

end Pending

/-! ## The loop -/

/-- What holds between two steps, as one direction sees it. -/
structure Searching (sides : Sides ℕ) (bound offset : ℤ) (limit : ℕ) (direction : Bool)
    (own other : ChHeap) (meeting : Meeting) : Prop where
  explored : Explored sides direction bound own other meeting
  closing : ∀ {total : ℤ}, sides.IsLeast total → total - offset ≤ limit →
    total < meeting.upperBound → Closing sides direction total own other

section Loop

variable {facade : QueryGraph} {forwardHeap reverseHeap own other after : ChHeap}
  {direction : Bool} {offset bound total : ℤ} {meeting met : Meeting} {limit : ℕ}
  {state next : ChSearchState}

theorem Searching.swap {sides : Sides ℕ}
    (searching : Searching sides bound offset limit direction own other meeting) :
    Searching sides bound offset limit (!direction) other own meeting :=
  ⟨searching.explored.swap, fun least small above => (searching.closing least small above).swap⟩

variable (begun : Begun facade forwardHeap reverseHeap offset)
  (complete : (searchSides facade forwardHeap reverseHeap).Complete limit)

include begun complete

theorem Searching.routingStep
    (searching : Searching (searchSides facade forwardHeap reverseHeap) bound offset limit
      direction own other meeting)
    (stepped : routingStep direction facade own other meeting offset [] [] = .ok (after, met)) :
    Searching (searchSides facade forwardHeap reverseHeap) bound offset limit direction after other
      met := by
  rcases routingStep_cases stepped with ⟨_, rfl, rfl⟩ | ⟨heapNode, popped, step⟩
  case inl => exact searching
  case inr =>
    obtain ⟨explored, lowered⟩ := searching.explored.step begun step
    refine ⟨explored, fun least small above => ?_⟩
    exact (searching.closing least small (lt_of_lt_of_le above lowered)).step begun complete least
      small step searching.explored above

theorem Searching.forwardTurn {state forth : ChSearchState}
    (searching : Searching (searchSides facade forwardHeap reverseHeap) bound offset limit true
      state.forwardHeap state.reverseHeap state.meeting)
    (turned : forwardTurn facade offset [] [] state = .ok forth) :
    Searching (searchSides facade forwardHeap reverseHeap) bound offset limit true
      forth.forwardHeap forth.reverseHeap forth.meeting := by
  rw [Routing.forwardTurn] at turned
  split at turned
  case isTrue =>
    cases turned
    exact searching
  case isFalse =>
    obtain ⟨⟨heap, met⟩, stepped, turned⟩ := bind_eq_ok_iff.mp turned
    cases turned
    exact searching.routingStep begun complete stepped

theorem Searching.reverseTurn {state next : ChSearchState}
    (searching : Searching (searchSides facade forwardHeap reverseHeap) bound offset limit true
      state.forwardHeap state.reverseHeap state.meeting)
    (turned : reverseTurn facade offset [] [] state = .ok next) :
    Searching (searchSides facade forwardHeap reverseHeap) bound offset limit true
      next.forwardHeap next.reverseHeap next.meeting := by
  rw [Routing.reverseTurn] at turned
  split at turned
  case isTrue =>
    cases turned
    exact searching
  case isFalse =>
    obtain ⟨⟨heap, met⟩, stepped, turned⟩ := bind_eq_ok_iff.mp turned
    cases turned
    exact (searching.swap.routingStep begun complete stepped).swap

end Loop

/-- The pending nodes of both heaps. -/
def ChSearchState.pending (state : ChSearchState) (nodes : ℕ) : ℕ :=
  Routing.pending nodes state.forwardHeap + Routing.pending nodes state.reverseHeap

/-- No node is left in the heap. -/
def Idle (heap : ChHeap) : Prop :=
  ∀ {node : ℕ} {entry : HeapNode ℤ ChHeapData}, heap.getHeapNodeIfWasInserted node = some entry →
    entry.inHeap = false

theorem idle_of_size {heap : ChHeap} (none : heap.size = 0) : Idle heap := by
  intro node entry found
  rw [QueryHeap.size, List.countP_eq_zero] at none
  exact Bool.eq_false_iff.mpr (none entry (QueryHeap.mem_of_getHeapNode found).1)

theorem size_of_empty {heap : ChHeap} (empty : heap.empty = true) : heap.size = 0 := by
  rw [QueryHeap.empty, Bool.not_eq_true', Bool.eq_false_iff, ne_eq, List.any_eq_true] at empty
  rw [QueryHeap.size, List.countP_eq_zero]
  exact fun entry member inside => empty ⟨entry, member, inside⟩

section Ending

variable {facade : QueryGraph} {forwardHeap reverseHeap own other after : ChHeap}
  {direction : Bool} {offset bound total : ℤ} {meeting met : Meeting} {limit nodes : ℕ}
  {state next final : ChSearchState}
  (closed : ∀ {id : ℕ} {entry : DynamicEdge QueryEdgeData}, entry ∈ facade.adjacent id →
    entry.target < nodes)

include closed

theorem routingStep_pending (distinct : own.Distinct) (occupied : own.empty = false)
    (stepped : routingStep direction facade own other meeting offset [] [] = .ok (after, met)) :
    pending nodes after < pending nodes own := by
  rcases routingStep_cases stepped with ⟨none, _⟩ | ⟨heapNode, popped, step⟩
  case inl =>
    obtain ⟨least, found⟩ := QueryHeap.exists_least occupied
    rw [QueryHeap.deleteMin, found] at none
    cases none
  case inr => exact step.pending_lt distinct closed

/-- A turn with a node to settle leaves fewer pending nodes. -/
theorem searchTurn_pending (distinct : state.forwardHeap.Distinct ∧ state.reverseHeap.Distinct)
    (occupied : state.forwardHeap.size + state.reverseHeap.size ≠ 0)
    (turned : searchTurn facade offset [] [] state = .ok next) :
    next.pending nodes < state.pending nodes := by
  obtain ⟨forth, first, second⟩ := bind_eq_ok_iff.mp turned
  rw [forwardTurn] at first
  rw [reverseTurn] at second
  rw [ChSearchState.pending, ChSearchState.pending]
  split at first
  case isTrue forward_empty =>
    cases first
    split at second
    case isTrue reverse_empty =>
      rw [size_of_empty forward_empty, size_of_empty reverse_empty] at occupied
      exact absurd rfl occupied
    case isFalse reverse_occupied =>
      obtain ⟨⟨heap, met⟩, stepped, second⟩ := bind_eq_ok_iff.mp second
      cases second
      exact Nat.add_lt_add_left (routingStep_pending closed distinct.2
        (Bool.eq_false_iff.mpr reverse_occupied) stepped) _
  case isFalse forward_occupied =>
    obtain ⟨⟨heap, meeting⟩, stepped, first⟩ := bind_eq_ok_iff.mp first
    cases first
    have fewer := routingStep_pending closed distinct.1
      (Bool.eq_false_iff.mpr forward_occupied) stepped
    split at second
    case isTrue =>
      cases second
      exact Nat.add_lt_add_right fewer _
    case isFalse reverse_occupied =>
      obtain ⟨⟨heap', met⟩, stepped', second⟩ := bind_eq_ok_iff.mp second
      cases second
      exact Nat.add_lt_add fewer (routingStep_pending closed distinct.2
        (Bool.eq_false_iff.mpr reverse_occupied) stepped')

/-- With as many turns as there are pending nodes, the loop ends with both heaps empty. -/
theorem searchLoop_spec (begun : Begun facade forwardHeap reverseHeap offset)
    (complete : (searchSides facade forwardHeap reverseHeap).Complete limit) {turns : ℕ}
    (enough : state.pending nodes ≤ turns)
    (searching : Searching (searchSides facade forwardHeap reverseHeap) bound offset limit true
      state.forwardHeap state.reverseHeap state.meeting)
    (ran : searchLoop facade offset [] [] turns state = .ok final) :
    Searching (searchSides facade forwardHeap reverseHeap) bound offset limit true
      final.forwardHeap final.reverseHeap final.meeting ∧
      Idle final.forwardHeap ∧ Idle final.reverseHeap := by
  induction turns generalizing state with
  | zero =>
      cases ran
      rw [ChSearchState.pending, pending, pending] at enough
      exact ⟨searching, idle_of_size (by omega), idle_of_size (by omega)⟩
  | succ turns ih =>
      rw [searchLoop] at ran
      split at ran
      case isTrue none =>
        cases ran
        exact ⟨searching, idle_of_size (by omega), idle_of_size (by omega)⟩
      case isFalse occupied =>
        split at ran
        case h_1 => cases ran
        case h_2 next turned =>
          have fewer := searchTurn_pending closed
            ⟨searching.explored.sound.distinct, searching.explored.soundOther.distinct⟩ occupied
            turned
          obtain ⟨forth, first, second⟩ := bind_eq_ok_iff.mp turned
          have after := (searching.forwardTurn begun complete first).reverseTurn begun complete
            second
          exact ih (by omega) after ran

end Ending

/-! ## What was found -/

section Found

variable {sides : Sides ℕ} {direction : Bool} {total : ℤ} {heap other : ChHeap}

/-- In an empty heap the keys of a least way were handed on to its other end. -/
theorem Tracks.along (tracks : Tracks sides direction total heap)
    (sound : SideSound sides direction heap) (idle : Idle heap) {node middle weight : ℕ}
    {beyond : ℤ} {entry : HeapNode ℤ ChHeapData}
    (found : heap.getHeapNodeIfWasInserted node = some entry)
    (walk : Walk (sides.arcs direction) node middle weight)
    (also : sides.Reaches (!direction) middle beyond)
    (sum : entry.weight + (weight : ℤ) + beyond = total) :
    ∃ last, heap.getHeapNodeIfWasInserted middle = some last ∧
      last.weight = entry.weight + weight := by
  induction walk generalizing entry with
  | nil => exact ⟨entry, found, by omega⟩
  | @cons source middle target first rest arc walk ih =>
      have reached := sound.reaches found
      have tight : sides.Tight direction total source entry.weight :=
        ⟨reached, target, _, beyond, Walk.cons arc walk, also, sum⟩
      have ahead : sides.Tight direction total middle (entry.weight + first) :=
        ⟨reached.step arc, target, rest, beyond, walk, also, by omega⟩
      obtain ⟨next, found, weight⟩ := tracks.follows found (idle found) tight arc ahead
      obtain ⟨last, found, weight'⟩ := ih found also (by omega)
      exact ⟨last, found, by omega⟩

/-- Two empty heaps that track a least way have both settled its middle node. -/
theorem Closing.not_idle (closing : Closing sides true total heap other)
    (least : sides.IsLeast total) (sound : SideSound sides true heap)
    (soundOther : SideSound sides false other) (idle : Idle heap) (idleOther : Idle other) :
    False := by
  obtain ⟨middle, first, second, reaches, also, sum⟩ := least.meets
  obtain ⟨start, key, length, starts, walk, rfl⟩ := reaches
  obtain ⟨finish, key', length', ends, walk', rfl⟩ := also
  obtain ⟨entry, found, rfl⟩ := closing.tracks.begins starts
    ⟨⟨start, key, 0, starts, Walk.nil start, by omega⟩, middle, length, _, walk,
      ⟨finish, key', length', ends, walk', rfl⟩, by omega⟩
  obtain ⟨entry', found', rfl⟩ := closing.tracksOther.begins ends
    ⟨⟨finish, key', 0, ends, Walk.nil finish, by omega⟩, middle, length', _, walk',
      ⟨start, _, length, starts, walk, rfl⟩, by omega⟩
  obtain ⟨last, there, weight⟩ := closing.tracks.along sound idle found walk
    ⟨finish, _, length', ends, walk', rfl⟩ (by omega)
  obtain ⟨last', there', weight'⟩ := closing.tracksOther.along soundOther idleOther found' walk'
    ⟨start, _, length, starts, walk, rfl⟩ (by omega)
  exact closing.apart there (idle there) there' (idleOther there') (by omega)

theorem countP_smaller {parent : HeapNode ℤ ChHeapData} (member : parent ∈ heap) {key : ℤ}
    (less : parent.weight < key) :
    heap.countP (fun smaller => decide (smaller.weight < parent.weight)) <
      heap.countP fun smaller => decide (smaller.weight < key) := by
  obtain ⟨before, behind, rfl⟩ := List.append_of_mem member
  have front : ∀ part : ChHeap, part.countP (fun smaller => decide (smaller.weight < parent.weight))
      ≤ part.countP fun smaller => decide (smaller.weight < key) := by
    intro part
    refine List.countP_mono_left fun smaller _ below => ?_
    rw [decide_eq_true_iff] at below ⊢
    omega
  have := front before
  have := front behind
  rw [List.countP_append, List.countP_append, List.countP_cons, List.countP_cons,
    decide_eq_true less, decide_eq_false (lt_irrefl _), if_pos rfl, if_neg Bool.false_ne_true]
  omega

/-- The parents lead back to an end, by a path that weighs what the key does.  The induction is on
the number of turns, which bounds the number of smaller keys. -/
theorem retrieveLoop_path (sound : SideSound sides direction heap)
    (positive : ∀ {tail head weight : ℕ}, sides.arcs direction tail head weight → 0 < weight)
    {turns node : ℕ} {entry : HeapNode ℤ ChHeapData}
    (found : heap.getHeapNodeIfWasInserted node = some entry)
    (enough : heap.countP (fun smaller => decide (smaller.weight < entry.weight)) < turns) :
    ∃ start first weight, sides.starts direction start first ∧
      Path (fun tail head weight => tail ≠ head ∧ sides.arcs direction head tail weight) node
        (node :: retrieveLoop heap turns node) start weight ∧
      first + (weight : ℤ) = entry.weight := by
  induction turns generalizing node entry with
  | zero => exact absurd enough (Nat.not_lt_zero _)
  | succ turns ih =>
      rw [retrieveLoop, found]
      dsimp only
      rcases sound.parents found with ⟨same, starts⟩ | ⟨parent, length, stored, _, arc, sum⟩
      case inl =>
        rw [same, bne_self_eq_false, Bool.false_and, if_neg Bool.false_ne_true]
        exact ⟨node, entry.weight, 0, starts, Path.nil node, by omega⟩
      case inr =>
        have longer := positive arc
        have ne : node ≠ entry.data.parent := by
          rintro same
          rw [← same, found] at stored
          cases stored
          omega
        have inserted := QueryHeap.wasInserted_iff.mpr ⟨parent, stored⟩
        rw [bne_iff_ne.mpr ne, inserted, Bool.and_self, if_pos rfl]
        have fewer : heap.countP (fun smaller => decide (smaller.weight < parent.weight)) <
            heap.countP fun smaller => decide (smaller.weight < entry.weight) := by
          exact countP_smaller (QueryHeap.mem_of_getHeapNode stored).1 (by omega)
        obtain ⟨start, first, weight, starts, path, total⟩ := ih stored (by omega)
        exact ⟨start, first, length + weight, starts, Path.cons ⟨ne, arc⟩ path, by omega⟩

end Found

end Proximity.Routing
