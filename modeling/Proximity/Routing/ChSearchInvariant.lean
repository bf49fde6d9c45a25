import Proximity.Routing.ChSearchRules

/-!
# The search finds the least way

The invariant of the search has two halves.  What was met is a way; and while the bound is above
the least weight, the settled nodes of a least way have handed their keys on, on both sides.
-/

namespace Proximity.Routing

open Proximity.Systems

/-! ## The heap of one side -/

/-- Keys are reached, and go back to the parents. -/
structure SideSound (sides : Sides ℕ) (direction : Bool) (heap : ChHeap) : Prop where
  distinct : heap.Distinct
  reaches : ∀ {node : ℕ} {entry : HeapNode ℤ ChHeapData},
    heap.getHeapNodeIfWasInserted node = some entry → sides.Reaches direction node entry.weight
  parents : ∀ {node : ℕ} {entry : HeapNode ℤ ChHeapData},
    heap.getHeapNodeIfWasInserted node = some entry →
    (entry.data.parent = node ∧ sides.starts direction node entry.weight) ∨
      ∃ parent weight, heap.getHeapNodeIfWasInserted entry.data.parent = some parent ∧
        parent.inHeap = false ∧ sides.arcs direction entry.data.parent node weight ∧
        parent.weight + (weight : ℤ) = entry.weight

/-- On ways of the weight `total`, ends have their keys and settled nodes hand theirs on. -/
structure Tracks (sides : Sides ℕ) (direction : Bool) (total : ℤ) (heap : ChHeap) : Prop where
  begins : ∀ {node : ℕ} {key : ℤ}, sides.starts direction node key →
    sides.Tight direction total node key →
    ∃ entry, heap.getHeapNodeIfWasInserted node = some entry ∧ entry.weight = key
  follows : ∀ {node target weight : ℕ} {entry : HeapNode ℤ ChHeapData},
    heap.getHeapNodeIfWasInserted node = some entry → entry.inHeap = false →
    sides.Tight direction total node entry.weight → sides.arcs direction node target weight →
    sides.Tight direction total target (entry.weight + weight) →
    ∃ next, heap.getHeapNodeIfWasInserted target = some next ∧
      next.weight = entry.weight + weight

section OneSide

variable {sides : Sides ℕ} {direction : Bool} {total : ℤ} {heap popped after : ChHeap}
  {heapNode : HeapNode ℤ ChHeapData}

/-- A node that is deleted from the heap stays inserted. -/
theorem popped_self (distinct : heap.Distinct)
    (deleted : heap.deleteMin = some (heapNode, popped)) :
    heap.getHeapNodeIfWasInserted heapNode.node = some heapNode ∧
      popped.getHeapNodeIfWasInserted heapNode.node = some { heapNode with inHeap := false } := by
  obtain ⟨least, rfl⟩ := QueryHeap.deleteMin_spec deleted
  have found := QueryHeap.getHeapNode_of_mem distinct (QueryHeap.leastInHeap_spec least).1
  rw [QueryHeap.getHeapNode_remove_self, found]
  exact ⟨rfl, rfl⟩

theorem popped_ne {node : ℕ} (deleted : heap.deleteMin = some (heapNode, popped))
    (ne : node ≠ heapNode.node) :
    popped.getHeapNodeIfWasInserted node = heap.getHeapNodeIfWasInserted node := by
  obtain ⟨_, rfl⟩ := QueryHeap.deleteMin_spec deleted
  exact QueryHeap.getHeapNode_remove_ne ne

theorem popped_kept (distinct : heap.Distinct) (deleted : heap.deleteMin = some (heapNode, popped))
    {node : ℕ} {entry : HeapNode ℤ ChHeapData}
    (found : heap.getHeapNodeIfWasInserted node = some entry) :
    ∃ next, popped.getHeapNodeIfWasInserted node = some next ∧ next.weight = entry.weight ∧
      next.data = entry.data ∧ (entry.inHeap = false → next = entry) := by
  by_cases same : node = heapNode.node
  case pos =>
    subst same
    obtain ⟨before, next⟩ := popped_self distinct deleted
    rw [found] at before
    cases before
    refine ⟨_, next, rfl, rfl, fun settled => ?_⟩
    rw [← settled]
  case neg => exact ⟨entry, (popped_ne deleted same).trans found, rfl, rfl, fun _ => rfl⟩

theorem popped_only (distinct : heap.Distinct) (deleted : heap.deleteMin = some (heapNode, popped))
    {node : ℕ} {entry : HeapNode ℤ ChHeapData}
    (found : popped.getHeapNodeIfWasInserted node = some entry) :
    (node = heapNode.node ∧ entry = { heapNode with inHeap := false }) ∨
      (node ≠ heapNode.node ∧ heap.getHeapNodeIfWasInserted node = some entry) := by
  by_cases same : node = heapNode.node
  case pos =>
    subst same
    rw [(popped_self distinct deleted).2] at found
    cases found
    exact Or.inl ⟨rfl, rfl⟩
  case neg =>
    rw [popped_ne deleted same] at found
    exact Or.inr ⟨same, found⟩

theorem SideSound.deleteMin (sound : SideSound sides direction heap)
    (deleted : heap.deleteMin = some (heapNode, popped)) : SideSound sides direction popped := by
  obtain ⟨_, same⟩ := QueryHeap.deleteMin_spec deleted
  have back : ∀ {node : ℕ} {entry : HeapNode ℤ ChHeapData},
      popped.getHeapNodeIfWasInserted node = some entry →
      ∃ before, heap.getHeapNodeIfWasInserted node = some before ∧
        before.weight = entry.weight ∧ before.data = entry.data := by
    intro node entry found
    rcases popped_only sound.distinct deleted found with ⟨rfl, rfl⟩ | ⟨_, before⟩
    · exact ⟨heapNode, (popped_self sound.distinct deleted).1, rfl, rfl⟩
    · exact ⟨entry, before, rfl, rfl⟩
  refine ⟨same ▸ sound.distinct.remove, ?_, ?_⟩
  case refine_1 =>
    intro node entry found
    obtain ⟨before, stored, weight, _⟩ := back found
    exact weight ▸ sound.reaches stored
  case refine_2 =>
    intro node entry found
    obtain ⟨before, stored, weight, data⟩ := back found
    rw [← weight, ← data]
    refine (sound.parents stored).imp_right ?_
    rintro ⟨parent, length, inserted, settled, rest⟩
    obtain ⟨next, still, _, _, frozen⟩ := popped_kept sound.distinct deleted inserted
    rw [frozen settled] at still
    exact ⟨parent, length, still, settled, rest⟩

theorem SideSound.relaxed (sound : SideSound sides direction heap)
    (deleted : heap.deleteMin = some (heapNode, popped))
    (relaxes : Relaxes (sides.arcs direction) heapNode popped after) :
    SideSound sides direction after := by
  have before := sound.deleteMin deleted
  obtain ⟨own, settled⟩ := popped_self sound.distinct deleted
  refine ⟨relaxes.distinct before.distinct, ?_, ?_⟩
  case refine_1 =>
    intro node entry found
    rcases relaxes.only found with unchanged | ⟨_, _, weight, arc, sum⟩
    · exact before.reaches unchanged
    · exact sum ▸ (sound.reaches own).step arc
  case refine_2 =>
    intro node entry found
    rcases relaxes.only found with unchanged | ⟨_, parent, weight, arc, sum⟩
    case inl =>
      refine (before.parents unchanged).imp_right ?_
      rintro ⟨parent, length, inserted, gone, rest⟩
      obtain ⟨next, still, _, _, frozen⟩ := relaxes.kept inserted
      rw [frozen gone] at still
      exact ⟨parent, length, still, gone, rest⟩
    case inr =>
      obtain ⟨next, still, _, _, frozen⟩ := relaxes.kept settled
      rw [frozen rfl] at still
      rw [parent]
      exact Or.inr ⟨_, weight, still, rfl, arc, sum⟩

theorem SideSound.deleteAll (sound : SideSound sides direction heap) :
    SideSound sides direction heap.deleteAll := by
  have back : ∀ {node : ℕ} {entry : HeapNode ℤ ChHeapData},
      heap.deleteAll.getHeapNodeIfWasInserted node = some entry →
      ∃ before, heap.getHeapNodeIfWasInserted node = some before ∧
        { before with inHeap := false } = entry := by
    intro node entry found
    rw [QueryHeap.getHeapNode_deleteAll, Option.map_eq_some_iff] at found
    exact found
  refine ⟨sound.distinct.deleteAll, ?_, ?_⟩
  case refine_1 =>
    intro node entry found
    obtain ⟨before, stored, rfl⟩ := back found
    have reached := sound.reaches stored
    exact reached
  case refine_2 =>
    intro node entry found
    obtain ⟨before, stored, rfl⟩ := back found
    refine (sound.parents stored).imp_right ?_
    rintro ⟨parent, length, inserted, gone, rest⟩
    refine ⟨{ parent with inHeap := false }, length, ?_, rfl, rest⟩
    rw [QueryHeap.getHeapNode_deleteAll, inserted, Option.map_some]

/-- A heap tracks the least ways when each node that gets settled on one hands its key on. -/
theorem Tracks.next (tracks : Tracks sides direction total heap) (least : sides.IsLeast total)
    (sound : SideSound sides direction after)
    (kept : ∀ {node : ℕ} {entry : HeapNode ℤ ChHeapData},
      heap.getHeapNodeIfWasInserted node = some entry →
      ∃ next, after.getHeapNodeIfWasInserted node = some next ∧ next.weight ≤ entry.weight)
    (settled : ∀ {node : ℕ} {entry : HeapNode ℤ ChHeapData},
      after.getHeapNodeIfWasInserted node = some entry → entry.inHeap = false →
      sides.Tight direction total node entry.weight →
      (∃ old, heap.getHeapNodeIfWasInserted node = some old ∧ old.inHeap = false ∧
        old.weight = entry.weight) ∨
      ∀ {target weight : ℕ}, sides.arcs direction node target weight →
        ∃ next, after.getHeapNodeIfWasInserted target = some next ∧
          next.weight ≤ entry.weight + weight) : Tracks sides direction total after := by
  refine ⟨?_, ?_⟩
  case refine_1 =>
    intro node key starts tight
    obtain ⟨entry, found, rfl⟩ := tracks.begins starts tight
    obtain ⟨next, found, le⟩ := kept found
    exact ⟨next, found, le_antisymm le (tight.least least (sound.reaches found))⟩
  case refine_2 =>
    intro node target weight entry found gone tight arc beyond
    have handed : ∃ next, after.getHeapNodeIfWasInserted target = some next ∧
        next.weight ≤ entry.weight + weight := by
      rcases settled found gone tight with ⟨old, stored, before, same⟩ | now
      case inl =>
        rw [← same] at tight beyond ⊢
        obtain ⟨next, there, exactly⟩ := tracks.follows stored before tight arc beyond
        obtain ⟨last, there, le⟩ := kept there
        exact ⟨last, there, le_trans le (le_of_eq exactly)⟩
      case inr => exact now arc
    obtain ⟨next, there, le⟩ := handed
    exact ⟨next, there, le_antisymm le (beyond.least least (sound.reaches there))⟩

end OneSide

/-! ## Both sides -/

/-- What was met is a way, over a node that both sides have inserted. -/
structure Explored (sides : Sides ℕ) (direction : Bool) (bound : ℤ) (own other : ChHeap)
    (meeting : Meeting) : Prop where
  sound : SideSound sides direction own
  soundOther : SideSound sides (!direction) other
  met : (meeting.middle = specialNodeId ∧ meeting.upperBound = bound) ∨
    (meeting.upperBound < bound ∧ sides.Meets meeting.upperBound ∧
      ∃ first second, own.getHeapNodeIfWasInserted meeting.middle = some first ∧
        other.getHeapNodeIfWasInserted meeting.middle = some second ∧
        first.weight + second.weight ≤ meeting.upperBound)

/-- While the bound is above the least weight, both sides track the least ways and have not both
settled a node of one. -/
structure Closing (sides : Sides ℕ) (direction : Bool) (total : ℤ) (own other : ChHeap) :
    Prop where
  tracks : Tracks sides direction total own
  tracksOther : Tracks sides (!direction) total other
  apart : ∀ {node : ℕ} {first second : HeapNode ℤ ChHeapData},
    own.getHeapNodeIfWasInserted node = some first → first.inHeap = false →
    other.getHeapNodeIfWasInserted node = some second → second.inHeap = false →
    first.weight + second.weight ≠ total

section BothSides

variable {sides : Sides ℕ} {direction : Bool} {total bound : ℤ} {own other : ChHeap}
  {meeting : Meeting}

theorem Explored.swap (explored : Explored sides direction bound own other meeting) :
    Explored sides (!direction) bound other own meeting := by
  refine ⟨explored.soundOther, by rw [Bool.not_not]; exact explored.sound,
    explored.met.imp_right ?_⟩
  rintro ⟨less, meets, first, second, found, also, le⟩
  exact ⟨less, meets, second, first, also, found, by omega⟩

theorem Closing.swap (closing : Closing sides direction total own other) :
    Closing sides (!direction) total other own := by
  refine ⟨closing.tracksOther, by rw [Bool.not_not]; exact closing.tracks, ?_⟩
  intro node first second found gone also gone'
  rw [Int.add_comm]
  exact closing.apart also gone' found gone

end BothSides

/-- What a query promises: the ends are distinct nodes of the graph, and their own parents. -/
structure Begun (facade : QueryGraph) (forwardHeap reverseHeap : ChHeap) (offset : ℤ) : Prop where
  distinct : forwardHeap.Distinct ∧ reverseHeap.Distinct
  inside : ∀ {entry : HeapNode ℤ ChHeapData}, entry ∈ forwardHeap ∨ entry ∈ reverseHeap →
    entry.node < facade.getNumberOfNodes
  fresh : ∀ {entry : HeapNode ℤ ChHeapData}, entry ∈ forwardHeap ∨ entry ∈ reverseHeap →
    entry.inHeap = true ∧ entry.data.parent = entry.node
  bounded : ∀ {entry : HeapNode ℤ ChHeapData}, entry ∈ forwardHeap → offset ≤ entry.weight
  /-- Only the nodes of the forward heap have negative offsets. -/
  positive : ∀ {entry : HeapNode ℤ ChHeapData}, entry ∈ reverseHeap → 0 ≤ entry.weight
  negative : offset ≤ 0
  /-- No way is so light that a loop had to be added. -/
  sums : ∀ {total : ℤ}, (searchSides facade forwardHeap reverseHeap).Meets total → 0 ≤ total

/-! ## One step -/

/-- What a step has done: the node that it settled, what it met, and how it went on. -/
structure Stepped (direction : Bool) (facade : QueryGraph) (own other : ChHeap) (meeting : Meeting)
    (offset : ℤ) (after : ChHeap) (met : Meeting) (heapNode : HeapNode ℤ ChHeapData)
    (popped : ChHeap) : Prop where
  deleted : own.deleteMin = some (heapNode, popped)
  meets : meetAtNode direction facade heapNode (other.getHeapNodeIfWasInserted heapNode.node) [] []
    meeting = .ok met
  outcome : (met.upperBound < heapNode.weight + offset ∧ after = popped.deleteAll) ∨
    (stallAtNode direction facade heapNode popped = .ok true ∧ after = popped) ∨
      relaxOutgoingEdges direction facade heapNode popped = .ok after

theorem routingStep_cases {direction : Bool} {facade : QueryGraph} {own other after : ChHeap}
    {meeting met : Meeting} {offset : ℤ}
    (stepped : routingStep direction facade own other meeting offset [] [] = .ok (after, met)) :
    (own.deleteMin = none ∧ after = own ∧ met = meeting) ∨
      ∃ heapNode popped, Stepped direction facade own other meeting offset after met heapNode
        popped := by
  rw [routingStep] at stepped
  split at stepped
  case h_1 none =>
    cases stepped
    exact Or.inl ⟨none, rfl, rfl⟩
  case h_2 heapNode popped deleted =>
    obtain ⟨found, meets, stepped⟩ := bind_eq_ok_iff.mp stepped
    obtain ⟨least, added, stepped⟩ := bind_eq_ok_iff.mp stepped
    obtain rfl := addEdgeWeight_eq_ok added
    refine Or.inr ⟨heapNode, popped, ?_⟩
    split at stepped
    case isTrue cut =>
      cases stepped
      exact ⟨deleted, meets, Or.inl ⟨cut, rfl⟩⟩
    case isFalse =>
      obtain ⟨stalled, looked, stepped⟩ := bind_eq_ok_iff.mp stepped
      split at stepped
      case isTrue set =>
        cases stepped
        rw [set] at looked
        exact ⟨deleted, meets, Or.inr (Or.inl ⟨looked, rfl⟩)⟩
      case isFalse =>
        obtain ⟨relaxed, ran, stepped⟩ := bind_eq_ok_iff.mp stepped
        cases stepped
        exact ⟨deleted, meets, Or.inr (Or.inr ran)⟩

section Steps

variable {facade : QueryGraph} {forwardHeap reverseHeap own other after popped : ChHeap}
  {direction : Bool} {offset bound total : ℤ} {meeting met : Meeting}
  {heapNode : HeapNode ℤ ChHeapData} {limit : ℕ}

theorem Begun.offset_le (begun : Begun facade forwardHeap reverseHeap offset) {side : Bool}
    {start : ℕ} {first : ℤ}
    (starts : (searchSides facade forwardHeap reverseHeap).starts side start first) :
    offset ≤ first := by
  obtain ⟨entry, found, rfl⟩ := starts
  have member := (QueryHeap.mem_of_getHeapNode found).1
  cases side with
  | true => exact begun.bounded member
  | false => exact le_trans begun.negative (begun.positive member)

theorem Begun.offset_le_add (begun : Begun facade forwardHeap reverseHeap offset) {side : Bool}
    {start finish : ℕ} {first second : ℤ}
    (starts : (searchSides facade forwardHeap reverseHeap).starts side start first)
    (ends : (searchSides facade forwardHeap reverseHeap).starts (!side) finish second) :
    offset ≤ first + second := by
  obtain ⟨entry, found, rfl⟩ := starts
  obtain ⟨entry', found', rfl⟩ := ends
  have member := (QueryHeap.mem_of_getHeapNode found).1
  have member' := (QueryHeap.mem_of_getHeapNode found').1
  cases side with
  | true =>
      have low := begun.bounded member
      have high := begun.positive member'
      omega
  | false =>
      have low := begun.bounded member'
      have high := begun.positive member
      omega

/-- No inserted node is lost, and no key grows. -/
theorem Stepped.kept (step : Stepped direction facade own other meeting offset after met heapNode
    popped) (distinct : own.Distinct) {node : ℕ} {entry : HeapNode ℤ ChHeapData}
    (found : own.getHeapNodeIfWasInserted node = some entry) :
    ∃ next, after.getHeapNodeIfWasInserted node = some next ∧ next.weight ≤ entry.weight := by
  obtain ⟨middle, stored, weight, _⟩ := popped_kept distinct step.deleted found
  rcases step.outcome with ⟨_, rfl⟩ | ⟨_, rfl⟩ | relaxed
  case inl =>
    rw [QueryHeap.getHeapNode_deleteAll, stored]
    exact ⟨_, rfl, le_of_eq weight⟩
  case inr.inl => exact ⟨middle, stored, le_of_eq weight⟩
  case inr.inr =>
    obtain ⟨next, stored, le, _⟩ := (relaxOutgoingEdges_spec relaxed).1.kept stored
    exact ⟨next, stored, le_trans le (le_of_eq weight)⟩

/-- A node that is settled now was settled before, or is the one of this step, or is beyond the
bound. -/
theorem Stepped.settled (step : Stepped direction facade own other meeting offset after met
    heapNode popped) (distinct : own.Distinct) {node : ℕ} {entry : HeapNode ℤ ChHeapData}
    (found : after.getHeapNodeIfWasInserted node = some entry) (gone : entry.inHeap = false) :
    (∃ old, own.getHeapNodeIfWasInserted node = some old ∧ old.inHeap = false ∧
      old.weight = entry.weight) ∨
    (node = heapNode.node ∧ entry.weight = heapNode.weight) ∨
      met.upperBound < entry.weight + offset := by
  have unpopped : ∀ {entry : HeapNode ℤ ChHeapData},
      popped.getHeapNodeIfWasInserted node = some entry → entry.inHeap = false →
      (∃ old, own.getHeapNodeIfWasInserted node = some old ∧ old.inHeap = false ∧
        old.weight = entry.weight) ∨ (node = heapNode.node ∧ entry.weight = heapNode.weight) := by
    intro entry found gone
    rcases popped_only distinct step.deleted found with ⟨same, rfl⟩ | ⟨_, before⟩
    · exact Or.inr ⟨same, rfl⟩
    · exact Or.inl ⟨entry, before, gone, rfl⟩
  rcases step.outcome with ⟨cut, rfl⟩ | ⟨_, rfl⟩ | relaxed
  case inl =>
    rw [QueryHeap.getHeapNode_deleteAll, Option.map_eq_some_iff] at found
    obtain ⟨before, stored, rfl⟩ := found
    rcases popped_only distinct step.deleted stored with ⟨same, rfl⟩ | ⟨_, stored⟩
    case inl => exact Or.inr (Or.inl ⟨same, rfl⟩)
    case inr =>
      by_cases inside : before.inHeap = true
      case pos =>
        have least := (QueryHeap.leastInHeap_spec (QueryHeap.deleteMin_spec step.deleted).1).2.2
          before (QueryHeap.mem_of_getHeapNode stored).1 inside
        refine Or.inr (Or.inr ?_)
        dsimp only
        omega
      case neg => exact Or.inl ⟨before, stored, Bool.eq_false_iff.mpr inside, rfl⟩
  case inr.inl =>
    rcases unpopped found gone with old | now
    · exact Or.inl old
    · exact Or.inr (Or.inl now)
  case inr.inr =>
    rcases (relaxOutgoingEdges_spec relaxed).1.only found with before | ⟨inside, _⟩
    case inl =>
      rcases unpopped before gone with old | now
      · exact Or.inl old
      · exact Or.inr (Or.inl now)
    case inr =>
      rw [gone] at inside
      cases inside

variable (begun : Begun facade forwardHeap reverseHeap offset)

include begun

/-- What the step met. -/
theorem Stepped.met_cases (step : Stepped direction facade own other meeting offset after met
    heapNode popped)
    (explored : Explored (searchSides facade forwardHeap reverseHeap) direction bound own other
      meeting) :
    (met = meeting ∧ ∀ reverse, other.getHeapNodeIfWasInserted heapNode.node = some reverse →
      meeting.upperBound ≤ reverse.weight + heapNode.weight) ∨
    ∃ reverse, other.getHeapNodeIfWasInserted heapNode.node = some reverse ∧
      reverse.weight + heapNode.weight < meeting.upperBound ∧
      met = ⟨heapNode.node, reverse.weight + heapNode.weight⟩ := by
  refine meetAtNode_spec (fun reverse found => ?_) step.meets
  have here := explored.sound.reaches (popped_self explored.sound.distinct step.deleted).1
  rw [Int.add_comm]
  exact begun.sums (here.meets (explored.soundOther.reaches found))

theorem Explored.step (step : Stepped direction facade own other meeting offset after met heapNode
    popped)
    (explored : Explored (searchSides facade forwardHeap reverseHeap) direction bound own other
      meeting) :
    Explored (searchSides facade forwardHeap reverseHeap) direction bound after other met ∧
      met.upperBound ≤ meeting.upperBound := by
  have distinct := explored.sound.distinct
  have sound : SideSound (searchSides facade forwardHeap reverseHeap) direction after := by
    rcases step.outcome with ⟨_, rfl⟩ | ⟨_, rfl⟩ | relaxed
    · exact (explored.sound.deleteMin step.deleted).deleteAll
    · exact explored.sound.deleteMin step.deleted
    · exact explored.sound.relaxed step.deleted (relaxOutgoingEdges_spec relaxed).1
  rcases step.met_cases begun explored with ⟨rfl, _⟩ | ⟨reverse, found, less, rfl⟩
  case inl =>
    refine ⟨⟨sound, explored.soundOther, explored.met.imp_right ?_⟩, le_refl _⟩
    rintro ⟨below, meets, first, second, stored, also, le⟩
    obtain ⟨next, stored, le'⟩ := step.kept distinct stored
    exact ⟨below, meets, next, second, stored, also, by omega⟩
  case inr =>
    have own_found := (popped_self distinct step.deleted).1
    have here := explored.sound.reaches own_found
    have below : meeting.upperBound ≤ bound := by
      rcases explored.met with ⟨_, same⟩ | ⟨below, _⟩
      · exact le_of_eq same
      · exact le_of_lt below
    refine ⟨⟨sound, explored.soundOther, Or.inr ⟨lt_of_lt_of_le less below, ?_, ?_⟩⟩,
      le_of_lt less⟩
    · dsimp only
      rw [Int.add_comm]
      exact here.meets (explored.soundOther.reaches found)
    · obtain ⟨next, stored, le⟩ := step.kept distinct own_found
      exact ⟨next, reverse, stored, found, by dsimp only; omega⟩

/-- While the bound is above the least weight, a step keeps track of the least ways. -/
theorem Closing.step (complete : (searchSides facade forwardHeap reverseHeap).Complete limit)
    (least : (searchSides facade forwardHeap reverseHeap).IsLeast total)
    (small : total - offset ≤ limit)
    (step : Stepped direction facade own other meeting offset after met heapNode popped)
    (explored : Explored (searchSides facade forwardHeap reverseHeap) direction bound own other
      meeting)
    (closing : Closing (searchSides facade forwardHeap reverseHeap) direction total own other)
    (above : total < met.upperBound) :
    Closing (searchSides facade forwardHeap reverseHeap) direction total after other := by
  have distinct := explored.sound.distinct
  have sound := (explored.step begun step).1.sound
  have own_found := (popped_self distinct step.deleted).1
  have inside : ∀ {node : ℕ} {key : ℤ},
      (searchSides facade forwardHeap reverseHeap).Tight direction total node key →
      ¬met.upperBound < key + offset := by
    intro node key tight
    have := tight.le fun starts => begun.offset_le starts
    omega
  refine ⟨closing.tracks.next least sound (step.kept distinct) ?_, closing.tracksOther, ?_⟩
  case refine_1 =>
    intro node entry found gone tight
    rcases step.settled distinct found gone with old | ⟨rfl, weight⟩ | beyond
    case inl => exact Or.inl old
    case inr.inr => exact absurd beyond (inside tight)
    case inr.inl =>
      rw [weight] at tight ⊢
      rcases step.outcome with ⟨cut, _⟩ | ⟨stalled, _⟩ | relaxed
      case inl => exact absurd cut (inside tight)
      case inr.inl =>
        obtain ⟨target, length, toHeapNode, arc, stored, lighter⟩ := stallAtNode_spec stalled
        have reached := (explored.sound.deleteMin step.deleted).reaches stored
        have not_lighter := tight.not_stalled complete least (fun starts starts' => by
          have := begun.offset_le_add starts starts'
          omega) arc reached
        omega
      case inr.inr => exact Or.inr (relaxOutgoingEdges_spec relaxed).2
  case refine_2 =>
    intro node first second found gone also gone' sum
    have tight := Sides.Tight.of_meets (sound.reaches found) (explored.soundOther.reaches also) sum
    rcases step.settled distinct found gone with ⟨old, stored, before, weight⟩ | ⟨rfl, weight⟩ |
      beyond
    case inl =>
      rw [← weight] at sum
      exact closing.apart stored before also gone' sum
    case inr.inr => exact inside tight beyond
    case inr.inl =>
      rcases step.met_cases begun explored with ⟨rfl, bounded⟩ | ⟨reverse, stored, _, rfl⟩
      case inl =>
        have := bounded second also
        omega
      case inr =>
        rw [also] at stored
        cases stored
        dsimp only at above
        omega

end Steps

end Proximity.Routing
