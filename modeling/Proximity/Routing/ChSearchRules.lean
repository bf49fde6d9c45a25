import Proximity.Routing.ChSearch

/-!
# What a step of the search keeps

Keys are the weights of walks, and a settled node keeps its key.  On a way of the least weight a
node is neither stalled nor stopped, so that its successor gets the least key.
-/

namespace Proximity.Routing

open Proximity.Systems

/-- The arcs that a direction relaxes, away from its ends. -/
def searchArcs (facade : QueryGraph) (direction : Bool) : Arcs ℕ := fun tail head weight =>
  ∃ edge ∈ facade.adjacent tail, edge.target = head ∧ edge.data.opens direction = true ∧
    edge.data.weight = weight

/-- The two sides of a search; the ends are the nodes that the heaps start with. -/
def searchSides (facade : QueryGraph) (forwardHeap reverseHeap : ChHeap) : Sides ℕ where
  arcs := searchArcs facade
  starts direction node key := ∃ entry, (if direction then forwardHeap else
    reverseHeap).getHeapNodeIfWasInserted node = some entry ∧ entry.weight = key

/-! ## Single functions -/

theorem addEdgeWeight_eq_ok {first second sum : ℤ} (added : addEdgeWeight first second = .ok sum) :
    sum = first + second := by
  rw [addEdgeWeight] at added
  split at added
  · cases added
    rfl
  · cases added

/-- What the relaxed edges of a settled node do to the heap. -/
structure Relaxes (arcs : Arcs ℕ) (heapNode : HeapNode ℤ ChHeapData) (before after : ChHeap) :
    Prop where
  distinct : before.Distinct → after.Distinct
  kept : ∀ {node : ℕ} {entry : HeapNode ℤ ChHeapData},
    before.getHeapNodeIfWasInserted node = some entry →
    ∃ next, after.getHeapNodeIfWasInserted node = some next ∧ next.weight ≤ entry.weight ∧
      next.inHeap = entry.inHeap ∧ (entry.inHeap = false → next = entry)
  only : ∀ {node : ℕ} {entry : HeapNode ℤ ChHeapData},
    after.getHeapNodeIfWasInserted node = some entry →
    before.getHeapNodeIfWasInserted node = some entry ∨
      (entry.inHeap = true ∧ entry.data.parent = heapNode.node ∧
        ∃ weight, arcs heapNode.node node weight ∧ heapNode.weight + (weight : ℤ) = entry.weight)

section Relaxing

variable {arcs : Arcs ℕ} {heapNode : HeapNode ℤ ChHeapData} {before middle after : ChHeap}
  {direction : Bool} {facade : QueryGraph} {edge : DynamicEdge QueryEdgeData}

theorem Relaxes.refl (arcs : Arcs ℕ) (heapNode : HeapNode ℤ ChHeapData) (heap : ChHeap) :
    Relaxes arcs heapNode heap heap :=
  ⟨fun distinct => distinct, fun found => ⟨_, found, le_refl _, rfl, fun _ => rfl⟩, Or.inl⟩

theorem Relaxes.trans (first : Relaxes arcs heapNode before middle)
    (second : Relaxes arcs heapNode middle after) : Relaxes arcs heapNode before after := by
  refine ⟨fun distinct => second.distinct (first.distinct distinct), ?_, ?_⟩
  case refine_1 =>
    intro node entry found
    obtain ⟨next, found, le, same, frozen⟩ := first.kept found
    obtain ⟨last, found, le', same', frozen'⟩ := second.kept found
    refine ⟨last, found, le_trans le' le, same'.trans same, fun settled => ?_⟩
    rw [frozen' (same.trans settled), frozen settled]
  case refine_2 =>
    intro node entry found
    rcases second.only found with unchanged | lowered
    · exact first.only unchanged
    · exact Or.inr lowered

theorem relaxes_insert {target weight : ℕ} (arc : arcs heapNode.node target weight)
    (fresh : before.getHeapNodeIfWasInserted target = none) :
    Relaxes arcs heapNode before
      (before.insert target (heapNode.weight + weight) ⟨heapNode.node⟩) := by
  refine ⟨fun distinct => distinct.insert fresh, ?_, ?_⟩
  case refine_1 =>
    intro node entry found
    have ne : node ≠ target := by
      rintro rfl
      rw [fresh] at found
      cases found
    exact ⟨entry, (QueryHeap.getHeapNode_insert_ne ne).trans found, le_refl _, rfl, fun _ => rfl⟩
  case refine_2 =>
    intro node entry found
    by_cases same : node = target
    case pos =>
      subst same
      rw [QueryHeap.getHeapNode_insert_self fresh] at found
      cases found
      exact Or.inr ⟨rfl, rfl, weight, arc, rfl⟩
    case neg =>
      rw [QueryHeap.getHeapNode_insert_ne same] at found
      exact Or.inl found

theorem relaxes_decreaseKey {target weight : ℕ} (arc : arcs heapNode.node target weight)
    {toHeapNode : HeapNode ℤ ChHeapData}
    (stored : before.getHeapNodeIfWasInserted target = some toHeapNode)
    (shorter : heapNode.weight + (weight : ℤ) < toHeapNode.weight)
    (inside : toHeapNode.inHeap = true) :
    Relaxes arcs heapNode before
      (before.decreaseKey target (heapNode.weight + weight) ⟨heapNode.node⟩) := by
  refine ⟨fun distinct => distinct.decreaseKey, ?_, ?_⟩
  case refine_1 =>
    intro node entry found
    by_cases same : node = target
    case pos =>
      subst same
      rw [stored] at found
      cases found
      rw [QueryHeap.getHeapNode_decreaseKey_self, stored]
      refine ⟨_, rfl, le_of_lt shorter, rfl, fun settled => ?_⟩
      rw [inside] at settled
      cases settled
    case neg =>
      exact ⟨entry, (QueryHeap.getHeapNode_decreaseKey_ne same).trans found, le_refl _, rfl,
        fun _ => rfl⟩
  case refine_2 =>
    intro node entry found
    by_cases same : node = target
    case pos =>
      subst same
      rw [QueryHeap.getHeapNode_decreaseKey_self, stored] at found
      cases found
      exact Or.inr ⟨inside, rfl, weight, arc, rfl⟩
    case neg =>
      rw [QueryHeap.getHeapNode_decreaseKey_ne same] at found
      exact Or.inl found

/-- One relaxed edge, and the key that its target has then. -/
theorem relaxOutgoingEdge_spec (member : edge ∈ facade.adjacent heapNode.node)
    (relaxed : relaxOutgoingEdge direction heapNode before edge = .ok after) :
    Relaxes (searchArcs facade direction) heapNode before after ∧
      (edge.data.opens direction = true →
        ∃ entry, after.getHeapNodeIfWasInserted edge.target = some entry ∧
          entry.weight ≤ heapNode.weight + edge.data.weight) := by
  rw [relaxOutgoingEdge] at relaxed
  split at relaxed
  case isFalse closed =>
    cases relaxed
    exact ⟨Relaxes.refl _ _ _, fun opened => absurd opened closed⟩
  case isTrue opened =>
    have arc : searchArcs facade direction heapNode.node edge.target edge.data.weight :=
      ⟨edge, member, rfl, opened, rfl⟩
    split at relaxed
    case h_1 => cases relaxed
    case h_2 toWeight added =>
      obtain rfl := addEdgeWeight_eq_ok added
      split at relaxed
      case h_1 fresh =>
        cases relaxed
        exact ⟨relaxes_insert arc fresh,
          fun _ => ⟨_, QueryHeap.getHeapNode_insert_self fresh, le_refl _⟩⟩
      case h_2 toHeapNode stored =>
        split at relaxed
        case isTrue shorter =>
          split at relaxed
          case isFalse => cases relaxed
          case isTrue inside =>
            cases relaxed
            refine ⟨relaxes_decreaseKey arc stored shorter inside, fun _ => ?_⟩
            rw [QueryHeap.getHeapNode_decreaseKey_self, stored]
            exact ⟨_, rfl, le_refl _⟩
        case isFalse longer =>
          cases relaxed
          exact ⟨Relaxes.refl _ _ _, fun _ => ⟨toHeapNode, stored, not_lt.mp longer⟩⟩

theorem relaxOutgoingEdges_spec
    (relaxed : relaxOutgoingEdges direction facade heapNode before = .ok after) :
    Relaxes (searchArcs facade direction) heapNode before after ∧
      ∀ {target weight : ℕ}, searchArcs facade direction heapNode.node target weight →
        ∃ entry, after.getHeapNodeIfWasInserted target = some entry ∧
          entry.weight ≤ heapNode.weight + weight := by
  have step : ∀ edge ∈ facade.adjacent heapNode.node, ∀ source target : ChHeap,
      Relaxes (searchArcs facade direction) heapNode before source →
      relaxOutgoingEdge direction heapNode source edge = .ok target →
      Relaxes (searchArcs facade direction) heapNode before target :=
    fun edge member source target relaxes turned =>
      relaxes.trans (relaxOutgoingEdge_spec member turned).1
  refine ⟨foldlM_invariant _ step (Relaxes.refl _ _ _) relaxed, ?_⟩
  have each := foldlM_each (Relaxes (searchArcs facade direction) heapNode before)
    (fun (edge : DynamicEdge QueryEdgeData) (heap : ChHeap) => edge.data.opens direction = true →
      ∃ entry, heap.getHeapNodeIfWasInserted edge.target = some entry ∧
        entry.weight ≤ heapNode.weight + edge.data.weight) step
    (fun edge member source target _ turned => (relaxOutgoingEdge_spec member turned).2)
    (fun edge member other source target _ done turned opened => by
      obtain ⟨entry, found, le⟩ := done opened
      obtain ⟨next, found, le', _⟩ := (relaxOutgoingEdge_spec member turned).1.kept found
      exact ⟨next, found, le_trans le' le⟩) (Relaxes.refl _ _ _) relaxed
  rintro target weight ⟨edge, member, rfl, opened, rfl⟩
  exact each edge member opened

/-- A stalled node would be reached lighter through an arc of the other side. -/
theorem stallAtNode_spec {heap : ChHeap}
    (stalled : stallAtNode direction facade heapNode heap = .ok true) :
    ∃ target weight entry, searchArcs facade (!direction) heapNode.node target weight ∧
      heap.getHeapNodeIfWasInserted target = some entry ∧
      entry.weight + (weight : ℤ) < heapNode.weight := by
  have loop : ∀ edges : List (DynamicEdge QueryEdgeData),
      (∀ edge ∈ edges, edge ∈ facade.adjacent heapNode.node) →
      stallEdges direction heapNode heap edges = .ok true →
      ∃ target weight entry, searchArcs facade (!direction) heapNode.node target weight ∧
        heap.getHeapNodeIfWasInserted target = some entry ∧
        entry.weight + (weight : ℤ) < heapNode.weight := by
    intro edges inside stalled
    induction edges with
    | nil => cases stalled
    | cons edge rest ih =>
        rw [List.forall_mem_cons] at inside
        rw [stallEdges] at stalled
        split at stalled
        case isFalse => exact ih inside.2 stalled
        case isTrue opened =>
          split at stalled
          case h_1 => exact ih inside.2 stalled
          case h_2 toHeapNode found =>
            split at stalled
            case h_1 => cases stalled
            case h_2 weight added =>
              obtain rfl := addEdgeWeight_eq_ok added
              split at stalled
              case isTrue lighter =>
                exact ⟨edge.target, edge.data.weight, toHeapNode,
                  ⟨edge, inside.1, rfl, opened, rfl⟩, found, lighter⟩
              case isFalse => exact ih inside.2 stalled
  exact loop _ (fun _ member => member) stalled

/-- Without forced loops and negative sums, a settled node that the other side has reached bounds
the weight. -/
theorem meetAtNode_spec {reverseHeapNode : Option (HeapNode ℤ ChHeapData)} {meeting met : Meeting}
    (sums : ∀ reverse, reverseHeapNode = some reverse → 0 ≤ reverse.weight + heapNode.weight)
    (meets : meetAtNode direction facade heapNode reverseHeapNode [] [] meeting = .ok met) :
    (met = meeting ∧ ∀ reverse, reverseHeapNode = some reverse →
      meeting.upperBound ≤ reverse.weight + heapNode.weight) ∨
    ∃ reverse, reverseHeapNode = some reverse ∧
      reverse.weight + heapNode.weight < meeting.upperBound ∧
      met = ⟨heapNode.node, reverse.weight + heapNode.weight⟩ := by
  cases reverseHeapNode with
  | none =>
      cases meets
      exact Or.inl ⟨rfl, fun _ none => absurd none.symm (Option.some_ne_none _)⟩
  | some reverse =>
      rw [meetAtNode] at meets
      split at meets
      case h_1 => cases meets
      case h_2 newWeight added =>
        obtain rfl := addEdgeWeight_eq_ok added
        have positive : decide (reverse.weight + heapNode.weight < 0) = false :=
          decide_eq_false (not_lt.mpr (sums reverse rfl))
        split at meets
        case isTrue lighter =>
          have free : forceLoop [] heapNode = false := rfl
          rw [free, positive, Bool.or_self, Bool.or_self, if_neg Bool.false_ne_true] at meets
          cases meets
          exact Or.inr ⟨reverse, rfl, lighter, rfl⟩
        case isFalse heavier =>
          cases meets
          refine Or.inl ⟨rfl, fun other same => ?_⟩
          obtain rfl := Option.some.inj same
          exact not_lt.mp heavier

end Relaxing

end Proximity.Routing
