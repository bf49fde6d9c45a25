import Proximity.Routing.ChSearchInvariant

/-!
# What may go wrong in the search of a hierarchy

Nodes leave a heap in the order of their keys, so that no key is decreased through the handle of a
node that has left; and where the sides have met, both have a key.  What is left is the overflow
of a sum.
-/

namespace Proximity.Routing

open Proximity.Systems

/-- The only way to fail. -/
def IsOverflow (undefined : Undefined) : Prop := undefined = .overflow

section Turns

variable {facade : QueryGraph} {direction : Bool} {heap after : ChHeap}
  {heapNode : HeapNode ℤ ChHeapData} {edge : DynamicEdge QueryEdgeData} {meeting met : Meeting}
  {forceForward forceReverse : List ℕ}

theorem addEdgeWeight_fails {first second : ℤ} :
    FailsOnly IsOverflow (addEdgeWeight first second) := by
  rw [addEdgeWeight]
  split
  · exact failsOnly_ok
  · exact failsOnly_error.mpr rfl

theorem stallAtNode_fails : FailsOnly IsOverflow (stallAtNode direction facade heapNode heap) := by
  rw [stallAtNode]
  generalize facade.adjacent heapNode.node = edges
  induction edges with
  | nil => exact failsOnly_ok
  | cons edge rest ih =>
      rw [stallEdges]
      split
      case isFalse => exact ih
      case isTrue =>
        split
        case h_1 => exact ih
        case h_2 =>
          split
          case h_1 undefined failed =>
            exact failsOnly_error.mpr (addEdgeWeight_fails undefined failed)
          case h_2 =>
            split
            · exact failsOnly_ok
            · exact ih

/-- A loop at the node leaves the meeting or meets at the node. -/
theorem loopAtEdge_fails {node : ℕ} {newWeight : ℤ} :
    FailsOnly IsOverflow (loopAtEdge direction node newWeight meeting edge) ∧
      ∀ {met}, loopAtEdge direction node newWeight meeting edge = .ok met →
        met = meeting ∨ met.middle = node := by
  rw [loopAtEdge]
  split
  case isFalse => exact ⟨failsOnly_ok, fun same => by cases same; exact Or.inl rfl⟩
  case isTrue =>
    split
    case h_1 undefined failed =>
      exact ⟨failsOnly_error.mpr (addEdgeWeight_fails undefined failed), fun same => by cases same⟩
    case h_2 =>
      split
      case isTrue => exact ⟨failsOnly_ok, fun same => by cases same; exact Or.inr rfl⟩
      case isFalse => exact ⟨failsOnly_ok, fun same => by cases same; exact Or.inl rfl⟩

theorem meetAtNode_fails {reverseHeapNode : Option (HeapNode ℤ ChHeapData)} :
    FailsOnly IsOverflow (meetAtNode direction facade heapNode reverseHeapNode forceForward
      forceReverse meeting) := by
  cases reverseHeapNode with
  | none => exact failsOnly_ok
  | some reverse =>
      rw [meetAtNode]
      split
      case h_1 undefined failed =>
        exact failsOnly_error.mpr (addEdgeWeight_fails undefined failed)
      case h_2 =>
        split
        case isFalse => exact failsOnly_ok
        case isTrue =>
          split
          case isFalse => exact failsOnly_ok
          case isTrue =>
            exact FailsOnly.foldlM (fun _ => True) (fun _ _ _ _ => loopAtEdge_fails.1)
              (fun _ _ _ _ _ _ => trivial) trivial

/-- The sides meet at the settled node only, and only if the other side has been there. -/
theorem meetAtNode_middle {reverseHeapNode : Option (HeapNode ℤ ChHeapData)}
    (meets : meetAtNode direction facade heapNode reverseHeapNode forceForward forceReverse
      meeting = .ok met) :
    met = meeting ∨ (met.middle = heapNode.node ∧ ∃ reverse, reverseHeapNode = some reverse) := by
  cases reverseHeapNode with
  | none =>
      cases meets
      exact Or.inl rfl
  | some reverse =>
      rw [meetAtNode] at meets
      split at meets
      case h_1 => cases meets
      case h_2 =>
        split at meets
        case isFalse =>
          cases meets
          exact Or.inl rfl
        case isTrue =>
          split at meets
          case isFalse =>
            cases meets
            exact Or.inr ⟨rfl, reverse, rfl⟩
          case isTrue =>
            refine foldlM_invariant (fun met : Meeting => met = meeting ∨
              (met.middle = heapNode.node ∧ ∃ other, some reverse = some other)) ?_ (Or.inl rfl)
              meets
            intro edge _ before after holds turned
            rcases loopAtEdge_fails.2 turned with rfl | same
            · exact holds
            · exact Or.inr ⟨same, reverse, rfl⟩

theorem relaxOutgoingEdge_between (between : QueryHeap.Between heapNode.weight heap)
    (relaxed : relaxOutgoingEdge direction heapNode heap edge = .ok after) :
    QueryHeap.Between heapNode.weight after := by
  rw [relaxOutgoingEdge] at relaxed
  split at relaxed
  case isFalse =>
    cases relaxed
    exact between
  case isTrue =>
    split at relaxed
    case h_1 => cases relaxed
    case h_2 toWeight added =>
      obtain rfl := addEdgeWeight_eq_ok added
      have le : heapNode.weight ≤ heapNode.weight + (edge.data.weight : ℤ) := by omega
      split at relaxed
      case h_1 fresh =>
        cases relaxed
        exact between.insert fresh le
      case h_2 toHeapNode stored =>
        split at relaxed
        case isTrue shorter =>
          split at relaxed
          case isFalse => cases relaxed
          case isTrue =>
            cases relaxed
            exact between.decreaseKey stored le shorter
        case isFalse =>
          cases relaxed
          exact between

theorem relaxOutgoingEdge_fails (between : QueryHeap.Between heapNode.weight heap) :
    FailsOnly IsOverflow (relaxOutgoingEdge direction heapNode heap edge) := by
  rw [relaxOutgoingEdge]
  split
  case isFalse => exact failsOnly_ok
  case isTrue =>
    split
    case h_1 undefined failed =>
      exact failsOnly_error.mpr (addEdgeWeight_fails undefined failed)
    case h_2 toWeight added =>
      obtain rfl := addEdgeWeight_eq_ok added
      split
      case h_1 => exact failsOnly_ok
      case h_2 toHeapNode stored =>
        split
        case isFalse => exact failsOnly_ok
        case isTrue shorter =>
          split
          case isTrue => exact failsOnly_ok
          case isFalse gone =>
            have le : heapNode.weight ≤ heapNode.weight + (edge.data.weight : ℤ) := by omega
            exact absurd (between.inHeap_of_lt stored le shorter) gone

end Turns

/-- The heaps are in order, and both have a key where they have met. -/
structure Keyed (own other : ChHeap) (meeting : Meeting) : Prop where
  ordered : own.Ordered
  orderedOther : other.Ordered
  met : meeting.middle = specialNodeId ∨
    ((∃ first, own.getHeapNodeIfWasInserted meeting.middle = some first) ∧
      ∃ second, other.getHeapNodeIfWasInserted meeting.middle = some second)

section Loop

variable {facade : QueryGraph} {direction : Bool} {own other after : ChHeap} {meeting met : Meeting}
  {offset bound : ℤ} {forceForward forceReverse : List ℕ} {state : ChSearchState}

theorem Keyed.swap (keyed : Keyed own other meeting) : Keyed other own meeting :=
  ⟨keyed.orderedOther, keyed.ordered, keyed.met.imp_right And.symm⟩

theorem Keyed.fails (keyed : Keyed own other meeting) :
    FailsOnly IsOverflow (routingStep direction facade own other meeting offset forceForward
      forceReverse) := by
  rw [routingStep]
  split
  case h_1 => exact failsOnly_ok
  case h_2 heapNode popped deleted =>
    refine meetAtNode_fails.bind fun met _ => addEdgeWeight_fails.bind fun least _ => ?_
    split
    case isTrue => exact failsOnly_ok
    case isFalse =>
      refine stallAtNode_fails.bind fun stalled _ => ?_
      split
      case isTrue => exact failsOnly_ok
      case isFalse =>
        refine FailsOnly.bind ?_ fun relaxed _ => failsOnly_ok
        exact FailsOnly.foldlM (QueryHeap.Between heapNode.weight)
          (fun _ _ _ between => relaxOutgoingEdge_fails between)
          (fun _ _ _ _ between relaxed => relaxOutgoingEdge_between between relaxed)
          (keyed.ordered.deleteMin deleted)

theorem Keyed.step (keyed : Keyed own other meeting)
    (stepped : routingStep direction facade own other meeting offset forceForward forceReverse =
      .ok (after, met)) : Keyed after other met := by
  rw [routingStep] at stepped
  split at stepped
  case h_1 =>
    cases stepped
    exact keyed
  case h_2 heapNode popped deleted =>
    have between := keyed.ordered.deleteMin deleted
    obtain ⟨middle, meets, stepped⟩ := bind_eq_ok_iff.mp stepped
    obtain ⟨least, _, stepped⟩ := bind_eq_ok_iff.mp stepped
    have known : middle.middle = specialNodeId ∨
        ((∃ first, popped.getHeapNodeIfWasInserted middle.middle = some first) ∧
          ∃ second, other.getHeapNodeIfWasInserted middle.middle = some second) := by
      rcases meetAtNode_middle meets with rfl | ⟨same, reverse, found⟩
      case inl =>
        refine keyed.met.imp_right fun both => ⟨?_, both.2⟩
        obtain ⟨first, found⟩ := both.1
        obtain ⟨next, stored, _⟩ := popped_kept keyed.ordered.distinct deleted found
        exact ⟨next, stored⟩
      case inr =>
        rw [same]
        exact Or.inr ⟨⟨_, (popped_self keyed.ordered.distinct deleted).2⟩, reverse, found⟩
    split at stepped
    case isTrue =>
      cases stepped
      refine ⟨QueryHeap.ordered_deleteAll between.distinct, keyed.orderedOther,
        known.imp_right fun both => ⟨?_, both.2⟩⟩
      obtain ⟨first, found⟩ := both.1
      rw [QueryHeap.getHeapNode_deleteAll, found]
      exact ⟨_, rfl⟩
    case isFalse =>
      obtain ⟨stalled, _, stepped⟩ := bind_eq_ok_iff.mp stepped
      split at stepped
      case isTrue =>
        cases stepped
        exact ⟨between.ordered, keyed.orderedOther, known⟩
      case isFalse =>
        obtain ⟨relaxed, relaxes, stepped⟩ := bind_eq_ok_iff.mp stepped
        cases stepped
        have kept := foldlM_invariant (QueryHeap.Between heapNode.weight)
          (fun _ _ _ _ between relaxed => relaxOutgoingEdge_between between relaxed) between
          relaxes
        refine ⟨kept.ordered, keyed.orderedOther,
          known.imp_right fun both => ⟨?_, both.2⟩⟩
        obtain ⟨first, found⟩ := both.1
        obtain ⟨next, stored, _⟩ := (relaxOutgoingEdges_spec relaxes).1.kept found
        exact ⟨next, stored⟩

/-- What holds between the turns. -/
def ChSearchState.Keyed (state : ChSearchState) : Prop :=
  Routing.Keyed state.forwardHeap state.reverseHeap state.meeting

theorem ChSearchState.Keyed.searchTurn (keyed : state.Keyed) (facade : QueryGraph) (offset : ℤ)
    (forceForward forceReverse : List ℕ) :
    FailsOnly IsOverflow (searchTurn facade offset forceForward forceReverse state) ∧
      ∀ {next}, Routing.searchTurn facade offset forceForward forceReverse state = .ok next →
        next.Keyed := by
  have forth : ∀ {next},
      forwardTurn facade offset forceForward forceReverse state = .ok next → next.Keyed := by
    intro next turned
    rw [forwardTurn] at turned
    split at turned
    case isTrue =>
      cases turned
      exact keyed
    case isFalse =>
      obtain ⟨⟨after, met⟩, stepped, turned⟩ := bind_eq_ok_iff.mp turned
      cases turned
      exact Routing.Keyed.step keyed stepped
  constructor
  case left =>
    refine FailsOnly.bind ?_ fun middle turned => ?_
    case refine_1 =>
      rw [forwardTurn]
      split
      case isTrue => exact failsOnly_ok
      case isFalse => exact (Routing.Keyed.fails keyed).bind fun _ _ => failsOnly_ok
    case refine_2 =>
      rw [reverseTurn]
      split
      case isTrue => exact failsOnly_ok
      case isFalse => exact (Routing.Keyed.fails (forth turned).swap).bind fun _ _ => failsOnly_ok
  case right =>
    intro next turned
    obtain ⟨middle, first, second⟩ := bind_eq_ok_iff.mp turned
    rw [reverseTurn] at second
    split at second
    case isTrue =>
      cases second
      exact forth first
    case isFalse =>
      obtain ⟨⟨after, met⟩, stepped, second⟩ := bind_eq_ok_iff.mp second
      cases second
      exact (Routing.Keyed.step (forth first).swap stepped).swap

theorem searchLoop_fails {turns : ℕ} (keyed : state.Keyed) :
    FailsOnly IsOverflow (searchLoop facade offset forceForward forceReverse turns state) ∧
      ∀ {final}, searchLoop facade offset forceForward forceReverse turns state = .ok final →
        final.Keyed := by
  induction turns generalizing state with
  | zero => exact ⟨failsOnly_ok, fun same => by cases same; exact keyed⟩
  | succ turns ih =>
      rw [searchLoop]
      split
      case isTrue => exact ⟨failsOnly_ok, fun same => by cases same; exact keyed⟩
      case isFalse =>
        obtain ⟨fails, kept⟩ := keyed.searchTurn facade offset forceForward forceReverse
        split
        case h_1 undefined failed =>
          exact ⟨failsOnly_error.mpr (fails undefined failed), fun same => by cases same⟩
        case h_2 next turned => exact ih (kept turned)

theorem routeOf_fails (keyed : state.Keyed) : FailsOnly IsOverflow (routeOf bound state) := by
  rw [routeOf]
  split
  case isTrue => exact failsOnly_ok
  case isFalse found =>
    rcases keyed.met with unmet | ⟨⟨first, stored⟩, second, stored'⟩
    case inl => exact absurd (Or.inr unmet) found
    case inr =>
      rw [QueryHeap.getKey, QueryHeap.getKey, stored, stored']
      dsimp only [Option.map_some]
      split
      case h_1 undefined failed =>
        exact failsOnly_error.mpr (addEdgeWeight_fails undefined failed)
      case h_2 => split <;> exact failsOnly_ok

end Loop

end Proximity.Routing
