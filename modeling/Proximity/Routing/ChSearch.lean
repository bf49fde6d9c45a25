import Proximity.Routing.QueryGraph
import Proximity.Systems.Meeting

/-!
# The search of a contraction hierarchy

`routingStep` settles the node with the least key of one heap, meets the other heap there, stops
the side that can no longer improve, and relaxes the edges of the node unless it is stalled.
`search` turns between the sides until both heaps are empty.
-/

namespace Proximity.Routing

open Proximity.Systems

/-- `HeapData`. -/
structure ChHeapData where
  parent : ℕ
  deriving DecidableEq, Repr

abbrev ChHeap : Type := QueryHeap ℤ ChHeapData

/-- `EdgeWeight + EdgeWeight`, where keys may be negative. -/
def addEdgeWeight (first second : ℤ) : Except Undefined ℤ :=
  if -2147483648 ≤ first + second ∧ first + second ≤ 2147483647 then .ok (first + second)
  else .error .overflow

/-- The flag of a direction; `FORWARD_DIRECTION` is `true`. -/
def QueryEdgeData.opens (data : QueryEdgeData) (direction : Bool) : Bool :=
  if direction then data.forward else data.backward

/-- The loop of `stallAtNode`. -/
def stallEdges (direction : Bool) (heapNode : HeapNode ℤ ChHeapData) (queryHeap : ChHeap) :
    List (DynamicEdge QueryEdgeData) → Except Undefined Bool
  | [] => .ok false
  | edge :: rest =>
      if edge.data.opens (!direction) then
        match queryHeap.getHeapNodeIfWasInserted edge.target with
        | none => stallEdges direction heapNode queryHeap rest
        | some toHeapNode =>
            match addEdgeWeight toHeapNode.weight edge.data.weight with
            | .error undefined => .error undefined
            | .ok weight =>
                if weight < heapNode.weight then .ok true
                else stallEdges direction heapNode queryHeap rest
      else stallEdges direction heapNode queryHeap rest

def stallAtNode (direction : Bool) (facade : QueryGraph) (heapNode : HeapNode ℤ ChHeapData)
    (queryHeap : ChHeap) : Except Undefined Bool :=
  stallEdges direction heapNode queryHeap (facade.adjacent heapNode.node)

/-- One turn of the loop of `relaxOutgoingEdges`. -/
def relaxOutgoingEdge (direction : Bool) (heapNode : HeapNode ℤ ChHeapData) (heap : ChHeap)
    (edge : DynamicEdge QueryEdgeData) : Except Undefined ChHeap :=
  if edge.data.opens direction then
    match addEdgeWeight heapNode.weight edge.data.weight with
    | .error undefined => .error undefined
    | .ok toWeight =>
        match heap.getHeapNodeIfWasInserted edge.target with
        | none => .ok (heap.insert edge.target toWeight ⟨heapNode.node⟩)
        | some toHeapNode =>
            if toWeight < toHeapNode.weight then
              if toHeapNode.inHeap then
                .ok (heap.decreaseKey edge.target toWeight ⟨heapNode.node⟩)
              else .error .handle
            else .ok heap
  else .ok heap

def relaxOutgoingEdges (direction : Bool) (facade : QueryGraph)
    (heapNode : HeapNode ℤ ChHeapData) (heap : ChHeap) : Except Undefined ChHeap :=
  (facade.adjacent heapNode.node).foldlM (relaxOutgoingEdge direction heapNode) heap

/-- `force_loop`. -/
def forceLoop (forceNodes : List ℕ) (heapNode : HeapNode ℤ ChHeapData) : Bool :=
  !forceNodes.isEmpty && forceNodes.contains heapNode.node &&
    heapNode.data.parent == heapNode.node

/-- The least way so far, and where it meets. -/
structure Meeting where
  middle : ℕ
  upperBound : ℤ
  deriving DecidableEq, Repr

/-- One turn of the loop over the edges that looks for a loop at the node. -/
def loopAtEdge (direction : Bool) (node : ℕ) (newWeight : ℤ) (meeting : Meeting)
    (edge : DynamicEdge QueryEdgeData) : Except Undefined Meeting :=
  if edge.data.opens direction && edge.target == node then
    match addEdgeWeight newWeight edge.data.weight with
    | .error undefined => .error undefined
    | .ok loopWeight =>
        if 0 ≤ loopWeight ∧ loopWeight < meeting.upperBound then .ok ⟨node, loopWeight⟩
        else .ok meeting
  else .ok meeting

/-- What a settled node does where the other side has been. -/
def meetAtNode (direction : Bool) (facade : QueryGraph) (heapNode : HeapNode ℤ ChHeapData)
    (reverseHeapNode : Option (HeapNode ℤ ChHeapData)) (forceForward forceReverse : List ℕ)
    (meeting : Meeting) : Except Undefined Meeting :=
  match reverseHeapNode with
  | none => .ok meeting
  | some reverse =>
      match addEdgeWeight reverse.weight heapNode.weight with
      | .error undefined => .error undefined
      | .ok newWeight =>
          if newWeight < meeting.upperBound then
            if forceLoop forceForward heapNode || forceLoop forceReverse heapNode ||
                decide (newWeight < 0) then
              (facade.adjacent heapNode.node).foldlM
                (loopAtEdge direction heapNode.node newWeight) meeting
            else .ok ⟨heapNode.node, newWeight⟩
          else .ok meeting

/-- The callers see to it that the heap is not empty. -/
def routingStep (direction : Bool) (facade : QueryGraph) (forwardHeap reverseHeap : ChHeap)
    (meeting : Meeting) (minEdgeOffset : ℤ) (forceForward forceReverse : List ℕ) :
    Except Undefined (ChHeap × Meeting) :=
  match forwardHeap.deleteMin with
  | none => .ok (forwardHeap, meeting)
  | some (heapNode, popped) => do
      let met ← meetAtNode direction facade heapNode
        (reverseHeap.getHeapNodeIfWasInserted heapNode.node) forceForward forceReverse meeting
      let least ← addEdgeWeight heapNode.weight minEdgeOffset
      if met.upperBound < least then .ok (popped.deleteAll, met)
      else do
        let stalled ← stallAtNode direction facade heapNode popped
        if stalled then .ok (popped, met)
        else do
          let relaxed ← relaxOutgoingEdges direction facade heapNode popped
          .ok (relaxed, met)

structure ChSearchState where
  forwardHeap : ChHeap
  reverseHeap : ChHeap
  meeting : Meeting
  deriving DecidableEq, Repr

/-- The first half of a turn of the loop of `search`. -/
def forwardTurn (facade : QueryGraph) (minEdgeOffset : ℤ) (forceForward forceReverse : List ℕ)
    (state : ChSearchState) : Except Undefined ChSearchState :=
  if state.forwardHeap.empty then .ok state
  else do
    let stepped ← routingStep true facade state.forwardHeap state.reverseHeap state.meeting
      minEdgeOffset forceForward forceReverse
    .ok { state with forwardHeap := stepped.1, meeting := stepped.2 }

def reverseTurn (facade : QueryGraph) (minEdgeOffset : ℤ) (forceForward forceReverse : List ℕ)
    (state : ChSearchState) : Except Undefined ChSearchState :=
  if state.reverseHeap.empty then .ok state
  else do
    let stepped ← routingStep false facade state.reverseHeap state.forwardHeap state.meeting
      minEdgeOffset forceReverse forceForward
    .ok { state with reverseHeap := stepped.1, meeting := stepped.2 }

/-- One turn of the loop of `search`. -/
def searchTurn (facade : QueryGraph) (minEdgeOffset : ℤ) (forceForward forceReverse : List ℕ)
    (state : ChSearchState) : Except Undefined ChSearchState := do
  let forth ← forwardTurn facade minEdgeOffset forceForward forceReverse state
  reverseTurn facade minEdgeOffset forceForward forceReverse forth

/-- The loop of `search`, for at most so many turns. -/
def searchLoop (facade : QueryGraph) (minEdgeOffset : ℤ) (forceForward forceReverse : List ℕ) :
    ℕ → ChSearchState → Except Undefined ChSearchState
  | 0, state => .ok state
  | turns + 1, state =>
      if state.forwardHeap.size + state.reverseHeap.size = 0 then .ok state
      else
        match searchTurn facade minEdgeOffset forceForward forceReverse state with
        | .error undefined => .error undefined
        | .ok next => searchLoop facade minEdgeOffset forceForward forceReverse turns next

/-- The loop of `retrievePackedPathFromSingleHeap`, for at most so many turns. -/
def retrieveLoop (searchHeap : ChHeap) : ℕ → ℕ → List ℕ
  | 0, _ => []
  | turns + 1, current =>
      match searchHeap.getHeapNodeIfWasInserted current with
      | none => []
      | some entry =>
          if current != entry.data.parent && searchHeap.wasInserted entry.data.parent then
            entry.data.parent :: retrieveLoop searchHeap turns entry.data.parent
          else []

/-- No parent is visited twice. -/
def retrievePackedPathFromSingleHeap (searchHeap : ChHeap) (middleNodeId : ℕ) : List ℕ :=
  retrieveLoop searchHeap searchHeap.length middleNodeId

def retrievePackedPathFromHeap (forwardHeap reverseHeap : ChHeap) (middleNodeId : ℕ) : List ℕ :=
  (retrievePackedPathFromSingleHeap forwardHeap middleNodeId).reverse ++ [middleNodeId] ++
    retrievePackedPathFromSingleHeap reverseHeap middleNodeId

/-- The weight and the packed leg. -/
structure ChRoute where
  weight : ℤ
  packedLeg : List ℕ
  deriving DecidableEq, Repr

/-- What `search` returns from the state that its loop has left. -/
def routeOf (weightUpperBound : ℤ) (state : ChSearchState) : Except Undefined ChRoute :=
  if weightUpperBound ≤ state.meeting.upperBound ∨ state.meeting.middle = specialNodeId then
    .ok ⟨invalidEdgeWeight, []⟩
  else
    match state.forwardHeap.getKey state.meeting.middle,
      state.reverseHeap.getKey state.meeting.middle with
    | some first, some second =>
        match addEdgeWeight first second with
        | .error undefined => .error undefined
        | .ok sum =>
            if state.meeting.upperBound ≠ sum then
              .ok ⟨state.meeting.upperBound, [state.meeting.middle, state.meeting.middle]⟩
            else
              .ok ⟨state.meeting.upperBound, retrievePackedPathFromHeap state.forwardHeap
                state.reverseHeap state.meeting.middle⟩
    | _, _ => .error .key

/-- `search` with an empty `packed_leg`.  Each turn settles a node, on a side where it is in the
heap, so that there are at most twice as many turns as nodes. -/
def chSearch (facade : QueryGraph) (forwardHeap reverseHeap : ChHeap)
    (forceForward forceReverse : List ℕ) (weightUpperBound : ℤ) : Except Undefined ChRoute :=
  match forwardHeap.minKey, reverseHeap.minKey with
  | some least, some _ => do
      let state ← searchLoop facade (min 0 least) forceForward forceReverse
        (2 * facade.getNumberOfNodes) ⟨forwardHeap, reverseHeap, ⟨specialNodeId, weightUpperBound⟩⟩
      routeOf weightUpperBound state
  | _, _ => .ok ⟨invalidEdgeWeight, []⟩

end Proximity.Routing
