import Mathlib.Data.List.Nodup
import Mathlib.Order.Lattice

/-!
# The query heap

`util::QueryHeap` remembers every node that was inserted since it was cleared, with its key and
its data, also when the node has left the heap.  Here it is the list `inserted_nodes`, from
which the least node and the node of an index are read.
-/

namespace Proximity.Routing

universe u v

/-- `inHeap` is that the handle is not the one of no element. -/
structure HeapNode (Weight : Type u) (Data : Type v) where
  inHeap : Bool
  node : ℕ
  weight : Weight
  data : Data
  deriving DecidableEq, Repr

/-- `inserted_nodes`, in the order of their insertion. -/
abbrev QueryHeap (Weight : Type u) (Data : Type v) : Type (max u v) := List (HeapNode Weight Data)

variable {Weight : Type u} {Data : Type v}

/-- The member of the list with the least weight, and among those the first. -/
def leastInHeap [LinearOrder Weight] : List (HeapNode Weight Data) → Option (HeapNode Weight Data)
  | [] => none
  | first :: rest =>
      match leastInHeap rest with
      | none => if first.inHeap then some first else none
      | some best =>
          if first.inHeap && decide (first.weight ≤ best.weight) then some first else some best

namespace QueryHeap

def empty (heap : QueryHeap Weight Data) : Bool :=
  !heap.any HeapNode.inHeap

/-- The number of the nodes that are in the heap. -/
def size (heap : QueryHeap Weight Data) : ℕ :=
  heap.countP HeapNode.inHeap

def insert (heap : QueryHeap Weight Data) (node : ℕ) (weight : Weight) (data : Data) :
    QueryHeap Weight Data :=
  heap ++ [⟨true, node, weight, data⟩]

def getHeapNodeIfWasInserted (heap : QueryHeap Weight Data) (node : ℕ) :
    Option (HeapNode Weight Data) :=
  heap.find? fun entry => entry.node == node

def wasInserted (heap : QueryHeap Weight Data) (node : ℕ) : Bool :=
  heap.any fun entry => entry.node == node

/-- The key of a node that was not inserted is not defined. -/
def getKey (heap : QueryHeap Weight Data) (node : ℕ) : Option Weight :=
  (heap.getHeapNodeIfWasInserted node).map HeapNode.weight

/-- A write through the reference to the entry of a node. -/
def write (heap : QueryHeap Weight Data) (node : ℕ)
    (change : HeapNode Weight Data → HeapNode Weight Data) : QueryHeap Weight Data :=
  heap.map fun entry => if entry.node = node then change entry else entry

/-- `DecreaseKey`, with the data that its callers write beside the weight. -/
def decreaseKey (heap : QueryHeap Weight Data) (node : ℕ) (weight : Weight) (data : Data) :
    QueryHeap Weight Data :=
  heap.write node fun entry => { entry with weight := weight, data := data }

/-- The node's handle becomes the one of no element. -/
def remove (heap : QueryHeap Weight Data) (node : ℕ) : QueryHeap Weight Data :=
  heap.write node fun entry => { entry with inHeap := false }

section Order

variable [LinearOrder Weight]

def minKey (heap : QueryHeap Weight Data) : Option Weight :=
  (leastInHeap heap).map HeapNode.weight

/-- The node with the least key leaves the heap and stays inserted. -/
def deleteMin (heap : QueryHeap Weight Data) :
    Option (HeapNode Weight Data × QueryHeap Weight Data) :=
  match leastInHeap heap with
  | none => none
  | some least => some (least, heap.remove least.node)

end Order

def deleteAll (heap : QueryHeap Weight Data) : QueryHeap Weight Data :=
  heap.map fun entry => { entry with inHeap := false }

/-- No node was inserted twice. -/
def Distinct (heap : QueryHeap Weight Data) : Prop :=
  (heap.map HeapNode.node).Nodup

section Lookups

variable {heap : QueryHeap Weight Data} {node other : ℕ} {entry : HeapNode Weight Data}

theorem mem_of_getHeapNode (found : heap.getHeapNodeIfWasInserted node = some entry) :
    entry ∈ heap ∧ entry.node = node := by
  rw [getHeapNodeIfWasInserted] at found
  have same := List.find?_some found
  exact ⟨List.mem_of_find?_eq_some found, beq_iff_eq.mp same⟩

theorem getHeapNode_of_mem (distinct : heap.Distinct) (member : entry ∈ heap) :
    heap.getHeapNodeIfWasInserted entry.node = some entry := by
  induction heap with
  | nil => cases member
  | cons first rest ih =>
      obtain ⟨fresh, later⟩ := List.nodup_cons.mp distinct
      rw [getHeapNodeIfWasInserted, List.find?_cons]
      rcases List.mem_cons.mp member with rfl | member
      · rw [beq_self_eq_true]
      · have ne : (first.node == entry.node) = false := by
          rw [beq_eq_false_iff_ne]
          rintro same
          exact fresh (same ▸ List.mem_map_of_mem member)
        rw [ne]
        exact ih later member

theorem wasInserted_iff :
    heap.wasInserted node = true ↔ ∃ entry, heap.getHeapNodeIfWasInserted node = some entry := by
  rw [wasInserted, List.any_eq_true, getHeapNodeIfWasInserted, ← Option.isSome_iff_exists,
    List.find?_isSome]

theorem getHeapNode_of_not_inserted (fresh : heap.wasInserted node ≠ true) :
    heap.getHeapNodeIfWasInserted node = none := by
  rw [Option.eq_none_iff_forall_ne_some]
  exact fun entry found => fresh (wasInserted_iff.mpr ⟨entry, found⟩)

theorem getHeapNode_eq_none :
    heap.getHeapNodeIfWasInserted node = none ↔ node ∉ heap.map HeapNode.node := by
  rw [getHeapNodeIfWasInserted, List.find?_eq_none, List.mem_map, not_exists]
  refine forall_congr' fun entry => ?_
  rw [beq_iff_eq, not_and]

theorem nodes_write {change : HeapNode Weight Data → HeapNode Weight Data}
    (kept : ∀ entry, (change entry).node = entry.node) :
    (heap.write node change).map HeapNode.node = heap.map HeapNode.node := by
  rw [write, List.map_map]
  refine List.map_congr_left fun entry _ => ?_
  rw [Function.comp_apply]
  split
  · exact kept entry
  · rfl

theorem getHeapNode_write_self {change : HeapNode Weight Data → HeapNode Weight Data}
    (kept : ∀ entry, (change entry).node = entry.node) :
    (heap.write node change).getHeapNodeIfWasInserted node =
      (heap.getHeapNodeIfWasInserted node).map change := by
  induction heap with
  | nil => rfl
  | cons first rest ih =>
      rw [getHeapNodeIfWasInserted, write, List.map_cons, List.find?_cons,
        getHeapNodeIfWasInserted, List.find?_cons]
      by_cases same : first.node = node
      case pos => rw [if_pos same, kept, same, beq_self_eq_true, Option.map_some]
      case neg =>
        rw [if_neg same, beq_eq_false_iff_ne.mpr same]
        exact ih

theorem getHeapNode_write_ne {change : HeapNode Weight Data → HeapNode Weight Data}
    (kept : ∀ entry, (change entry).node = entry.node) (ne : other ≠ node) :
    (heap.write node change).getHeapNodeIfWasInserted other =
      heap.getHeapNodeIfWasInserted other := by
  induction heap with
  | nil => rfl
  | cons first rest ih =>
      rw [getHeapNodeIfWasInserted, write, List.map_cons, List.find?_cons,
        getHeapNodeIfWasInserted, List.find?_cons]
      by_cases same : first.node = node
      case pos =>
        rw [if_pos same, kept, same, beq_eq_false_iff_ne.mpr (Ne.symm ne)]
        exact ih
      case neg =>
        rw [if_neg same]
        split
        · rfl
        · exact ih

theorem getHeapNode_remove_self :
    (heap.remove node).getHeapNodeIfWasInserted node =
      (heap.getHeapNodeIfWasInserted node).map fun entry => { entry with inHeap := false } :=
  getHeapNode_write_self fun _ => rfl

theorem getHeapNode_remove_ne (ne : other ≠ node) :
    (heap.remove node).getHeapNodeIfWasInserted other = heap.getHeapNodeIfWasInserted other :=
  getHeapNode_write_ne (fun _ => rfl) ne

theorem getHeapNode_decreaseKey_self {weight : Weight} {data : Data} :
    (heap.decreaseKey node weight data).getHeapNodeIfWasInserted node =
      (heap.getHeapNodeIfWasInserted node).map fun entry =>
        { entry with weight := weight, data := data } :=
  getHeapNode_write_self fun _ => rfl

theorem getHeapNode_decreaseKey_ne {weight : Weight} {data : Data} (ne : other ≠ node) :
    (heap.decreaseKey node weight data).getHeapNodeIfWasInserted other =
      heap.getHeapNodeIfWasInserted other :=
  getHeapNode_write_ne (fun _ => rfl) ne

theorem nodes_remove : (heap.remove node).map HeapNode.node = heap.map HeapNode.node :=
  nodes_write fun _ => rfl

theorem nodes_decreaseKey {weight : Weight} {data : Data} :
    (heap.decreaseKey node weight data).map HeapNode.node = heap.map HeapNode.node :=
  nodes_write fun _ => rfl

theorem getHeapNode_insert_self {weight : Weight} {data : Data}
    (fresh : heap.getHeapNodeIfWasInserted node = none) :
    (heap.insert node weight data).getHeapNodeIfWasInserted node =
      some ⟨true, node, weight, data⟩ := by
  rw [getHeapNodeIfWasInserted, insert, List.find?_append]
  rw [getHeapNodeIfWasInserted] at fresh
  rw [fresh, Option.none_or, List.find?_singleton, beq_self_eq_true, if_pos rfl]

theorem getHeapNode_insert_ne {weight : Weight} {data : Data} (ne : other ≠ node) :
    (heap.insert node weight data).getHeapNodeIfWasInserted other =
      heap.getHeapNodeIfWasInserted other := by
  rw [getHeapNodeIfWasInserted, insert, List.find?_append, List.find?_singleton,
    if_neg (by rw [beq_iff_eq]; exact Ne.symm ne), Option.or_none, getHeapNodeIfWasInserted]

theorem getHeapNode_deleteAll :
    heap.deleteAll.getHeapNodeIfWasInserted node =
      (heap.getHeapNodeIfWasInserted node).map fun entry => { entry with inHeap := false } := by
  rw [getHeapNodeIfWasInserted, deleteAll, List.find?_map, getHeapNodeIfWasInserted]
  rfl

theorem Distinct.insert {weight : Weight} {data : Data} (distinct : heap.Distinct)
    (fresh : heap.getHeapNodeIfWasInserted node = none) :
    (heap.insert node weight data).Distinct := by
  rw [Distinct, QueryHeap.insert, List.map_append, List.map_singleton, List.nodup_append]
  refine ⟨distinct, List.nodup_singleton _, ?_⟩
  intro first member second only same
  rw [List.mem_singleton] at only
  subst same only
  exact getHeapNode_eq_none.mp fresh member

theorem Distinct.remove (distinct : heap.Distinct) : (heap.remove node).Distinct := by
  rwa [Distinct, nodes_remove]

theorem Distinct.decreaseKey {weight : Weight} {data : Data} (distinct : heap.Distinct) :
    (heap.decreaseKey node weight data).Distinct := by
  rwa [Distinct, nodes_decreaseKey]

theorem Distinct.deleteAll (distinct : heap.Distinct) : heap.deleteAll.Distinct := by
  rw [Distinct, QueryHeap.deleteAll, List.map_map]
  exact distinct

end Lookups

section Least

variable [LinearOrder Weight] {heap : QueryHeap Weight Data} {entry : HeapNode Weight Data}

theorem leastInHeap_eq_none : leastInHeap heap = none ↔ ∀ entry ∈ heap, entry.inHeap = false := by
  induction heap with
  | nil => exact ⟨fun _ _ member => absurd member List.not_mem_nil, fun _ => rfl⟩
  | cons first rest ih =>
      rw [leastInHeap, List.forall_mem_cons]
      split
      case h_1 none =>
        rw [ite_eq_right_iff, and_iff_left (ih.mp none), Bool.eq_false_iff]
        exact ⟨fun absent inside => Option.some_ne_none _ (absent inside),
          fun absent inside => absurd inside absent⟩
      case h_2 best found =>
        refine iff_of_false ?_ fun none => ?_
        · split <;> exact Option.some_ne_none _
        · rw [ih.mpr none.2] at found
          cases found

theorem leastInHeap_spec (least : leastInHeap heap = some entry) :
    entry ∈ heap ∧ entry.inHeap = true ∧
      ∀ other ∈ heap, other.inHeap = true → entry.weight ≤ other.weight := by
  induction heap generalizing entry with
  | nil => cases least
  | cons first rest ih =>
      rw [leastInHeap] at least
      split at least
      case h_1 none =>
        rw [Option.ite_none_right_eq_some] at least
        obtain ⟨inside, same⟩ := least
        cases same
        refine ⟨List.mem_cons_self, inside, ?_⟩
        rw [List.forall_mem_cons]
        refine ⟨fun _ => le_refl _, fun other member also => ?_⟩
        rw [leastInHeap_eq_none.mp none other member] at also
        cases also
      case h_2 best found =>
        obtain ⟨member, inside, minimal⟩ := ih found
        split at least
        case isTrue better =>
          rw [Bool.and_eq_true, decide_eq_true_iff] at better
          cases least
          refine ⟨List.mem_cons_self, better.1, ?_⟩
          rw [List.forall_mem_cons]
          exact ⟨fun _ => le_refl _, fun other member' also =>
            le_trans better.2 (minimal other member' also)⟩
        case isFalse worse =>
          cases least
          refine ⟨List.mem_cons_of_mem _ member, inside, ?_⟩
          rw [List.forall_mem_cons]
          refine ⟨fun also => ?_, minimal⟩
          rw [Bool.and_eq_true, decide_eq_true_iff, not_and, not_le] at worse
          exact le_of_lt (worse also)

theorem exists_least (occupied : heap.empty = false) : ∃ entry, leastInHeap heap = some entry := by
  rw [empty, Bool.not_eq_false', List.any_eq_true] at occupied
  obtain ⟨entry, member, inside⟩ := occupied
  cases least : leastInHeap heap with
  | none =>
      rw [leastInHeap_eq_none.mp least entry member] at inside
      cases inside
  | some best => exact ⟨best, rfl⟩

/-- What `DeleteMin` does. -/
theorem deleteMin_spec {after : QueryHeap Weight Data}
    (deleted : heap.deleteMin = some (entry, after)) :
    leastInHeap heap = some entry ∧ after = heap.remove entry.node := by
  rw [deleteMin] at deleted
  split at deleted
  case h_1 => cases deleted
  case h_2 least found =>
    cases deleted
    exact ⟨found, rfl⟩

end Least

/-! ## The order of the settled nodes -/

section Settled

variable [LinearOrder Weight] {heap after : QueryHeap Weight Data} {weight key : Weight}
  {data : Data} {node : ℕ} {entry : HeapNode Weight Data}

/-- What has left the heap has no greater key than what is in it. -/
structure Ordered (heap : QueryHeap Weight Data) : Prop where
  distinct : heap.Distinct
  le : ∀ {node other : ℕ} {gone inside : HeapNode Weight Data},
    heap.getHeapNodeIfWasInserted node = some gone → gone.inHeap = false →
    heap.getHeapNodeIfWasInserted other = some inside → inside.inHeap = true →
    gone.weight ≤ inside.weight

/-- A weight between the keys that have left the heap and those in it. -/
structure Between (weight : Weight) (heap : QueryHeap Weight Data) : Prop where
  distinct : heap.Distinct
  gone : ∀ {node : ℕ} {entry : HeapNode Weight Data},
    heap.getHeapNodeIfWasInserted node = some entry → entry.inHeap = false → entry.weight ≤ weight
  inside : ∀ {node : ℕ} {entry : HeapNode Weight Data},
    heap.getHeapNodeIfWasInserted node = some entry → entry.inHeap = true → weight ≤ entry.weight

/-- Before anything has left it, a heap is in order. -/
theorem ordered_of_inHeap (distinct : heap.Distinct) (all : ∀ entry ∈ heap, entry.inHeap = true) :
    Ordered heap := by
  refine ⟨distinct, fun found gone _ _ => ?_⟩
  rw [all _ (mem_of_getHeapNode found).1] at gone
  cases gone

theorem Between.ordered (between : Between weight heap) : Ordered heap :=
  ⟨between.distinct, fun found gone found' inside =>
    le_trans (between.gone found gone) (between.inside found' inside)⟩

theorem Ordered.deleteMin (ordered : Ordered heap) (popped : heap.deleteMin = some (entry, after)) :
    Between entry.weight after := by
  obtain ⟨least, rfl⟩ := deleteMin_spec popped
  obtain ⟨member, inside, minimal⟩ := leastInHeap_spec least
  have stored := getHeapNode_of_mem ordered.distinct member
  refine ⟨ordered.distinct.remove, ?_, ?_⟩
  case refine_1 =>
    intro other last found gone
    by_cases same : other = entry.node
    case pos =>
      subst same
      rw [getHeapNode_remove_self, stored] at found
      cases found
      exact le_refl _
    case neg =>
      rw [getHeapNode_remove_ne same] at found
      exact ordered.le found gone stored inside
  case refine_2 =>
    intro other last found also
    by_cases same : other = entry.node
    case pos =>
      subst same
      rw [getHeapNode_remove_self, stored] at found
      cases found
      cases also
    case neg =>
      rw [getHeapNode_remove_ne same] at found
      exact minimal last (mem_of_getHeapNode found).1 also

theorem Between.insert (between : Between weight heap)
    (fresh : heap.getHeapNodeIfWasInserted node = none) (le : weight ≤ key) :
    Between weight (heap.insert node key data) := by
  refine ⟨between.distinct.insert fresh, ?_, ?_⟩
  case refine_1 =>
    intro other last found gone
    by_cases same : other = node
    case pos =>
      subst same
      rw [getHeapNode_insert_self fresh] at found
      cases found
      cases gone
    case neg =>
      rw [getHeapNode_insert_ne same] at found
      exact between.gone found gone
  case refine_2 =>
    intro other last found inside
    by_cases same : other = node
    case pos =>
      subst same
      rw [getHeapNode_insert_self fresh] at found
      cases found
      exact le
    case neg =>
      rw [getHeapNode_insert_ne same] at found
      exact between.inside found inside

/-- Keys are not lowered below the weight, so a key that can be lowered is in the heap. -/
theorem Between.inHeap_of_lt (between : Between weight heap)
    (stored : heap.getHeapNodeIfWasInserted node = some entry) (le : weight ≤ key)
    (less : key < entry.weight) : entry.inHeap = true := by
  by_contra gone
  rw [Bool.not_eq_true] at gone
  exact absurd (lt_of_le_of_lt le less) (not_lt_of_ge (between.gone stored gone))

theorem Between.decreaseKey (between : Between weight heap)
    (stored : heap.getHeapNodeIfWasInserted node = some entry) (le : weight ≤ key)
    (less : key < entry.weight) : Between weight (heap.decreaseKey node key data) := by
  have in_heap := between.inHeap_of_lt stored le less
  refine ⟨between.distinct.decreaseKey, ?_, ?_⟩
  case refine_1 =>
    intro other last found gone
    by_cases same : other = node
    case pos =>
      subst same
      rw [getHeapNode_decreaseKey_self, stored] at found
      cases found
      rw [in_heap] at gone
      cases gone
    case neg =>
      rw [getHeapNode_decreaseKey_ne same] at found
      exact between.gone found gone
  case refine_2 =>
    intro other last found inside
    by_cases same : other = node
    case pos =>
      subst same
      rw [getHeapNode_decreaseKey_self, stored] at found
      cases found
      exact le
    case neg =>
      rw [getHeapNode_decreaseKey_ne same] at found
      exact between.inside found inside

theorem ordered_deleteAll (distinct : heap.Distinct) : Ordered heap.deleteAll := by
  refine ⟨distinct.deleteAll, fun _ _ found inside => ?_⟩
  rw [getHeapNode_deleteAll, Option.map_eq_some_iff] at found
  obtain ⟨_, _, rfl⟩ := found
  cases inside

end Settled

end QueryHeap

end Proximity.Routing
