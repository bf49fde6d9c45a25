import Mathlib.Logic.Equiv.Basic
import Mathlib.Order.Lattice.Nat
import Proximity.Routing.ContractLoop

/-!
# From the edges of the extractor to the graph of the contractor

`toContractorGraph` stores every edge at both of its ends, drops the loops, and keeps of parallel
edges the least weight in each direction.
-/

namespace Proximity.Routing

open Proximity.Systems

/-- `extractor::EdgeBasedEdge`, whose distance is left out. -/
structure EdgeBasedEdge where
  source : ℕ
  target : ℕ
  turnId : ℕ
  weight : ℤ
  duration : ℕ
  forward : Bool
  backward : Bool
  deriving DecidableEq, Repr

/-- `MAXIMAL_EDGE_DURATION`. -/
def maximalEdgeDuration : ℕ := 2147483647

/-- The two edges that an edge is copied to, unless its weight is invalid. -/
def expandEdge (edge : EdgeBasedEdge) : List ContractorEdge :=
  if edge.weight = invalidEdgeWeight then []
  else
    let weight := (max edge.weight 1).toNat
    [⟨edge.source, edge.target, .ofValues weight edge.duration 1 edge.turnId false edge.forward
      edge.backward⟩,
    ⟨edge.target, edge.source, .ofValues weight edge.duration 1 edge.turnId false edge.backward
      edge.forward⟩]

def expandEdges (inputEdgeList : List EdgeBasedEdge) : List ContractorEdge :=
  inputEdgeList.flatMap expandEdge

/-- `InputEdge::operator<`, as the order that a sort leaves. -/
def edgeLe {EdgeData : Type} (first second : InputEdge EdgeData) : Prop :=
  first.source < second.source ∨ (first.source = second.source ∧ first.target ≤ second.target)

/-- The sort is parallel, and need not keep the order of edges with the same ends. -/
def SortsTo {EdgeData : Type} (edges sorted : List (InputEdge EdgeData)) : Prop :=
  sorted.Perm edges ∧ sorted.Pairwise edgeLe

theorem SortsTo.sortedBy {EdgeData : Type} {edges sorted : List (InputEdge EdgeData)}
    (sorts : SortsTo edges sorted) : SortedBy InputEdge.source sorted := by
  refine sorts.2.imp fun le => ?_
  rcases le with less | ⟨same, _⟩
  · exact Nat.le_of_lt less
  · exact Nat.le_of_eq same

/-- `forward_edge` and `reverse_edge` before the loop over the parallel edges. -/
def initialData (id : ℕ) (forward : Bool) : ContractorEdgeData :=
  ⟨invalidEdgeWeight, maximalEdgeDuration, id, 1, false, forward, !forward⟩

/-- One of the parallel edges lowers the data of an enabled direction. -/
def lowerData (data : ContractorEdgeData) (enabled : Bool) (other : ContractorEdgeData) :
    ContractorEdgeData :=
  if enabled then
    { data with
      weight := min other.weight data.weight
      duration := min other.duration data.duration }
  else data

/-- The data of a direction after the loop over the parallel edges. -/
def lowest (flag : ContractorEdgeData → Bool) (group : List ContractorEdge)
    (data : ContractorEdgeData) : ContractorEdgeData :=
  group.foldl (fun data edge => lowerData data (flag edge.data) edge.data) data

/-- The edge or the two edges that stand for a group of parallel ones. -/
def mergeGroup (first : ContractorEdge) (group : List ContractorEdge) : List ContractorEdge :=
  let forwardData := lowest ContractorEdgeData.forward group (initialData first.data.id true)
  let reverseData := lowest ContractorEdgeData.backward group (initialData first.data.id false)
  let forwardEdge : ContractorEdge := ⟨first.source, first.target, forwardData⟩
  let reverseEdge : ContractorEdge := ⟨first.source, first.target, reverseData⟩
  if forwardData.weight = reverseData.weight then
    if forwardData.weight ≠ invalidEdgeWeight then
      [{ forwardEdge with data := { forwardData with backward := true } }]
    else []
  else
    (if forwardData.weight ≠ invalidEdgeWeight then [forwardEdge] else []) ++
      if reverseData.weight ≠ invalidEdgeWeight then [reverseEdge] else []

def sameEnds (first edge : ContractorEdge) : Bool :=
  edge.source == first.source && edge.target == first.target

/-- The loop over the sorted edges; the first argument is their number.  The source writes into the
array it reads, but never past the group it has read. -/
def mergeParallel : ℕ → List ContractorEdge → List ContractorEdge
  | 0, _ => []
  | _ + 1, [] => []
  | left + 1, first :: rest =>
      if first.source == first.target then mergeParallel left rest
      else
        mergeGroup first (first :: rest.takeWhile (sameEnds first)) ++
          mergeParallel left (rest.dropWhile (sameEnds first))

/-- The graph of the edges, from the order that the sort has left. -/
def toContractorGraph (numberOfNodes : ℕ) (sorted : List ContractorEdge) : ContractorGraph :=
  DynamicGraph.ofEdges numberOfNodes (mergeParallel sorted.length sorted)

/-- The state that the contraction of a whole graph starts from. -/
def initialState (graph : ContractorGraph) : ContractionState where
  graph := graph
  isCore := List.replicate graph.getNumberOfNodes true
  remainingNodes := List.range graph.getNumberOfNodes

/-- An edge of the input leads from one node to another, with the weight that the contractor
takes. -/
def EdgeBasedEdge.Leads (edge : EdgeBasedEdge) (tail head weight : ℕ) : Prop :=
  edge.weight ≠ invalidEdgeWeight ∧ (max edge.weight 1).toNat = weight ∧
    ((edge.source = tail ∧ edge.target = head ∧ edge.forward = true) ∨
      (edge.target = tail ∧ edge.source = head ∧ edge.backward = true))

/-- The arcs of the extracted graph; its loops are dropped. -/
def inputArcs (inputEdgeList : List EdgeBasedEdge) : Arcs ℕ := fun tail head weight =>
  tail ≠ head ∧ ∃ edge ∈ inputEdgeList, edge.Leads tail head weight

/-! ## One group of parallel edges -/

section Groups

variable {flag : ContractorEdgeData → Bool} {group : List ContractorEdge}
  {data : ContractorEdgeData}

theorem lowest_cons {first : ContractorEdge} :
    lowest flag (first :: group) data =
      lowest flag group (lowerData data (flag first.data) first.data) := rfl

/-- Only the weight and the duration are lowered. -/
theorem lowest_fields (flag : ContractorEdgeData → Bool) (group : List ContractorEdge)
    (data : ContractorEdgeData) : (lowest flag group data).shortcut = data.shortcut ∧
    (lowest flag group data).forward = data.forward ∧
    (lowest flag group data).backward = data.backward := by
  induction group generalizing data with
  | nil => exact ⟨rfl, rfl, rfl⟩
  | cons first rest ih =>
      rw [lowest_cons]
      obtain ⟨shortcut, forward, backward⟩ :=
        ih (lowerData data (flag first.data) first.data)
      rw [shortcut, forward, backward, lowerData]
      split <;> exact ⟨rfl, rfl, rfl⟩

theorem lowest_le (flag : ContractorEdgeData → Bool) (group : List ContractorEdge)
    (data : ContractorEdgeData) : (lowest flag group data).weight ≤ data.weight ∧
    ∀ edge ∈ group, flag edge.data = true → (lowest flag group data).weight ≤ edge.data.weight := by
  induction group generalizing data with
  | nil => exact ⟨Nat.le_refl _, fun _ member => absurd member List.not_mem_nil⟩
  | cons first rest ih =>
      rw [lowest_cons, List.forall_mem_cons]
      obtain ⟨le, later⟩ := ih (lowerData data (flag first.data) first.data)
      rw [lowerData] at le later ⊢
      split at le
      case isTrue enabled =>
        rw [if_pos enabled] at later ⊢
        exact ⟨Nat.le_trans le (Nat.min_le_right _ _),
          fun _ => Nat.le_trans le (Nat.min_le_left _ _), later⟩
      case isFalse disabled =>
        rw [if_neg disabled] at later ⊢
        exact ⟨le, fun enabled => absurd enabled disabled, later⟩

theorem lowest_eq (flag : ContractorEdgeData → Bool) (group : List ContractorEdge)
    (data : ContractorEdgeData) : (lowest flag group data).weight = data.weight ∨
    ∃ edge ∈ group, flag edge.data = true ∧ edge.data.weight = (lowest flag group data).weight := by
  induction group generalizing data with
  | nil => exact Or.inl rfl
  | cons first rest ih =>
      rw [lowest_cons]
      rcases ih (lowerData data (flag first.data) first.data) with
        same | ⟨edge, later, found⟩
      case inr => exact Or.inr ⟨edge, List.mem_cons_of_mem _ later, found⟩
      case inl =>
        rw [same, lowerData]
        split
        case isFalse => exact Or.inl rfl
        case isTrue enabled =>
          rcases Nat.le_total first.data.weight data.weight with less | more
          case inl =>
            exact Or.inr ⟨first, List.mem_cons_self, enabled, (Nat.min_eq_left less).symm⟩
          case inr => exact Or.inl (Nat.min_eq_right more)

/-- The directions of what a group is merged into. -/
theorem goes_mergeGroup {first : ContractorEdge} {source target weight : ℕ} :
    (Goes ContractorEdgeData.forward (mergeGroup first group) source target weight ↔
      first.source = source ∧ first.target = target ∧ weight ≠ invalidEdgeWeight ∧
        (lowest ContractorEdgeData.forward group (initialData first.data.id true)).weight =
          weight) ∧
    (Goes ContractorEdgeData.backward (mergeGroup first group) source target weight ↔
      first.source = source ∧ first.target = target ∧ weight ≠ invalidEdgeWeight ∧
        (lowest ContractorEdgeData.backward group (initialData first.data.id false)).weight =
          weight) := by
  obtain ⟨_, forward, backward⟩ := lowest_fields ContractorEdgeData.forward group
    (initialData first.data.id true)
  obtain ⟨_, forward', backward'⟩ := lowest_fields ContractorEdgeData.backward group
    (initialData first.data.id false)
  rw [mergeGroup]
  generalize lowest ContractorEdgeData.forward group (initialData first.data.id true) = one at *
  generalize lowest ContractorEdgeData.backward group (initialData first.data.id false) = other at *
  have one_forward : one.forward = true := forward
  have one_backward : one.backward = false := backward
  have other_forward : other.forward = false := forward'
  have other_backward : other.backward = true := backward'
  dsimp only
  split
  case isTrue same =>
    split
    case isTrue valid =>
      simp only [goes_cons, goes_nil, or_false, one_forward, true_and]
      grind
    case isFalse invalid =>
      rw [not_not] at invalid
      simp only [goes_nil, false_iff]
      grind
  case isFalse differs =>
    rw [goes_append, goes_append]
    constructor
    · split <;> split <;>
        simp only [goes_cons, goes_nil, or_false, false_or, one_forward, other_forward,
          true_and] <;> grind
    · split <;> split <;>
        simp only [goes_cons, goes_nil, or_false, false_or, one_backward, other_backward,
          true_and] <;> grind

/-- The two directions of an edge. -/
def IsDirection (flag : ContractorEdgeData → Bool) : Prop :=
  flag = ContractorEdgeData.forward ∨ flag = ContractorEdgeData.backward

theorem mergeGroup_sound (direction : IsDirection flag) {first : ContractorEdge}
    {source target weight : ℕ} (goes : Goes flag (mergeGroup first group) source target weight) :
    first.source = source ∧ first.target = target ∧
      ∃ edge ∈ group, flag edge.data = true ∧ edge.data.weight = weight := by
  rcases direction with rfl | rfl
  case inl =>
    obtain ⟨same, same', valid, least⟩ := goes_mergeGroup.1.mp goes
    refine ⟨same, same', ?_⟩
    rcases lowest_eq ContractorEdgeData.forward group
      (initialData first.data.id true) with none | ⟨edge, member, enabled, found⟩
    · exact absurd (least.symm.trans none) valid
    · exact ⟨edge, member, enabled, found.trans least⟩
  case inr =>
    obtain ⟨same, same', valid, least⟩ := goes_mergeGroup.2.mp goes
    refine ⟨same, same', ?_⟩
    rcases lowest_eq ContractorEdgeData.backward group
      (initialData first.data.id false) with none | ⟨edge, member, enabled, found⟩
    · exact absurd (least.symm.trans none) valid
    · exact ⟨edge, member, enabled, found.trans least⟩

theorem mergeGroup_complete (first : ContractorEdge) (direction : IsDirection flag)
    {edge : ContractorEdge}
    (member : edge ∈ group) (enabled : flag edge.data = true)
    (valid : edge.data.weight < invalidEdgeWeight) :
    ∃ lighter ≤ edge.data.weight,
      Goes flag (mergeGroup first group) first.source first.target lighter := by
  rcases direction with rfl | rfl
  case inl =>
    have le := (lowest_le ContractorEdgeData.forward group (initialData first.data.id true)).2
      edge member enabled
    exact ⟨_, le, goes_mergeGroup.1.mpr ⟨rfl, rfl, by omega, rfl⟩⟩
  case inr =>
    have le := (lowest_le ContractorEdgeData.backward group (initialData first.data.id false)).2
      edge member enabled
    exact ⟨_, le, goes_mergeGroup.2.mpr ⟨rfl, rfl, by omega, rfl⟩⟩

/-- What a group is merged into takes no more room than the group: the writes of the source stay
behind its reads. -/
theorem length_mergeGroup_le {first : ContractorEdge} {rest : List ContractorEdge} :
    (mergeGroup first (first :: rest)).length ≤ (first :: rest).length := by
  cases rest with
  | cons second rest =>
      refine Nat.le_trans ?_ (Nat.le_add_left 2 rest.length)
      rw [mergeGroup]
      dsimp only
      split
      case isTrue => split <;> simp
      case isFalse =>
        rw [List.length_append]
        split <;> split <;> simp
  | nil =>
      rw [mergeGroup, lowest_cons, lowest_cons]
      cases forward : first.data.forward <;> cases backward : first.data.backward <;>
        simp [lowest, lowerData, initialData] <;> grind

theorem mem_mergeGroup {first edge : ContractorEdge} (member : edge ∈ mergeGroup first group) :
    edge.source = first.source ∧ edge.target = first.target ∧ edge.data.shortcut = false ∧
      (edge.data.forward = true ∨ edge.data.backward = true) ∧
      edge.data.weight ≠ invalidEdgeWeight := by
  obtain ⟨shortcut, forward, backward⟩ := lowest_fields ContractorEdgeData.forward group
    (initialData first.data.id true)
  obtain ⟨shortcut', forward', backward'⟩ := lowest_fields ContractorEdgeData.backward group
    (initialData first.data.id false)
  rw [mergeGroup] at member
  dsimp only at member
  split at member
  case isTrue =>
    split at member
    case isTrue valid =>
      rw [List.mem_singleton] at member
      subst member
      exact ⟨rfl, rfl, shortcut, Or.inl forward, valid⟩
    case isFalse => exact absurd member List.not_mem_nil
  case isFalse =>
    rcases List.mem_append.mp member with member | member
    case inl =>
      split at member
      case isTrue valid =>
        rw [List.mem_singleton] at member
        subst member
        exact ⟨rfl, rfl, shortcut, Or.inl forward, valid⟩
      case isFalse => exact absurd member List.not_mem_nil
    case inr =>
      split at member
      case isTrue valid =>
        rw [List.mem_singleton] at member
        subst member
        exact ⟨rfl, rfl, shortcut', Or.inr backward', valid⟩
      case isFalse => exact absurd member List.not_mem_nil

end Groups

/-! ## All groups -/

section Parallel

variable {flag : ContractorEdgeData → Bool} {left : ℕ} {edges : List ContractorEdge}

theorem sameEnds_iff {first edge : ContractorEdge} : sameEnds first edge = true ↔
    edge.source = first.source ∧ edge.target = first.target := by
  rw [sameEnds, Bool.and_eq_true, beq_iff_eq, beq_iff_eq]

theorem mem_takeWhile_sameEnds {first edge : ContractorEdge} {rest : List ContractorEdge}
    (member : edge ∈ first :: rest.takeWhile (sameEnds first)) :
    edge ∈ first :: rest ∧ edge.source = first.source ∧ edge.target = first.target := by
  rcases List.mem_cons.mp member with rfl | later
  · exact ⟨List.mem_cons_self, rfl, rfl⟩
  · exact ⟨List.mem_cons_of_mem _ ((List.takeWhile_prefix _).subset later),
      sameEnds_iff.mp (List.mem_takeWhile_imp later)⟩

theorem mergeParallel_sound (direction : IsDirection flag) {source target weight : ℕ}
    (goes : Goes flag (mergeParallel left edges) source target weight) :
    source ≠ target ∧ Goes flag edges source target weight := by
  induction left generalizing edges with
  | zero => exact absurd goes goes_nil
  | succ left ih =>
      cases edges with
      | nil => exact absurd goes goes_nil
      | cons first rest =>
          rw [mergeParallel] at goes
          split at goes
          case isTrue =>
            obtain ⟨ne, later⟩ := ih goes
            exact ⟨ne, goes_cons.mpr (Or.inr later)⟩
          case isFalse no_loop =>
            rw [beq_iff_eq] at no_loop
            rcases goes_append.mp goes with here | later
            case inl =>
              obtain ⟨rfl, rfl, edge, member, enabled, same⟩ := mergeGroup_sound direction here
              obtain ⟨there, ends⟩ := mem_takeWhile_sameEnds member
              exact ⟨no_loop, edge, there, ends.1, ends.2, enabled, same⟩
            case inr =>
              obtain ⟨ne, before⟩ := ih later
              exact ⟨ne, goes_cons.mpr (Or.inr
                (before.mono fun edge member => (List.dropWhile_suffix _).subset member))⟩

theorem mergeParallel_complete (direction : IsDirection flag) (enough : edges.length ≤ left)
    {edge : ContractorEdge} (member : edge ∈ edges) (ne : edge.source ≠ edge.target)
    (enabled : flag edge.data = true) (valid : edge.data.weight < invalidEdgeWeight) :
    ∃ lighter ≤ edge.data.weight,
      Goes flag (mergeParallel left edges) edge.source edge.target lighter := by
  induction left generalizing edges with
  | zero =>
      rw [List.eq_nil_of_length_eq_zero (Nat.le_zero.mp enough)] at member
      exact absurd member List.not_mem_nil
  | succ left ih =>
      cases edges with
      | nil => exact absurd member List.not_mem_nil
      | cons first rest =>
          rw [List.length_cons] at enough
          rw [mergeParallel]
          split
          case isTrue loop =>
            rw [beq_iff_eq] at loop
            rcases List.mem_cons.mp member with rfl | later
            · exact absurd loop ne
            · exact ih (Nat.le_of_succ_le_succ enough) later
          case isFalse =>
            have parts : edge ∈ first :: rest.takeWhile (sameEnds first) ∨
                edge ∈ rest.dropWhile (sameEnds first) := by
              rcases List.mem_cons.mp member with rfl | later
              · exact Or.inl List.mem_cons_self
              · rw [← List.takeWhile_append_dropWhile (p := sameEnds first) (l := rest)] at later
                exact (List.mem_append.mp later).imp_left (List.mem_cons_of_mem _)
            rcases parts with here | later
            case inl =>
              obtain ⟨lighter, le, goes⟩ :=
                mergeGroup_complete first direction here enabled valid
              obtain ⟨_, same, same'⟩ := mem_takeWhile_sameEnds here
              rw [same, same']
              exact ⟨lighter, le, goes_append.mpr (Or.inl goes)⟩
            case inr =>
              have short := (List.dropWhile_suffix (sameEnds first) (l := rest)).length_le
              obtain ⟨lighter, le, goes⟩ := ih (by omega) later
              exact ⟨lighter, le, goes_append.mpr (Or.inr goes)⟩

/-- What is merged has the ends of what was there. -/
theorem mem_mergeParallel {edge : ContractorEdge} (member : edge ∈ mergeParallel left edges) :
    (∃ other ∈ edges, edge.source = other.source ∧ edge.target = other.target) ∧
      edge.data.shortcut = false ∧ (edge.data.forward = true ∨ edge.data.backward = true) := by
  induction left generalizing edges with
  | zero => exact absurd member List.not_mem_nil
  | succ left ih =>
      cases edges with
      | nil => exact absurd member List.not_mem_nil
      | cons first rest =>
          rw [mergeParallel] at member
          split at member
          case isTrue =>
            obtain ⟨⟨other, there, ends⟩, flags⟩ := ih member
            exact ⟨⟨other, List.mem_cons_of_mem _ there, ends⟩, flags⟩
          case isFalse =>
            rcases List.mem_append.mp member with here | later
            case inl =>
              obtain ⟨source, target, shortcut, flagged, _⟩ := mem_mergeGroup here
              exact ⟨⟨first, List.mem_cons_self, source, target⟩, shortcut, flagged⟩
            case inr =>
              obtain ⟨⟨other, there, ends⟩, flags⟩ := ih later
              exact ⟨⟨other, List.mem_cons_of_mem _ ((List.dropWhile_suffix _).subset there),
                ends⟩, flags⟩

theorem sortedBy_mergeParallel (sorted : SortedBy InputEdge.source edges) :
    SortedBy InputEdge.source (mergeParallel left edges) := by
  induction left generalizing edges with
  | zero => exact List.Pairwise.nil
  | succ left ih =>
      cases edges with
      | nil => exact List.Pairwise.nil
      | cons first rest =>
          obtain ⟨least, later⟩ := List.pairwise_cons.mp sorted
          rw [mergeParallel]
          split
          case isTrue => exact ih later
          case isFalse =>
            refine List.pairwise_append.mpr ⟨?_, ih (later.sublist (List.dropWhile_sublist _)), ?_⟩
            case refine_1 =>
              refine List.pairwise_of_forall_mem_list fun edge member other member' => ?_
              rw [(mem_mergeGroup member).1, (mem_mergeGroup member').1]
            case refine_2 =>
              intro edge member other member'
              obtain ⟨⟨before, there, same, _⟩, _⟩ := mem_mergeParallel member'
              rw [(mem_mergeGroup member).1, same]
              exact least before ((List.dropWhile_suffix _).subset there)

end Parallel

/-! ## The graph of the input -/

/-- Node ids are below the number of nodes, and weights are what an `int32` takes. -/
structure Extracted (numberOfNodes : ℕ) (inputEdgeList : List EdgeBasedEdge) : Prop where
  small : numberOfNodes ≤ specialNodeId
  inside : ∀ edge ∈ inputEdgeList, edge.source < numberOfNodes ∧ edge.target < numberOfNodes
  weights : ∀ edge ∈ inputEdgeList, edge.weight ≤ invalidEdgeWeight

section Input

variable {numberOfNodes : ℕ} {inputEdgeList : List EdgeBasedEdge} {sorted : List ContractorEdge}
  {flag : ContractorEdgeData → Bool} {tail head weight : ℕ}

theorem goes_expandEdge {edge : EdgeBasedEdge} :
    (Goes ContractorEdgeData.forward (expandEdge edge) tail head weight ↔
      edge.Leads tail head weight) ∧
    (Goes ContractorEdgeData.backward (expandEdge edge) head tail weight ↔
      edge.Leads tail head weight) := by
  rw [expandEdge, EdgeBasedEdge.Leads]
  split
  case isTrue invalid =>
    exact ⟨iff_of_false goes_nil fun leads => leads.1 invalid,
      iff_of_false goes_nil fun leads => leads.1 invalid⟩
  case isFalse valid =>
    simp only [goes_cons, goes_nil, or_false, ContractorEdgeData.ofValues]
    constructor <;> tauto

theorem goes_flatMap {edges : List EdgeBasedEdge} :
    Goes flag (edges.flatMap expandEdge) tail head weight ↔
      ∃ edge ∈ edges, Goes flag (expandEdge edge) tail head weight := by
  simp only [Goes, List.mem_flatMap]
  tauto

theorem goes_sorted (sorts : SortsTo (expandEdges inputEdgeList) sorted) :
    (Goes ContractorEdgeData.forward sorted tail head weight ↔
      ∃ edge ∈ inputEdgeList, edge.Leads tail head weight) ∧
    (Goes ContractorEdgeData.backward sorted head tail weight ↔
      ∃ edge ∈ inputEdgeList, edge.Leads tail head weight) := by
  have moved : ∀ {flag : ContractorEdgeData → Bool} {tail head : ℕ},
      Goes flag sorted tail head weight ↔
        Goes flag (expandEdges inputEdgeList) tail head weight :=
    ⟨fun goes => goes.mono fun _ member => sorts.1.mem_iff.mp member,
      fun goes => goes.mono fun _ member => sorts.1.mem_iff.mpr member⟩
  constructor
  · rw [moved, expandEdges, goes_flatMap]
    exact exists_congr fun edge => and_congr_right fun _ => goes_expandEdge.1
  · rw [moved, expandEdges, goes_flatMap]
    exact exists_congr fun edge => and_congr_right fun _ => goes_expandEdge.2

theorem sortedBy_merged (sorts : SortsTo (expandEdges inputEdgeList) sorted) :
    SortedBy InputEdge.source (mergeParallel sorted.length sorted) :=
  sortedBy_mergeParallel sorts.sortedBy

/-- A merged edge weighs what some edge of the input does. -/
theorem inputArcs_of_merged (sorts : SortsTo (expandEdges inputEdgeList) sorted) :
    (Goes ContractorEdgeData.forward (mergeParallel sorted.length sorted) tail head weight →
      inputArcs inputEdgeList tail head weight) ∧
    (Goes ContractorEdgeData.backward (mergeParallel sorted.length sorted) head tail weight →
      inputArcs inputEdgeList tail head weight) := by
  constructor
  · intro goes
    obtain ⟨ne, before⟩ := mergeParallel_sound (Or.inl rfl) goes
    exact ⟨ne, (goes_sorted sorts).1.mp before⟩
  · intro goes
    obtain ⟨ne, before⟩ := mergeParallel_sound (Or.inr rfl) goes
    exact ⟨Ne.symm ne, (goes_sorted sorts).2.mp before⟩

variable (extracted : Extracted numberOfNodes inputEdgeList)
  (sorts : SortsTo (expandEdges inputEdgeList) sorted)

include extracted sorts

/-- Every sorted edge has its ends in the graph, and a weight that is positive and valid. -/
theorem inside_sorted : ∀ edge ∈ sorted, edge.source < numberOfNodes ∧
    edge.target < numberOfNodes ∧ 0 < edge.data.weight ∧ edge.data.weight < invalidEdgeWeight := by
  intro edge member
  obtain ⟨input, there, copied⟩ := List.mem_flatMap.mp (sorts.1.mem_iff.mp member)
  obtain ⟨source_in, target_in⟩ := extracted.inside input there
  have bounded := extracted.weights input there
  have limit : (1 : ℤ) < invalidEdgeWeight := by decide
  rw [expandEdge] at copied
  split at copied
  case isTrue => exact absurd copied List.not_mem_nil
  case isFalse valid =>
    rw [List.mem_cons, List.mem_singleton] at copied
    rcases copied with rfl | rfl
    · exact ⟨source_in, target_in, by simp only [ContractorEdgeData.ofValues]; omega,
        by simp only [ContractorEdgeData.ofValues]; omega⟩
    · exact ⟨target_in, source_in, by simp only [ContractorEdgeData.ofValues]; omega,
        by simp only [ContractorEdgeData.ofValues]; omega⟩

theorem inside_merged : ∀ edge ∈ mergeParallel sorted.length sorted,
    edge.source < numberOfNodes ∧ edge.target < numberOfNodes := by
  intro edge member
  obtain ⟨⟨other, there, source, target⟩, _⟩ := mem_mergeParallel member
  obtain ⟨source_in, target_in, _⟩ := inside_sorted extracted sorts other there
  rw [source, target]
  exact ⟨source_in, target_in⟩

/-- The edges of a node are the merged ones with it as their source. -/
theorem mem_toContractorGraph {id : ℕ} {entry : DynamicEdge ContractorEdgeData} :
    entry ∈ (toContractorGraph numberOfNodes sorted).adjacent id ↔
      ∃ edge ∈ mergeParallel sorted.length sorted, edge.source = id ∧ edge.entry = entry := by
  have by_source := sortedBy_merged sorts
  have bounded := inside_merged extracted sorts
  rw [toContractorGraph]
  by_cases inside : id < numberOfNodes
  case pos =>
    rw [DynamicGraph.adjacent_ofEdges by_source (fun edge member => (bounded edge member).1)
      inside, List.mem_map]
    simp only [ofKey, List.mem_filter, beq_iff_eq, and_assoc]
  case neg =>
    rw [DynamicGraph.adjacent_of_le
      (by rw [DynamicGraph.getNumberOfNodes_ofEdges by_source]; omega)]
    refine iff_of_false List.not_mem_nil ?_
    rintro ⟨edge, member, rfl, _⟩
    exact inside (bounded edge member).1

theorem forwardArcs_toContractorGraph :
    forwardArcs (toContractorGraph numberOfNodes sorted) tail head weight ↔
      Goes ContractorEdgeData.forward (mergeParallel sorted.length sorted) tail head weight := by
  simp only [forwardArcs, mem_toContractorGraph extracted sorts, Goes]
  constructor
  · rintro ⟨_, ⟨edge, member, source, rfl⟩, target, rest⟩
    exact ⟨edge, member, source, target, rest⟩
  · rintro ⟨edge, member, source, target, rest⟩
    exact ⟨edge.entry, ⟨edge, member, source, rfl⟩, target, rest⟩

theorem backwardArcs_toContractorGraph :
    backwardArcs (toContractorGraph numberOfNodes sorted) tail head weight ↔
      Goes ContractorEdgeData.backward (mergeParallel sorted.length sorted) head tail weight := by
  simp only [backwardArcs, mem_toContractorGraph extracted sorts, Goes]
  constructor
  · rintro ⟨_, ⟨edge, member, source, rfl⟩, target, rest⟩
    exact ⟨edge, member, source, target, rest⟩
  · rintro ⟨edge, member, source, target, rest⟩
    exact ⟨edge.entry, ⟨edge, member, source, rfl⟩, target, rest⟩

/-- Of what the input has between two nodes, the merged edges are no heavier, in both copies. -/
theorem merged_of_inputArcs (arc : inputArcs inputEdgeList tail head weight) :
    (∃ lighter ≤ weight, Goes ContractorEdgeData.forward (mergeParallel sorted.length sorted)
      tail head lighter) ∧
    ∃ lighter ≤ weight, Goes ContractorEdgeData.backward (mergeParallel sorted.length sorted)
      head tail lighter := by
  obtain ⟨ne, leads⟩ := arc
  constructor
  · obtain ⟨edge, member, rfl, rfl, enabled, rfl⟩ := (goes_sorted sorts).1.mpr leads
    exact mergeParallel_complete (Or.inl rfl) (Nat.le_refl _) member ne enabled
      (inside_sorted extracted sorts edge member).2.2.2
  · obtain ⟨edge, member, rfl, rfl, enabled, rfl⟩ := (goes_sorted sorts).2.mpr leads
    exact mergeParallel_complete (Or.inr rfl) (Nat.le_refl _) member (Ne.symm ne) enabled
      (inside_sorted extracted sorts edge member).2.2.2

omit extracted in
theorem alive_initialState {id : ℕ} :
    (initialState (toContractorGraph numberOfNodes sorted)).Alive id ↔ id < numberOfNodes := by
  rw [ContractionState.Alive, initialState, toContractorGraph,
    DynamicGraph.getNumberOfNodes_ofEdges (sortedBy_merged sorts), List.getElem?_replicate]
  refine ⟨fun set => ?_, fun inside => if_pos inside⟩
  by_contra outside
  rw [if_neg outside] at set
  cases set

theorem closed_toContractorGraph : Closed (toContractorGraph numberOfNodes sorted) := by
  have by_source := sortedBy_merged sorts
  have bounded := inside_merged extracted sorts
  have small := extracted.small
  have count : (toContractorGraph numberOfNodes sorted).getNumberOfNodes = numberOfNodes :=
    DynamicGraph.getNumberOfNodes_ofEdges by_source
  refine ⟨DynamicGraph.wellFormed_ofEdges by_source (fun edge member => (bounded edge member).1)
    fun edge member => ?_, by rw [count]; exact small, ?_⟩
  case refine_1 =>
    have := (bounded edge member).2
    omega
  case refine_2 =>
    intro id entry member
    obtain ⟨edge, merged, _, rfl⟩ := (mem_toContractorGraph extracted sorts).mp member
    rw [count]
    exact (bounded edge merged).2

/-- The contraction may start from what is built of the input. -/
theorem contractible_initialState :
    Contractible (initialState (toContractorGraph numberOfNodes sorted)) := by
  have leads : ∀ {id : ℕ} {entry : DynamicEdge ContractorEdgeData},
      entry ∈ (toContractorGraph numberOfNodes sorted).adjacent id →
      (entry.data.forward = true → inputArcs inputEdgeList id entry.target entry.data.weight) ∧
      (entry.data.backward = true → inputArcs inputEdgeList entry.target id entry.data.weight) := by
    intro id entry member
    obtain ⟨edge, merged, source, rfl⟩ := (mem_toContractorGraph extracted sorts).mp member
    exact ⟨fun set => (inputArcs_of_merged sorts).1 ⟨edge, merged, source, rfl, set, rfl⟩,
      fun set => (inputArcs_of_merged sorts).2 ⟨edge, merged, source, rfl, set, rfl⟩⟩
  have flagged : ∀ {id : ℕ} {entry : DynamicEdge ContractorEdgeData},
      entry ∈ (toContractorGraph numberOfNodes sorted).adjacent id →
      entry.data.forward = true ∨ entry.data.backward = true := by
    intro id entry member
    obtain ⟨edge, merged, _, rfl⟩ := (mem_toContractorGraph extracted sorts).mp member
    exact (mem_mergeParallel merged).2.2
  have positive : ∀ {tail head weight : ℕ}, inputArcs inputEdgeList tail head weight →
      0 < weight := by
    rintro tail head weight ⟨_, edge, _, _, rfl, _⟩
    omega
  have closed := closed_toContractorGraph extracted sorts
  have count : (toContractorGraph numberOfNodes sorted).getNumberOfNodes = numberOfNodes :=
    DynamicGraph.getNumberOfNodes_ofEdges (sortedBy_merged sorts)
  have single : ∀ {id : ℕ} {entry : DynamicEdge ContractorEdgeData},
      entry ∈ (toContractorGraph numberOfNodes sorted).adjacent id →
      entry.data.shortcut = false := by
    intro id entry member
    obtain ⟨edge, merged, _, rfl⟩ := (mem_toContractorGraph extracted sorts).mp member
    exact (mem_mergeParallel merged).2.1
  refine ⟨closed, List.length_replicate, ?_, fun _ => flagged, ?_, fun member shortcut =>
    absurd ((single member).symm.trans shortcut) Bool.false_ne_true, ?_, ?_, ?_, List.nodup_range⟩
  case refine_1 =>
    intro id entry _ member
    rw [alive_initialState sorts]
    exact Nat.lt_of_lt_of_eq (closed.inside member) count
  case refine_2 =>
    intro id entry _ member
    rcases flagged member with forward | backward
    · exact positive ((leads member).1 forward)
    · exact positive ((leads member).2 backward)
  case refine_3 =>
    intro id entry _ member forward
    obtain ⟨lighter, le, goes⟩ := (merged_of_inputArcs extracted sorts ((leads member).1 forward)).2
    obtain ⟨mirror, there, target, backward, rfl⟩ :=
      (backwardArcs_toContractorGraph extracted sorts).mpr goes
    exact ⟨mirror, there, target, backward, le⟩
  case refine_4 =>
    intro id entry _ member backward
    obtain ⟨lighter, le, goes⟩ :=
      (merged_of_inputArcs extracted sorts ((leads member).2 backward)).1
    obtain ⟨mirror, there, target, forward, rfl⟩ :=
      (forwardArcs_toContractorGraph extracted sorts).mpr goes
    exact ⟨mirror, there, target, forward, le⟩
  case refine_5 =>
    intro id member
    rw [alive_initialState sorts]
    exact Nat.lt_of_lt_of_eq (List.mem_range.mp member) count

/-- No distance of the input is lost or gained. -/
theorem within_initialState :
    Within (initialState (toContractorGraph numberOfNodes sorted)).arcs tail head weight ↔
      Within (inputArcs inputEdgeList) tail head weight := by
  constructor
  case mp =>
    intro within
    refine within.detour fun arc => ?_
    obtain ⟨_, _, forward⟩ := arc
    exact (Walk.single ((inputArcs_of_merged sorts).1
      ((forwardArcs_toContractorGraph extracted sorts).mp forward))).within
  case mpr =>
    intro within
    refine within.detour fun {source target weight} arc => ?_
    obtain ⟨lighter, le, goes⟩ := (merged_of_inputArcs extracted sorts arc).1
    have forward := (forwardArcs_toContractorGraph extracted sorts).mpr goes
    have inside : source < numberOfNodes := by
      obtain ⟨edge, merged, rfl, _⟩ := goes
      exact (inside_merged extracted sorts edge merged).1
    exact ⟨lighter, le, Walk.single ⟨(alive_initialState sorts).mpr inside, arc.1, forward⟩⟩

/-- No contraction changes a distance of the input: it is the least weight of a walk up and a walk
down that meet in the contracted graph. -/
theorem contraction_preserves_distances {Priority : Type} [LinearOrder Priority]
    {final : ContractionState}
    (contraction :
      ContractGraph Priority (initialState (toContractorGraph numberOfNodes sorted)) final)
    {source target : ℕ} (inside : source < numberOfNodes) (inside' : target < numberOfNodes)
    (below : weight < invalidEdgeWeight) :
    IsDistance (inputArcs inputEdgeList) source target weight ↔
      UpDown (forwardArcs final.graph) (backwardArcs final.graph) source target weight ∧
        ∀ lighter < weight, ¬UpDown (forwardArcs final.graph) (backwardArcs final.graph) source
          target lighter := by
  have same : IsDistance (inputArcs inputEdgeList) source target weight ↔
      IsDistance (initialState (toContractorGraph numberOfNodes sorted)).arcs source target
        weight := by
    rw [isDistance_iff, isDistance_iff, within_initialState extracted sorts]
    refine and_congr_right fun _ => forall_congr' fun lighter => imp_congr_right fun _ => ?_
    rw [within_initialState extracted sorts]
  have contractible := contractible_initialState extracted sorts
  rw [same]
  exact (contraction.run contractible).1.isDistance_iff contractible
    ((alive_initialState sorts).mpr inside) ((alive_initialState sorts).mpr inside') below

end Input

/-! ## A chain of three nodes -/

section Chain

/-- Two edges that follow each other. -/
def chain : List EdgeBasedEdge := [⟨0, 1, 7, 5, 3, true, false⟩, ⟨1, 2, 8, 6, 4, true, false⟩]

def chainSorted : List ContractorEdge :=
  [⟨0, 1, .ofValues 5 3 1 7 false true false⟩, ⟨1, 0, .ofValues 5 3 1 7 false false true⟩,
    ⟨1, 2, .ofValues 6 4 1 8 false true false⟩, ⟨2, 1, .ofValues 6 4 1 8 false false true⟩]

def chainStart : ContractionState := initialState (toContractorGraph 3 chainSorted)

/-- The middle node goes first. -/
def chainRanking : Ranking ℕ where
  close first second := decide (first = second)
  hash := id
  newToOldNodeId := id
  priorities node := if node = 1 then 0 else node + 1
  close_self _ := decide_eq_true rfl
  injective := Function.injective_id

/-- Once the last node has changed places with the middle one, the others follow in their order. -/
def chainRenumberedRanking : Ranking ℕ where
  close first second := decide (first = second)
  hash := id
  newToOldNodeId := Equiv.swap 1 2
  priorities := id
  close_self _ := decide_eq_true rfl
  injective := (Equiv.swap 1 2).injective

/-- The shortcut over the middle node, at both of its ends. -/
def chainShortcuts : List ContractorEdge :=
  [⟨0, 2, .ofValues 11 7 2 1 true true false⟩, ⟨2, 0, .ofValues 11 7 2 1 true false true⟩]

/-- The edges of the middle node stay, and the others have become the shortcut. -/
def chainMiddle : ContractionState where
  graph := ⟨4, [⟨0, 1⟩, ⟨1, 2⟩, ⟨3, 1⟩],
    [⟨2, .ofValues 11 7 2 1 true true false⟩, ⟨0, .ofValues 5 3 1 7 false false true⟩,
      ⟨2, .ofValues 6 4 1 8 false true false⟩, ⟨0, .ofValues 11 7 2 1 true false true⟩]⟩
  isCore := [true, false, true]
  remainingNodes := [0, 2]

/-- The last node has changed places with the middle one. -/
def chainRenumbered : ContractionState where
  graph := ⟨4, [⟨0, 1⟩, ⟨1, 1⟩, ⟨2, 2⟩],
    [⟨1, .ofValues 11 7 2 2 true true false⟩, ⟨0, .ofValues 11 7 2 2 true false true⟩,
      ⟨0, .ofValues 5 3 1 7 false false true⟩, ⟨1, .ofValues 6 4 1 8 false true false⟩]⟩
  isCore := [true, true, false]
  remainingNodes := [0, 1]

def chainLast : ContractionState where
  graph := ⟨3, [⟨0, 1⟩, ⟨1, 0⟩, ⟨2, 2⟩],
    [⟨1, .ofValues 11 7 2 2 true true false⟩,
      ⟨specialNodeId, .ofValues 11 7 2 2 true false true⟩,
      ⟨0, .ofValues 5 3 1 7 false false true⟩, ⟨1, .ofValues 6 4 1 8 false true false⟩]⟩
  isCore := [false, true, false]
  remainingNodes := [1]

def chainContracted : ContractionState :=
  { chainLast with isCore := [false, false, false], remainingNodes := [] }

/-- The nodes are numbered back. -/
def chainEnd : ContractionState where
  graph := ⟨3, [⟨0, 1⟩, ⟨1, 2⟩, ⟨3, 0⟩],
    [⟨2, .ofValues 11 7 2 1 true true false⟩, ⟨0, .ofValues 5 3 1 7 false false true⟩,
      ⟨2, .ofValues 6 4 1 8 false true false⟩]⟩
  isCore := [false, false, false]
  remainingNodes := []

theorem chain_extracted : Extracted 3 chain := by
  refine ⟨by decide, ?_, ?_⟩ <;> decide

theorem chain_sorts : SortsTo (expandEdges chain) chainSorted := by
  refine ⟨by decide, ?_⟩
  simp [chainSorted, edgeLe]

/-- Neighbours that are in order need no sort. -/
theorem neighbours_of_sorted {graph : ContractorGraph} {node : ℕ} (targets : List ℕ)
    (same : ((graph.adjacent node).map DynamicEdge.target).filter (· != node) = targets)
    (ordered : targets.Pairwise fun first second => decide (first ≤ second) = true) :
    neighbours graph node = targets.dedup := by
  rw [neighbours, same, List.mergeSort_of_pairwise ordered]

theorem neighbours_chainStart : neighbours chainStart.graph 0 = [1] ∧
    neighbours chainStart.graph 1 = [0, 2] ∧ neighbours chainStart.graph 2 = [1] :=
  ⟨neighbours_of_sorted [1] rfl (by decide),
    neighbours_of_sorted [0, 2] rfl (by decide),
    neighbours_of_sorted [1] rfl (by decide)⟩

theorem neighbours_chainMiddle :
    neighbours chainMiddle.graph 0 = [2] ∧ neighbours chainMiddle.graph 2 = [0] :=
  ⟨neighbours_of_sorted [2] rfl (by decide),
    neighbours_of_sorted [0] rfl (by decide)⟩

theorem neighbours_chainRenumbered :
    neighbours chainRenumbered.graph 0 = [1] ∧ neighbours chainRenumbered.graph 1 = [0] :=
  ⟨neighbours_of_sorted [1] rfl (by decide),
    neighbours_of_sorted [0] rfl (by decide)⟩

theorem neighbours_chainLast : neighbours chainLast.graph 1 = [] :=
  neighbours_of_sorted [] rfl List.Pairwise.nil

theorem chainStart_contracted :
    chainStart.contracted [1] [1] [chainShortcuts] = chainMiddle := by
  obtain ⟨_, near, _⟩ := neighbours_chainStart
  rw [ContractionState.contracted, List.foldl_cons, List.foldl_nil, deleteIncomingEdges, near]
  decide +kernel

theorem chainRenumbered_contracted : chainRenumbered.contracted [0] [0] [[]] = chainLast := by
  rw [ContractionState.contracted, List.foldl_cons, List.foldl_nil, deleteIncomingEdges,
    neighbours_chainRenumbered.1]
  decide +kernel

theorem chainLast_contracted : chainLast.contracted [1] [1] [[]] = chainContracted := by
  rw [ContractionState.contracted, List.foldl_cons, List.foldl_nil, deleteIncomingEdges,
    neighbours_chainLast]
  decide +kernel

/-- A round of one node, on one thread. -/
theorem Round.single {Priority : Type} [LinearOrder Priority] {ranking : Ranking Priority}
    {state final : ContractionState} {node : ℕ} {nodeWeights leftWeights : List ℕ}
    {block : List ContractorEdge}
    (chosen : state.remainingNodes.filter (isNodeIndependent ranking state.graph) = [node])
    (ran : contractBatch state.graph 1 [(0, node)] nodeWeights = .ok ([block], leftWeights))
    (contracted : state.contracted [node] [node] [block] = final) : Round ranking state final := by
  rw [← contracted]
  refine Round.contract state ?_ ?_ ran (List.Perm.refl _) (.cons (List.Perm.refl _) .nil)
  case refine_1 => rw [chosen, List.map_singleton]
  case refine_2 => exact List.forall_mem_singleton.mpr Nat.zero_lt_one

theorem chain_first : Round chainRanking chainStart chainMiddle := by
  obtain ⟨first, second, third⟩ := neighbours_chainStart
  have chosen : [0, 1, 2].filter (isNodeIndependent chainRanking chainStart.graph) = [1] := by
    simp only [isNodeIndependent, List.filter_cons, first, second, third]
    decide +kernel
  have ran : contractBatch chainStart.graph 1 [(0, 1)] [0, 0, 0] =
      .ok ([chainShortcuts], [0, 0, 0]) := by decide +kernel
  exact Round.single chosen ran chainStart_contracted

theorem chain_second : Round chainRenumberedRanking chainRenumbered chainLast := by
  obtain ⟨first, last⟩ := neighbours_chainRenumbered
  have chosen : [0, 1].filter (isNodeIndependent chainRenumberedRanking chainRenumbered.graph) =
      [0] := by
    simp only [isNodeIndependent, List.filter_cons, first, last]
    decide +kernel
  have ran : contractBatch chainRenumbered.graph 1 [(0, 0)] [0, 0, 0] =
      .ok ([[]], [0, 0, 0]) := by decide +kernel
  exact Round.single chosen ran chainRenumbered_contracted

theorem chain_third : Round chainRenumberedRanking chainLast chainContracted := by
  have chosen : [1].filter (isNodeIndependent chainRenumberedRanking chainLast.graph) = [1] := by
    simp only [isNodeIndependent, List.filter_cons, neighbours_chainLast]
    decide +kernel
  have ran : contractBatch chainLast.graph 1 [(0, 1)] [0, 0, 0] =
      .ok ([[]], [0, 0, 0]) := by decide +kernel
  exact Round.single chosen ran chainLast_contracted

theorem reads_of_map {Priority : Type} [LinearOrder Priority] (ranking : Ranking Priority)
    (size : ℕ) : ranking.Reads ((List.range size).map ranking.newToOldNodeId) := by
  intro id old found
  rw [List.getElem?_map] at found
  obtain ⟨index, there, rfl⟩ := Option.map_eq_some_iff.mp found
  obtain ⟨inside, rfl⟩ := List.getElem?_eq_some_iff.mp there
  rw [List.getElem_range]

/-- When two nodes remain they are renumbered. -/
theorem chain_turns :
    Turn chainRanking (chainStart.loop 3) ⟨chainMiddle, [0, 1, 2], 3⟩ ∧
    Turn chainRenumberedRanking ⟨chainMiddle, [0, 1, 2], 3⟩ ⟨chainLast, [0, 2, 1], 0⟩ ∧
    Turn chainRenumberedRanking ⟨chainLast, [0, 2, 1], 0⟩ ⟨chainContracted, [0, 2, 1], 0⟩ := by
  have reads : chainRanking.Reads [0, 1, 2] := reads_of_map chainRanking 3
  have reads' : chainRenumberedRanking.Reads [0, 2, 1] := reads_of_map chainRenumberedRanking 3
  have waits : (chainStart.loop 3).renumbered = some (chainStart.loop 3) := by decide +kernel
  have renumbers : (ContractionLoop.mk chainMiddle [0, 1, 2] 3).renumbered =
      some ⟨chainRenumbered, [0, 2, 1], 0⟩ := by decide +kernel
  have done : (ContractionLoop.mk chainLast [0, 2, 1] 0).renumbered =
      some ⟨chainLast, [0, 2, 1], 0⟩ := by decide +kernel
  exact ⟨Turn.turn (List.cons_ne_nil _ _) waits reads chain_first,
    Turn.turn (List.cons_ne_nil _ _) renumbers reads' chain_second,
    Turn.turn (List.cons_ne_nil _ _) done reads' chain_third⟩

theorem chain_contraction : ContractGraph ℕ chainStart chainEnd := by
  obtain ⟨first, second, third⟩ := chain_turns
  refine ⟨3, ⟨chainContracted, [0, 2, 1], 0⟩, ?_, rfl, by decide +kernel⟩
  exact ((Relation.ReflTransGen.single ⟨chainRanking, first⟩).tail
    ⟨chainRenumberedRanking, second⟩).tail ⟨chainRenumberedRanking, third⟩

/-- The shortcut has the distance of the two ends. -/
theorem contraction_preserves_chain : IsDistance (inputArcs chain) 0 2 11 ↔
    UpDown (forwardArcs chainEnd.graph) (backwardArcs chainEnd.graph) 0 2 11 ∧
      ∀ lighter < 11, ¬UpDown (forwardArcs chainEnd.graph) (backwardArcs chainEnd.graph) 0 2
        lighter :=
  contraction_preserves_distances chain_extracted chain_sorts chain_contraction (by decide)
    (by decide) (by decide)

end Chain

end Proximity.Routing
