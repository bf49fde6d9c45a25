import Proximity.Routing.ContractGraph

/-!
# What a round preserves

The edges of the nodes that are left stand twice, once at each end, and no distance between these
nodes changes.
-/

namespace Proximity.Routing

open Proximity.Systems

/-- What holds between two rounds. -/
structure Contractible (state : ContractionState) : Prop where
  closed : Closed state.graph
  core : state.isCore.length = state.graph.getNumberOfNodes
  alive : ∀ {id : ℕ} {edge : DynamicEdge ContractorEdgeData}, state.Alive id →
    edge ∈ state.graph.adjacent id → state.Alive edge.target
  flagged : ∀ {id : ℕ} {edge : DynamicEdge ContractorEdgeData}, state.Alive id →
    edge ∈ state.graph.adjacent id → edge.data.forward = true ∨ edge.data.backward = true
  positive : ∀ {id : ℕ} {edge : DynamicEdge ContractorEdgeData}, state.Alive id →
    edge ∈ state.graph.adjacent id → 0 < edge.data.weight
  /-- The id of a shortcut is its middle node. -/
  named : ∀ {id : ℕ} {edge : DynamicEdge ContractorEdgeData}, edge ∈ state.graph.adjacent id →
    edge.data.shortcut = true → edge.data.id < state.graph.getNumberOfNodes
  /-- A forward edge stands as a backward edge at its target. -/
  backs : ∀ {id : ℕ} {edge : DynamicEdge ContractorEdgeData}, state.Alive id →
    edge ∈ state.graph.adjacent id → edge.data.forward = true →
    ∃ mirror ∈ state.graph.adjacent edge.target, mirror.target = id ∧
      mirror.data.backward = true ∧ mirror.data.weight ≤ edge.data.weight
  /-- A backward edge stands as a forward edge at its target. -/
  forths : ∀ {id : ℕ} {edge : DynamicEdge ContractorEdgeData}, state.Alive id →
    edge ∈ state.graph.adjacent id → edge.data.backward = true →
    ∃ mirror ∈ state.graph.adjacent edge.target, mirror.target = id ∧
      mirror.data.forward = true ∧ mirror.data.weight ≤ edge.data.weight
  remaining : ∀ id ∈ state.remainingNodes, state.Alive id
  nodup : state.remainingNodes.Nodup

/-- The arcs between the nodes that are left. -/
def ContractionState.arcs (state : ContractionState) : Arcs ℕ := fun tail head weight =>
  state.Alive tail ∧ tail ≠ head ∧ forwardArcs state.graph tail head weight

/-- The arcs that a node stores with their head. -/
def backwardArcs (graph : ContractorGraph) : Arcs ℕ := fun tail head weight =>
  ∃ edge ∈ graph.adjacent head, edge.target = tail ∧ edge.data.backward = true ∧
    edge.data.weight = weight

/-- No two nodes of the batch are within two edges of each other. -/
structure Independent (state : ContractionState) (batch : List ℕ) : Prop where
  alive : ∀ node ∈ batch, state.Alive node
  apart : Apart state.graph batch
  lonely : ∀ {node other neighbour : ℕ}, node ∈ batch → other ∈ batch →
    neighbour ∈ neighbours state.graph node → other ∈ neighbours state.graph neighbour →
    node = other

section Batches

variable {state : ContractionState} {node other : ℕ}

theorem Contractible.symmetric (contractible : Contractible state) (alive : state.Alive node)
    (near : other ∈ neighbours state.graph node) : node ∈ neighbours state.graph other := by
  obtain ⟨ne, edge, member, rfl⟩ := mem_neighbours.mp near
  rw [mem_neighbours]
  refine ⟨Ne.symm ne, ?_⟩
  rcases contractible.flagged alive member with forward | backward
  case inl =>
    obtain ⟨mirror, there, target, _⟩ := contractible.backs alive member forward
    exact ⟨mirror, there, target⟩
  case inr =>
    obtain ⟨mirror, there, target, _⟩ := contractible.forths alive member backward
    exact ⟨mirror, there, target⟩

theorem Contractible.alive_neighbour (contractible : Contractible state)
    (alive : state.Alive node) (near : other ∈ neighbours state.graph node) :
    state.Alive other := by
  obtain ⟨_, edge, member, rfl⟩ := mem_neighbours.mp near
  exact contractible.alive alive member

theorem bias_total (hash : ℕ → ℕ) {first second : ℕ} (ne : first ≠ second) :
    bias hash first second = true ∨ bias hash second first = true := by
  rw [bias, bias]
  by_cases same : hash first = hash second
  case pos =>
    rw [same, bne_self_eq_false, if_neg Bool.false_ne_true, if_neg Bool.false_ne_true,
      decide_eq_true_iff, decide_eq_true_iff]
    exact Nat.lt_or_gt_of_ne ne
  case neg =>
    rw [if_pos (bne_iff_ne.mpr same), if_pos (bne_iff_ne.mpr (Ne.symm same)), decide_eq_true_iff,
      decide_eq_true_iff]
    exact Nat.lt_or_gt_of_ne same

variable {Priority : Type} [LinearOrder Priority] {ranking : Ranking Priority}

/-- Of two nodes one beats the other. -/
theorem beats_total (ranking : Ranking Priority) (ne : node ≠ other) :
    ranking.beats node other = true ∨ ranking.beats other node = true := by
  rw [Ranking.beats, Ranking.beats, Bool.or_eq_true, Bool.or_eq_true, decide_eq_true_iff,
    decide_eq_true_iff, Bool.and_eq_true, Bool.and_eq_true]
  rcases lt_trichotomy (ranking.priorities node) (ranking.priorities other) with less | same | more
  case inl => exact Or.inr (Or.inl less)
  case inr.inr => exact Or.inl (Or.inl more)
  case inr.inl =>
    rw [same]
    have close := ranking.close_self (ranking.priorities other)
    rcases bias_total ranking.hash (fun same => ne (ranking.injective same)) with
      wins | wins
    · exact Or.inl (Or.inr ⟨close, wins⟩)
    · exact Or.inr (Or.inr ⟨close, wins⟩)

/-- An independent node is beaten by no other one at most two edges away. -/
theorem not_beats_of_independent (independent : isNodeIndependent ranking state.graph node = true)
    (near : other ∈ neighbours state.graph node ∨ (node ≠ other ∧
      ∃ neighbour ∈ neighbours state.graph node, other ∈ neighbours state.graph neighbour)) :
    ranking.beats node other = false := by
  rw [isNodeIndependent, Bool.and_eq_true, List.all_eq_true, List.all_eq_true] at independent
  rcases near with near | ⟨ne, neighbour, near, far⟩
  case inl =>
    obtain ⟨ne, edge, member, rfl⟩ := mem_neighbours.mp near
    have beaten := independent.1 edge member
    rwa [beq_eq_false_iff_ne.mpr (Ne.symm ne), Bool.false_or, Bool.not_eq_true'] at beaten
  case inr =>
    obtain ⟨_, edge, member, rfl⟩ := mem_neighbours.mp far
    have beaten := List.all_eq_true.mp (independent.2 neighbour near) edge member
    rwa [beq_eq_false_iff_ne.mpr ne, Bool.false_or, Bool.not_eq_true'] at beaten

/-- The nodes that a round chooses are independent of each other. -/
theorem Contractible.independent (contractible : Contractible state) {batch : List ℕ}
    (chosen : batch.Perm (state.remainingNodes.filter (isNodeIndependent ranking state.graph))) :
    Independent state batch := by
  have mem : ∀ {node : ℕ}, node ∈ batch →
      state.Alive node ∧ isNodeIndependent ranking state.graph node = true := by
    intro node member
    obtain ⟨remains, independent⟩ := List.mem_filter.mp (chosen.mem_iff.mp member)
    exact ⟨contractible.remaining node remains, independent⟩
  refine ⟨fun node member => (mem member).1, ?_, ?_⟩
  case refine_1 =>
    intro node other member member' near
    have ne := (mem_neighbours.mp near).1
    have back := contractible.symmetric (mem member).1 near
    rcases beats_total ranking ne with wins | wins
    · rw [not_beats_of_independent (mem member').2 (Or.inl back)] at wins
      cases wins
    · rw [not_beats_of_independent (mem member).2 (Or.inl near)] at wins
      cases wins
  case refine_2 =>
    intro node other neighbour member member' near far
    by_contra ne
    have alive := contractible.alive_neighbour (mem member).1 near
    have back := contractible.symmetric (mem member).1 near
    have back' := contractible.symmetric alive far
    rcases beats_total ranking ne with wins | wins
    · rw [not_beats_of_independent (mem member).2 (Or.inr ⟨ne, neighbour, near, far⟩)] at wins
      cases wins
    · rw [not_beats_of_independent (mem member').2
        (Or.inr ⟨Ne.symm ne, neighbour, back', back⟩)] at wins
      cases wins

end Batches

/-! ## One round -/

section OneRound

theorem getElem?_contracted {batch : List ℕ} {core : List Bool} {id : ℕ} :
    (batch.foldl (fun core node => core.set node false) core)[id]? = some true ↔
      core[id]? = some true ∧ id ∉ batch := by
  induction batch generalizing core with
  | nil => rw [List.foldl_nil, and_iff_left List.not_mem_nil]
  | cons first rest ih =>
      rw [List.foldl_cons, ih, List.mem_cons, not_or, ← and_assoc]
      refine and_congr_left fun _ => ?_
      by_cases same : id = first
      case pos =>
        subst same
        rw [List.getElem?_set]
        refine iff_of_false (fun set => ?_) fun also => also.2 rfl
        rw [if_pos rfl] at set
        split at set
        · cases set
        · cases set
      case neg => rw [List.getElem?_set_ne (Ne.symm same), and_iff_left same]

theorem length_contracted {batch : List ℕ} {core : List Bool} :
    (batch.foldl (fun core node => core.set node false) core).length = core.length := by
  induction batch generalizing core with
  | nil => rfl
  | cons first rest ih => rw [List.foldl_cons, ih, List.length_set]

variable {state : ContractionState} {batch deletions : List ℕ}
  {sorted : List (List ContractorEdge)} {id : ℕ} {edge : DynamicEdge ContractorEdgeData}

theorem alive_contracted :
    (state.contracted batch deletions sorted).Alive id ↔ state.Alive id ∧ id ∉ batch :=
  getElem?_contracted

theorem not_alive_contracted (left : id ∈ batch) :
    ¬(state.contracted batch deletions sorted).Alive id :=
  fun also => (alive_contracted.mp also).2 left

theorem mem_neighbours_of_arcs {tail head weight : ℕ} (arc : state.arcs tail head weight) :
    head ∈ neighbours state.graph tail := by
  obtain ⟨_, ne, edge, member, rfl, _⟩ := arc
  exact mem_neighbours.mpr ⟨Ne.symm ne, edge, member, rfl⟩

/-- An arc that is served or inserted is one of the next state. -/
theorem within_of_serving {tail head weight : ℕ} (alive : state.Alive tail) (left : tail ∉ batch)
    (ne : tail ≠ head) {serving : DynamicEdge ContractorEdgeData}
    (there : serving ∈ (state.contracted batch deletions sorted).graph.adjacent tail)
    (target : serving.target = head) (forward : serving.data.forward = true)
    (le : serving.data.weight ≤ weight) :
    Within (state.contracted batch deletions sorted).arcs tail head weight :=
  ⟨_, le, Walk.single
    ⟨alive_contracted.mpr ⟨alive, left⟩, ne, serving, there, target, forward, rfl⟩⟩

/-- A forward edge is a walk. -/
theorem within_of_own {tail head weight : ℕ} (alive : state.Alive tail)
    (arc : forwardArcs state.graph tail head weight) : Within state.arcs tail head weight := by
  by_cases loop : tail = head
  case pos =>
    subst loop
    exact Within.refl _ tail weight
  case neg => exact (Walk.single ⟨alive, loop, arc⟩).within

/-- A backward edge of a node that is left is a walk to it. -/
theorem Contractible.within_of_backward (contractible : Contractible state)
    {tail head weight : ℕ} (alive : state.Alive head)
    (arc : backwardArcs state.graph tail head weight) : Within state.arcs tail head weight := by
  obtain ⟨edge, member, rfl, backward, rfl⟩ := arc
  obtain ⟨mirror, there, rfl, forward, le⟩ := contractible.forths alive member backward
  exact (within_of_own (contractible.alive alive member) ⟨mirror, there, rfl, forward, rfl⟩).mono le

/-- The premises of a round: the batch is independent and has been contracted. -/
structure Contracted (state : ContractionState) (batch deletions : List ℕ)
    (sorted : List (List ContractorEdge)) : Prop where
  contractible : Contractible state
  independent : Independent state batch
  deletes : deletions.Perm batch
  inserted : InsertedOver state.graph batch sorted.flatten

namespace Contracted

variable (round : Contracted state batch deletions sorted)

include round

/-- Both ends of a shortcut are left. -/
theorem ends {shortcut : ContractorEdge} (member : shortcut ∈ sorted.flatten) :
    (state.Alive shortcut.source ∧ shortcut.source ∉ batch) ∧
      (state.Alive shortcut.target ∧ shortcut.target ∉ batch) := by
  obtain ⟨node, contracted, spans⟩ := round.inserted.spans shortcut member
  have near : shortcut.source ∈ neighbours state.graph node ∧
      shortcut.target ∈ neighbours state.graph node := by
    rcases spans.flagged with forward | backward
    case inl =>
      obtain ⟨inEdge, entering, outEdge, leaving, source, _, target, _⟩ := spans.forth forward
      exact ⟨mem_neighbours.mpr ⟨spans.source_ne, inEdge, entering, source⟩,
        mem_neighbours.mpr ⟨spans.target_ne, outEdge, leaving, target⟩⟩
    case inr =>
      obtain ⟨inEdge, entering, outEdge, leaving, source, _, target, _⟩ := spans.back backward
      exact ⟨mem_neighbours.mpr ⟨spans.source_ne, outEdge, leaving, target⟩,
        mem_neighbours.mpr ⟨spans.target_ne, inEdge, entering, source⟩⟩
  have alive := round.independent.alive node contracted
  exact ⟨⟨round.contractible.alive_neighbour alive near.1,
      fun also => round.independent.apart contracted also near.1⟩,
    round.contractible.alive_neighbour alive near.2,
      fun also => round.independent.apart contracted also near.2⟩

theorem deleted : Closed (deletions.foldl deleteIncomingEdges state.graph) ∧
    (deletions.foldl deleteIncomingEdges state.graph).getNumberOfNodes =
      state.graph.getNumberOfNodes ∧
    ∀ {id : ℕ} {edge : DynamicEdge ContractorEdgeData},
      edge ∈ (deletions.foldl deleteIncomingEdges state.graph).adjacent id ↔
        edge ∈ state.graph.adjacent id ∧
          ¬(edge.target ∈ batch ∧ id ∈ neighbours state.graph edge.target) := by
  have apart : Apart state.graph deletions := fun member other =>
    round.independent.apart (round.deletes.mem_iff.mp member) (round.deletes.mem_iff.mp other)
  obtain ⟨closed, count, mem⟩ := deleteBatch_spec round.contractible.closed apart
  refine ⟨closed, count, ?_⟩
  intro id edge
  rw [mem, round.deletes.mem_iff]

theorem alive_lt {id : ℕ} (alive : state.Alive id) : id < state.graph.getNumberOfNodes := by
  rw [← round.contractible.core]
  exact (List.getElem?_eq_some_iff.mp alive).1

theorem grows : Grows (deletions.foldl deleteIncomingEdges state.graph)
    (state.contracted batch deletions sorted).graph sorted.flatten := by
  refine grows_insertShortcuts round.deleted.1 fun shortcut member => ?_
  obtain ⟨source, target⟩ := round.ends member
  rw [round.deleted.2.1]
  exact ⟨round.alive_lt source.1, round.alive_lt target.1⟩

/-- An edge between nodes that are left is served. -/
theorem served (target_left : edge.target ∉ batch) (member : edge ∈ state.graph.adjacent id) :
    ∃ serving ∈ (state.contracted batch deletions sorted).graph.adjacent id,
      Serves serving edge :=
  round.grows.kept (round.deleted.2.2.mpr ⟨member, fun also => target_left also.1⟩)

/-- An edge of a node that is left was there before or is a shortcut. -/
theorem old_or_new (alive : state.Alive id) (left : id ∉ batch)
    (member : edge ∈ (state.contracted batch deletions sorted).graph.adjacent id) :
    (edge ∈ state.graph.adjacent id ∧ edge.target ∉ batch) ∨
      ∃ shortcut ∈ sorted.flatten, shortcut.source = id ∧ shortcut.entry = edge := by
  rcases round.grows.only member with before | new
  case inr => exact Or.inr new
  case inl =>
    obtain ⟨there, kept⟩ := round.deleted.2.2.mp before
    refine Or.inl ⟨there, fun contracted => kept ⟨contracted, ?_⟩⟩
    refine round.contractible.symmetric alive (mem_neighbours.mpr ⟨?_, edge, there, rfl⟩)
    rintro same
    exact left (same ▸ contracted)

/-- The edges of a node that is not left stay as they are. -/
theorem frozen (gone : ¬(state.contracted batch deletions sorted).Alive id) :
    edge ∈ (state.contracted batch deletions sorted).graph.adjacent id ↔
      edge ∈ state.graph.adjacent id := by
  rw [alive_contracted] at gone
  rw [round.grows.frame, round.deleted.2.2, and_iff_left]
  case _ =>
    rintro ⟨contracted, near⟩
    have alive := round.contractible.alive_neighbour (round.independent.alive _ contracted) near
    exact gone ⟨alive, fun also => round.independent.apart contracted also near⟩
  case _ =>
    rintro shortcut member rfl
    exact gone (round.ends member).1

/-- A shortcut weighs as much as two edges of its middle node. -/
theorem positive_shortcut {shortcut : ContractorEdge} (member : shortcut ∈ sorted.flatten) :
    0 < shortcut.data.weight := by
  obtain ⟨node, contracted, spans⟩ := round.inserted.spans shortcut member
  have alive := round.independent.alive node contracted
  rcases spans.flagged with forward | backward
  case inl =>
    obtain ⟨inEdge, entering, outEdge, leaving, _, _, _, _, weight⟩ := spans.forth forward
    have := round.contractible.positive alive entering
    omega
  case inr =>
    obtain ⟨inEdge, entering, outEdge, leaving, _, _, _, _, weight⟩ := spans.back backward
    have := round.contractible.positive alive entering
    omega

/-- Edges are old ones, or shortcuts over a node of the batch. -/
theorem old_or_shortcut
    (member : edge ∈ (state.contracted batch deletions sorted).graph.adjacent id) :
    edge ∈ state.graph.adjacent id ∨
      (edge.data.shortcut = true ∧ 0 < edge.data.weight ∧ edge.data.id ∈ batch) := by
  by_cases alive : (state.contracted batch deletions sorted).Alive id
  case neg => exact Or.inl ((round.frozen alive).mp member)
  case pos =>
    obtain ⟨before, left⟩ := alive_contracted.mp alive
    rcases round.old_or_new before left member with ⟨old, _⟩ | ⟨inserted, new, _, rfl⟩
    case inl => exact Or.inl old
    case inr =>
      obtain ⟨node, contracted, spans⟩ := round.inserted.spans inserted new
      have same : inserted.entry.data.id = node := spans.id
      exact Or.inr ⟨spans.shortcut, round.positive_shortcut new, same ▸ contracted⟩

theorem named_after (member : edge ∈ (state.contracted batch deletions sorted).graph.adjacent id)
    (shortcut : edge.data.shortcut = true) :
    edge.data.id < (state.contracted batch deletions sorted).graph.getNumberOfNodes := by
  rw [round.grows.count, round.deleted.2.1]
  rcases round.old_or_shortcut member with old | ⟨_, _, contracted⟩
  case inl => exact round.contractible.named old shortcut
  case inr => exact round.alive_lt (round.independent.alive _ contracted)

/-- The next round starts from what this one has kept. -/
theorem contractible_after : Contractible (state.contracted batch deletions sorted) := by
  refine ⟨round.grows.closed, ?_, ?_, ?_, ?_, round.named_after, ?_, ?_, ?_, ?_⟩
  case refine_1 =>
    rw [round.grows.count, round.deleted.2.1, ← round.contractible.core]
    exact length_contracted
  case refine_2 =>
    intro id edge alive member
    rw [alive_contracted] at alive ⊢
    rcases round.old_or_new alive.1 alive.2 member with ⟨before, left⟩ | ⟨shortcut, new, _, rfl⟩
    · exact ⟨round.contractible.alive alive.1 before, left⟩
    · exact (round.ends new).2
  case refine_3 =>
    intro id edge alive member
    rw [alive_contracted] at alive
    rcases round.old_or_new alive.1 alive.2 member with ⟨before, _⟩ | ⟨shortcut, new, _, rfl⟩
    · exact round.contractible.flagged alive.1 before
    · obtain ⟨_, _, spans⟩ := round.inserted.spans shortcut new
      exact spans.flagged
  case refine_4 =>
    intro id edge alive member
    rw [alive_contracted] at alive
    rcases round.old_or_new alive.1 alive.2 member with ⟨before, _⟩ | ⟨shortcut, new, _, rfl⟩
    · exact round.contractible.positive alive.1 before
    · exact round.positive_shortcut new
  case refine_5 =>
    intro id edge alive member forward
    rw [alive_contracted] at alive
    rcases round.old_or_new alive.1 alive.2 member with ⟨before, _⟩ | ⟨shortcut, new, rfl, rfl⟩
    case inl =>
      obtain ⟨mirror, there, rfl, backward, le⟩ :=
        round.contractible.backs alive.1 before forward
      obtain ⟨serving, here, serves⟩ := round.served alive.2 there
      exact ⟨serving, here, serves.target, serves.backward.trans backward,
        Nat.le_trans serves.le le⟩
    case inr =>
      obtain ⟨twin, new', source, target, backward, weight⟩ :=
        round.inserted.twin.mp ⟨shortcut, new, rfl, rfl, forward, rfl⟩
      obtain ⟨serving, here, serves⟩ := round.grows.new new'
      rw [source] at here
      exact ⟨serving, here, serves.target.trans target, serves.backward.trans backward,
        Nat.le_trans serves.le (Nat.le_of_eq weight)⟩
  case refine_6 =>
    intro id edge alive member backward
    rw [alive_contracted] at alive
    rcases round.old_or_new alive.1 alive.2 member with ⟨before, _⟩ | ⟨shortcut, new, rfl, rfl⟩
    case inl =>
      obtain ⟨mirror, there, rfl, forward, le⟩ :=
        round.contractible.forths alive.1 before backward
      obtain ⟨serving, here, serves⟩ := round.served alive.2 there
      exact ⟨serving, here, serves.target, serves.forward.trans forward,
        Nat.le_trans serves.le le⟩
    case inr =>
      obtain ⟨twin, new', source, target, forward, weight⟩ :=
        round.inserted.twin.mpr ⟨shortcut, new, rfl, rfl, backward, rfl⟩
      obtain ⟨serving, here, serves⟩ := round.grows.new new'
      rw [source] at here
      exact ⟨serving, here, serves.target.trans target, serves.forward.trans forward,
        Nat.le_trans serves.le (Nat.le_of_eq weight)⟩
  case refine_7 =>
    intro id member
    obtain ⟨before, left⟩ := List.mem_filter.mp member
    rw [Bool.not_eq_true', List.contains_eq_mem, decide_eq_false_iff_not] at left
    rw [alive_contracted]
    exact ⟨round.contractible.remaining id before, left⟩
  case refine_8 => exact round.contractible.nodup.filter _

/-- The walks of a witness search, without the edges that lead from a node to itself. -/
theorem within_of_around {node source target weight : ℕ}
    (walk : Walk (around state.graph node) source target weight) (alive : state.Alive source) :
    Within (fun tail head weight => state.arcs tail head weight ∧ head ≠ node) source target
      weight := by
  induction walk with
  | nil id => exact Within.refl _ id 0
  | @cons tail middle head first rest arc later ih =>
      obtain ⟨forward, ne⟩ := arc
      have inside : state.Alive middle := by
        obtain ⟨edge, member, rfl, _⟩ := forward
        exact round.contractible.alive alive member
      by_cases loop : tail = middle
      case pos =>
        subst loop
        exact (ih alive).mono (Nat.le_add_left rest first)
      case neg => exact (Walk.single ⟨⟨alive, loop, forward⟩, ne⟩).within.trans (ih inside)

/-- A round leaves its batch out. -/
theorem contracts : Contracts state.arcs (state.contracted batch deletions sorted).arcs
    (· ∈ batch) invalidEdgeWeight where
  positive := by
    rintro source target weight ⟨alive, _, edge, member, _, _, rfl⟩
    exact round.contractible.positive alive member
  apart := fun arc contracted also =>
    round.independent.apart contracted also (mem_neighbours_of_arcs arc)
  lonely := fun arc arc' contracted also =>
    round.independent.lonely contracted also
      (round.contractible.symmetric arc.1 (mem_neighbours_of_arcs arc))
      (mem_neighbours_of_arcs arc')
  kept := by
    rintro source target weight ⟨alive, ne, edge, member, rfl, forward, rfl⟩ left target_left
    obtain ⟨serving, there, serves⟩ := round.served target_left member
    exact within_of_serving alive left ne there serves.target
      (serves.forward.trans forward) serves.le
  bridged := by
    rintro source node target first second ⟨alive, ne, edge, member, rfl, forward, rfl⟩ arc'
      contracted apart small
    obtain ⟨alive', ne', edge', leaving, rfl, forward', rfl⟩ := arc'
    obtain ⟨mirror, entering, rfl, backward, le⟩ :=
      round.contractible.backs alive member forward
    have left : mirror.target ∉ batch := fun also =>
      round.independent.apart contracted also
        (mem_neighbours.mpr ⟨ne, mirror, entering, rfl⟩)
    have covered := round.inserted.covers _ contracted mirror entering backward ne edge' leaving
      forward' (Ne.symm ne')
    rcases covered with ⟨shortcut, new, source, target, forth, weight⟩ | witness | heavy
    case inl =>
      obtain ⟨serving, there, serves⟩ := round.grows.new new
      rw [source] at there
      have light : serving.data.weight ≤ shortcut.data.weight := serves.le
      exact Or.inl (within_of_serving alive left apart there (serves.target.trans target)
        (serves.forward.trans forth) (by omega))
    case inr.inl =>
      obtain ⟨shorter, below, walk⟩ := witness
      exact Or.inr ((round.within_of_around walk alive).mono (by omega))
    case inr.inr => omega

/-- An arc of the next graph is no shortcut past the distances of this one. -/
theorem within_of_forward {tail head weight : ℕ} (alive : state.Alive tail)
    (arc : forwardArcs (state.contracted batch deletions sorted).graph tail head weight) :
    Within state.arcs tail head weight := by
  obtain ⟨edge, member, rfl, forward, rfl⟩ := arc
  by_cases left : tail ∈ batch
  case pos =>
    exact within_of_own alive
      ⟨edge, (round.frozen (not_alive_contracted left)).mp member, rfl, forward, rfl⟩
  case neg =>
    rcases round.old_or_new alive left member with ⟨before, _⟩ | ⟨shortcut, new, rfl, rfl⟩
    case inl => exact within_of_own alive ⟨edge, before, rfl, forward, rfl⟩
    case inr =>
      obtain ⟨node, contracted, spans⟩ := round.inserted.spans shortcut new
      obtain ⟨inEdge, entering, outEdge, leaving, source, backward, target, forward', weight⟩ :=
        spans.forth forward
      have alive' := round.independent.alive node contracted
      obtain ⟨mirror, there, rfl, forth, le⟩ :=
        round.contractible.forths alive' entering backward
      rw [source] at there
      have first := (within_of_own alive ⟨mirror, there, rfl, forth, rfl⟩).mono le
      have second := within_of_own alive' ⟨outEdge, leaving, target, forward', rfl⟩
      exact (first.trans second).mono (Nat.le_of_eq weight)

theorem within_of_backward {tail head weight : ℕ} (alive : state.Alive head)
    (arc : backwardArcs (state.contracted batch deletions sorted).graph tail head weight) :
    Within state.arcs tail head weight := by
  obtain ⟨edge, member, rfl, backward, rfl⟩ := arc
  by_cases left : head ∈ batch
  case pos =>
    exact round.contractible.within_of_backward alive
      ⟨edge, (round.frozen (not_alive_contracted left)).mp member, rfl, backward, rfl⟩
  case neg =>
    have alive' : (state.contracted batch deletions sorted).Alive head :=
      alive_contracted.mpr ⟨alive, left⟩
    obtain ⟨mirror, there, rfl, forward, le⟩ :=
      round.contractible_after.forths alive' member backward
    have tail_alive := (alive_contracted.mp (round.contractible_after.alive alive' member)).1
    exact (round.within_of_forward tail_alive ⟨mirror, there, rfl, forward, rfl⟩).mono le

end Contracted

section Premises

variable {Priority : Type} [LinearOrder Priority] {state final : ContractionState}

/-- What a round does is what the contraction of its batch does. -/
theorem Round.premises {ranking : Ranking Priority} (contractible : Contractible state)
    (round : Round ranking state final) :
    ∃ batch deletions sorted, final = state.contracted batch deletions sorted ∧
      Contracted state batch deletions sorted := by
  cases round with
  | @contract threads schedule deletions nodeWeights leftWeights blocks sorted scheduled threaded
      ran deletes sorts =>
      refine ⟨_, _, _, rfl, contractible, contractible.independent scheduled, deletes, ?_⟩
      refine (contractBatch_spec threaded ran).congr fun edge => ?_
      clear ran
      induction sorts with
      | nil => exact Iff.rfl
      | cons perm _ ih =>
          rw [List.flatten_cons, List.flatten_cons, List.mem_append, List.mem_append,
            perm.mem_iff, ih]

theorem Contractible.alive_of_walk (contractible : Contractible state)
    {source target weight : ℕ} (walk : Walk state.arcs source target weight) :
    state.Alive source ↔ state.Alive target := by
  induction walk with
  | nil => exact Iff.rfl
  | cons arc _ ih =>
      obtain ⟨alive, _, edge, member, rfl, _⟩ := arc
      exact iff_of_true alive (ih.mp (contractible.alive alive member))

end Premises

end OneRound

end Proximity.Routing
