import Proximity.Routing.RenumberGraph

/-!
# What the rounds preserve

A run is made of rounds and renumberings.  A shortest walk of the first graph leads, in the last
one and under the names of its nodes there, up to some node and down from it.
-/

namespace Proximity.Routing

open Proximity.Systems

/-- Rounds, each with priorities of its own, and renumberings in between.  The permutation is what
has become of the names. -/
inductive Run (Priority : Type) [LinearOrder Priority] :
    ContractionState → Equiv.Perm ℕ → ContractionState → Prop where
  | done (state : ContractionState) : Run Priority state (Equiv.refl ℕ) state
  | round {state middle final : ContractionState} {name : Equiv.Perm ℕ}
      {ranking : Ranking Priority} (round : Round ranking state middle)
      (later : Run Priority middle name final) : Run Priority state name final
  | renumber {state middle final : ContractionState} {first name : Equiv.Perm ℕ}
      (renames : Renames first state middle) (later : Run Priority middle name final) :
      Run Priority state (first.trans name) final

/-- The edges of the nodes that are not left are those of the first graph. -/
def Frozen (state : ContractionState) (name : Equiv.Perm ℕ) (final : ContractionState) : Prop :=
  ∀ {id : ℕ} {edge : DynamicEdge ContractorEdgeData}, ¬state.Alive id →
    (edge ∈ final.graph.adjacent (name id) ↔
      ∃ old ∈ state.graph.adjacent id, renameEntry name old = edge)

theorem renameEntry_refl (entry : DynamicEdge ContractorEdgeData) :
    renameEntry (Equiv.refl ℕ) entry = entry := by
  rw [renameEntry]
  split <;> rfl

theorem renameEntry_trans (first name : Equiv.Perm ℕ) (entry : DynamicEdge ContractorEdgeData) :
    renameEntry name (renameEntry first entry) = renameEntry (first.trans name) entry := by
  rw [renameEntry, shortcut_renameEntry, renameEntry, renameEntry]
  dsimp only
  split <;> rfl

namespace Run

variable {Priority : Type} [LinearOrder Priority] {state middle final : ContractionState}
  {name : Equiv.Perm ℕ}

theorem append {later : Equiv.Perm ℕ} (run : Run Priority state name middle)
    (next : Run Priority middle later final) : Run Priority state (name.trans later) final := by
  induction run with
  | done => exact next
  | round round _ ih => exact .round round (ih next)
  | renumber renames _ ih =>
      rw [Equiv.trans_assoc]
      exact .renumber renames (ih next)

theorem contractible (contractible : Contractible state) (run : Run Priority state name final) :
    Contractible final := by
  induction run with
  | done => exact contractible
  | round round _ ih =>
      obtain ⟨batch, deletions, sorted, rfl, premises⟩ := round.premises contractible
      exact ih premises.contractible_after
  | renumber renames _ ih => exact ih (renames.contractible contractible)

/-- The nodes stay, and edges are those of the first graph or shortcuts with a weight. -/
theorem edges (contractible : Contractible state) (run : Run Priority state name final) :
    final.graph.getNumberOfNodes = state.graph.getNumberOfNodes ∧
      ∀ {id : ℕ} {edge : DynamicEdge ContractorEdgeData}, edge ∈ final.graph.adjacent (name id) →
        (∃ old ∈ state.graph.adjacent id, renameEntry name old = edge) ∨
          (edge.data.shortcut = true ∧ 0 < edge.data.weight) := by
  induction run with
  | done => exact ⟨rfl, fun member => Or.inl ⟨_, member, renameEntry_refl _⟩⟩
  | round round _ ih =>
      obtain ⟨batch, deletions, sorted, rfl, premises⟩ := round.premises contractible
      obtain ⟨count, later⟩ := ih premises.contractible_after
      refine ⟨count.trans (premises.grows.count.trans premises.deleted.2.1), fun member => ?_⟩
      rcases later member with ⟨old, before, rfl⟩ | new
      case inr => exact Or.inr new
      case inl =>
        rcases premises.old_or_shortcut before with there | ⟨shortcut, positive, _⟩
        · exact Or.inl ⟨old, there, rfl⟩
        · refine Or.inr ⟨shortcut_renameEntry.trans shortcut, ?_⟩
          rwa [weight_renameEntry]
  | @renumber state middle final first name renames _ ih =>
      obtain ⟨count, later⟩ := ih (renames.contractible contractible)
      refine ⟨count.trans renames.count, fun member => ?_⟩
      rcases later member with ⟨old, before, rfl⟩ | new
      case inr => exact Or.inr new
      case inl =>
        obtain ⟨older, there, rfl⟩ := renames.mem_adjacent.mp before
        exact Or.inl ⟨older, there, (renameEntry_trans first name older).symm⟩

/-- Numbers that are no nodes keep their names. -/
theorem outside (contractible : Contractible state) (run : Run Priority state name final) {id : ℕ}
    (large : state.graph.getNumberOfNodes ≤ id) : name id = id := by
  induction run with
  | done => rfl
  | round round _ ih =>
      obtain ⟨batch, deletions, sorted, rfl, premises⟩ := round.premises contractible
      refine ih premises.contractible_after (Nat.le_trans (Nat.le_of_eq ?_) large)
      exact premises.grows.count.trans premises.deleted.2.1
  | renumber renames _ ih =>
      rw [Equiv.trans_apply, renames.outside large]
      exact ih (renames.contractible contractible) (renames.count.trans_le large)

/-- Nodes are never left again, and their edges stay. -/
theorem frozen (contractible : Contractible state) (run : Run Priority state name final) :
    Frozen state name final ∧ ∀ {id : ℕ}, final.Alive (name id) → state.Alive id := by
  induction run with
  | done state =>
      refine ⟨fun _ => ?_, fun alive => alive⟩
      simp only [renameEntry_refl, exists_eq_right]
      exact Iff.rfl
  | @round state middle final name ranking round _ ih =>
      obtain ⟨batch, deletions, sorted, rfl, premises⟩ := round.premises contractible
      obtain ⟨frozen, alive⟩ := ih premises.contractible_after
      refine ⟨fun {id edge} gone => ?_, fun left => (alive_contracted.mp (alive left)).1⟩
      have gone' : ¬(state.contracted batch deletions sorted).Alive id :=
        fun also => gone (alive_contracted.mp also).1
      rw [frozen gone']
      refine exists_congr fun old => and_congr_left fun _ => ?_
      exact premises.frozen gone'
  | @renumber state middle final first name renames _ ih =>
      obtain ⟨frozen, alive⟩ := ih (renames.contractible contractible)
      refine ⟨fun gone => ?_, fun left => renames.alive.mp (alive left)⟩
      rw [Equiv.trans_apply, frozen fun also => gone (renames.alive.mp also)]
      constructor
      · rintro ⟨entry, member, rfl⟩
        obtain ⟨old, there, rfl⟩ := renames.mem_adjacent.mp member
        exact ⟨old, there, (renameEntry_trans first name old).symm⟩
      · rintro ⟨old, there, rfl⟩
        exact ⟨_, renames.mem_adjacent.mpr ⟨old, there, rfl⟩, renameEntry_trans first name old⟩

/-- What the edges of the last graph weigh is the weight of a walk in the first one. -/
theorem sound (contractible : Contractible state) (run : Run Priority state name final) :
    (∀ {tail head weight : ℕ}, state.Alive tail →
      forwardArcs final.graph (name tail) (name head) weight →
        Within state.arcs tail head weight) ∧
    ∀ {tail head weight : ℕ}, state.Alive head →
      backwardArcs final.graph (name tail) (name head) weight →
        Within state.arcs tail head weight := by
  induction run with
  | done => exact ⟨within_of_own, contractible.within_of_backward⟩
  | @round state middle final name ranking round later ih =>
      obtain ⟨batch, deletions, sorted, rfl, premises⟩ := round.premises contractible
      obtain ⟨forth, back⟩ := ih premises.contractible_after
      obtain ⟨frozen, _⟩ := later.frozen premises.contractible_after
      refine ⟨?_, ?_⟩
      case refine_1 =>
        intro tail head weight alive arc
        by_cases left : tail ∈ batch
        case pos =>
          obtain ⟨edge, member, target, forward, rfl⟩ := arc
          obtain ⟨old, there, rfl⟩ := (frozen (not_alive_contracted left)).mp member
          rw [forward_renameEntry] at forward
          exact premises.within_of_forward alive
            ⟨old, there, name.injective target, forward, weight_renameEntry.symm⟩
        case neg =>
          exact (forth (alive_contracted.mpr ⟨alive, left⟩) arc).detour fun arc =>
            premises.within_of_forward (alive_contracted.mp arc.1).1 arc.2.2
      case refine_2 =>
        intro tail head weight alive arc
        by_cases left : head ∈ batch
        case pos =>
          obtain ⟨edge, member, target, backward, rfl⟩ := arc
          obtain ⟨old, there, rfl⟩ := (frozen (not_alive_contracted left)).mp member
          rw [backward_renameEntry] at backward
          exact premises.within_of_backward alive
            ⟨old, there, name.injective target, backward, weight_renameEntry.symm⟩
        case neg =>
          exact (back (alive_contracted.mpr ⟨alive, left⟩) arc).detour fun arc =>
            premises.within_of_forward (alive_contracted.mp arc.1).1 arc.2.2
  | renumber renames _ ih =>
      obtain ⟨forth, back⟩ := ih (renames.contractible contractible)
      exact ⟨fun alive arc => renames.within (forth (renames.alive.mpr alive) arc),
        fun alive arc => renames.within (back (renames.alive.mpr alive) arc)⟩

/-- A walk of the first graph leads up and down in the last one.  The induction is on the run,
and a round first does without the nodes of its batch. -/
theorem upDown (contractible : Contractible state) (run : Run Priority state name final)
    {source target weight : ℕ} (walk : Walk state.arcs source target weight)
    (below : weight < invalidEdgeWeight) :
    UpDown (forwardArcs final.graph) (backwardArcs final.graph) (name source) (name target)
      weight := by
  induction run generalizing source target weight with
  | done =>
      exact ⟨target, weight, 0, walk.mono fun arc => arc.2.2, Walk.nil target, Nat.le_refl _⟩
  | @round state middle final name ranking round later ih =>
      obtain ⟨batch, deletions, sorted, rfl, premises⟩ := round.premises contractible
      obtain ⟨frozen, _⟩ := later.frozen premises.contractible_after
      have stays : ∀ {id : ℕ} {edge : DynamicEdge ContractorEdgeData}, id ∈ batch →
          edge ∈ state.graph.adjacent id → renameEntry name edge ∈ final.graph.adjacent (name id) :=
        fun left member => (frozen (not_alive_contracted left)).mpr
          ⟨_, (premises.frozen (not_alive_contracted left)).mpr member, rfl⟩
      refine premises.contracts.upDown name ?_ ?_ (ih premises.contractible_after) walk below
      case refine_1 =>
        rintro tail head weight ⟨_, _, edge, member, rfl, forward, rfl⟩ left
        exact ⟨_, Nat.le_refl _, _, stays left member, rfl, forward_renameEntry.trans forward,
          weight_renameEntry⟩
      case refine_2 =>
        rintro tail head weight ⟨alive, _, edge, member, rfl, forward, rfl⟩ left
        obtain ⟨mirror, there, rfl, backward, le⟩ := contractible.backs alive member forward
        exact ⟨mirror.data.weight, le, _, stays left there, rfl,
          backward_renameEntry.trans backward, weight_renameEntry⟩
  | renumber renames _ ih =>
      exact ih (renames.contractible contractible) (renames.walk walk) below

/-- A walk up and down is no shorter than a walk of the first graph. -/
theorem within_of_upDown (contractible : Contractible state)
    (run : Run Priority state name final) {source target weight : ℕ}
    (alive : state.Alive source) (alive' : state.Alive target)
    (meets : UpDown (forwardArcs final.graph) (backwardArcs final.graph) (name source)
      (name target) weight) : Within state.arcs source target weight := by
  obtain ⟨forth, back⟩ := run.sound contractible
  have rising : ∀ {start finish weight : ℕ}, Walk (forwardArcs final.graph) start finish weight →
      ∀ {tail head : ℕ}, name tail = start → name head = finish → state.Alive tail →
        Within state.arcs tail head weight := by
    intro start finish weight walk
    induction walk with
    | nil id =>
        rintro tail head rfl same _
        rw [name.injective same]
        exact Within.refl _ _ 0
    | @cons start next finish first rest arc _ ih =>
        rintro tail head rfl rfl alive
        obtain ⟨middle, rfl⟩ := name.surjective next
        obtain ⟨shorter, le, walk⟩ := forth alive arc
        exact (walk.within.mono le).trans
          (ih rfl rfl ((contractible.alive_of_walk walk).mp alive))
  have falling : ∀ {start finish weight : ℕ}, Walk (backwardArcs final.graph) start finish weight →
      ∀ {tail head : ℕ}, name tail = start → name head = finish → state.Alive head →
        Within state.arcs tail head weight ∧ state.Alive tail := by
    intro start finish weight walk
    induction walk with
    | nil id =>
        rintro tail head rfl same alive
        obtain rfl := name.injective same
        exact ⟨Within.refl _ _ 0, alive⟩
    | @cons start next finish first rest arc _ ih =>
        rintro tail head rfl rfl alive
        obtain ⟨middle, rfl⟩ := name.surjective next
        obtain ⟨within, inside⟩ := ih rfl rfl alive
        obtain ⟨shorter, le, walk⟩ := back inside arc
        exact ⟨(walk.within.mono le).trans within, (contractible.alive_of_walk walk).mpr inside⟩
  obtain ⟨top, first, second, up, down, below⟩ := meets
  obtain ⟨top, rfl⟩ := name.surjective top
  exact ((rising up rfl rfl alive).trans (falling down rfl rfl alive').1).mono below

/-- A distance between two nodes is, in the last graph, the least weight of a walk up and a walk
down that meet. -/
theorem isDistance_iff (contractible : Contractible state)
    (run : Run Priority state name final) {source target weight : ℕ}
    (alive : state.Alive source) (alive' : state.Alive target)
    (below : weight < invalidEdgeWeight) :
    IsDistance state.arcs source target weight ↔
      UpDown (forwardArcs final.graph) (backwardArcs final.graph) (name source) (name target)
        weight ∧
      ∀ lighter < weight, ¬UpDown (forwardArcs final.graph) (backwardArcs final.graph)
        (name source) (name target) lighter := by
  have same : ∀ {lighter : ℕ}, lighter < invalidEdgeWeight →
      (Within state.arcs source target lighter ↔ UpDown (forwardArcs final.graph)
        (backwardArcs final.graph) (name source) (name target) lighter) := by
    intro lighter small
    refine ⟨?_, run.within_of_upDown contractible alive alive'⟩
    rintro ⟨shorter, le, walk⟩
    exact (run.upDown contractible walk (Nat.lt_of_le_of_lt le small)).mono le
  rw [Systems.isDistance_iff, same below]
  refine and_congr_right fun _ => forall_congr' fun lighter => forall_congr' fun less => ?_
  rw [same (Nat.lt_trans less below)]

end Run

end Proximity.Routing
