import Mathlib.Data.Nat.Basic
import Mathlib.Order.Basic

/-!
# Walks in a graph with weights

A graph is the relation of its arcs.  A node is within a weight of another when some walk
between them weighs no more.
-/

namespace Proximity.Systems

universe u

/-- The arcs from one node to another, each with its weight. -/
abbrev Arcs (Node : Type u) : Type u := Node → Node → ℕ → Prop

variable {Node : Type u}

inductive Walk (arcs : Arcs Node) : Node → Node → ℕ → Prop where
  | nil (node : Node) : Walk arcs node node 0
  | cons {source middle target : Node} {first rest : ℕ} (arc : arcs source middle first)
      (walk : Walk arcs middle target rest) : Walk arcs source target (first + rest)

/-- Some walk weighs no more. -/
def Within (arcs : Arcs Node) (source target : Node) (weight : ℕ) : Prop :=
  ∃ shorter ≤ weight, Walk arcs source target shorter

/-- The least weight of a walk. -/
structure IsDistance (arcs : Arcs Node) (source target : Node) (weight : ℕ) : Prop where
  walk : Walk arcs source target weight
  least : ∀ other, Walk arcs source target other → weight ≤ other

section Walks

variable {arcs others : Arcs Node} {source middle target : Node} {first second weight : ℕ}

theorem Walk.single (arc : arcs source target weight) : Walk arcs source target weight :=
  Walk.cons arc (Walk.nil target)

theorem Walk.append (walk : Walk arcs source middle first)
    (later : Walk arcs middle target second) : Walk arcs source target (first + second) := by
  induction walk with
  | nil => rwa [Nat.zero_add]
  | cons arc _ ih =>
      rw [Nat.add_assoc]
      exact Walk.cons arc (ih later)

theorem Walk.concat (walk : Walk arcs source middle first) (arc : arcs middle target second) :
    Walk arcs source target (first + second) :=
  walk.append (Walk.single arc)

/-- A walk ends with an arc, or is empty. -/
theorem Walk.last (walk : Walk arcs source target weight) :
    (source = target ∧ weight = 0) ∨ ∃ middle first second, Walk arcs source middle first ∧
      arcs middle target second ∧ first + second = weight := by
  induction walk with
  | nil node => exact Or.inl ⟨rfl, rfl⟩
  | @cons source middle target start rest arc walk ih =>
      refine Or.inr ?_
      rcases ih with ⟨rfl, rfl⟩ | ⟨before, first, second, earlier, last, rfl⟩
      · exact ⟨source, 0, start, Walk.nil source, arc, by rw [Nat.zero_add, Nat.add_zero]⟩
      · exact ⟨before, start + first, second, Walk.cons arc earlier, last, Nat.add_assoc _ _ _⟩

theorem Within.refl (arcs : Arcs Node) (node : Node) (weight : ℕ) : Within arcs node node weight :=
  ⟨0, Nat.zero_le weight, Walk.nil node⟩

theorem Walk.within (walk : Walk arcs source target weight) : Within arcs source target weight :=
  ⟨weight, Nat.le_refl weight, walk⟩

theorem Within.mono (within : Within arcs source target first) (le : first ≤ second) :
    Within arcs source target second := by
  obtain ⟨shorter, below, walk⟩ := within
  exact ⟨shorter, Nat.le_trans below le, walk⟩

theorem Within.trans (within : Within arcs source middle first)
    (later : Within arcs middle target second) : Within arcs source target (first + second) := by
  obtain ⟨shorter, le, walk⟩ := within
  obtain ⟨shorter', le', walk'⟩ := later
  exact ⟨shorter + shorter', Nat.add_le_add le le', walk.append walk'⟩

/-- Where every arc has a detour that weighs no more, every walk has one. -/
theorem Walk.detour (walk : Walk arcs source target weight)
    (detour : ∀ {tail head : Node} {weight : ℕ}, arcs tail head weight →
      Within others tail head weight) : Within others source target weight := by
  induction walk with
  | nil node => exact Within.refl others node 0
  | cons arc _ ih => exact (detour arc).trans ih

theorem Within.detour (within : Within arcs source target weight)
    (detour : ∀ {tail head : Node} {weight : ℕ}, arcs tail head weight →
      Within others tail head weight) : Within others source target weight := by
  obtain ⟨shorter, le, walk⟩ := within
  exact (walk.detour detour).mono le

theorem Walk.mono (walk : Walk arcs source target weight)
    (kept : ∀ {tail head : Node} {weight : ℕ}, arcs tail head weight → others tail head weight) :
    Walk others source target weight := by
  induction walk with
  | nil node => exact Walk.nil node
  | cons arc _ ih => exact Walk.cons (kept arc) ih

/-- A walk is mapped node by node. -/
theorem Walk.map {Other : Type u} {others : Arcs Other} {name : Node → Other}
    (walk : Walk arcs source target weight)
    (named : ∀ {tail head : Node} {weight : ℕ}, arcs tail head weight →
      others (name tail) (name head) weight) : Walk others (name source) (name target) weight := by
  induction walk with
  | nil node => exact Walk.nil (name node)
  | cons arc _ ih => exact Walk.cons (named arc) ih

/-- Labels that fall by no more than the weight along an arc bound every walk from below. -/
theorem Walk.label_le {label : Node → ℕ} (walk : Walk arcs source target weight)
    (falls : ∀ {tail head : Node} {weight : ℕ}, arcs tail head weight →
      label tail ≤ weight + label head) : label source ≤ weight + label target := by
  induction walk with
  | nil node => exact Nat.le_add_left _ _
  | cons arc _ ih =>
      have first := falls arc
      omega

theorem IsDistance.le_of_within (distance : IsDistance arcs source target weight)
    (within : Within arcs source target first) : weight ≤ first := by
  obtain ⟨shorter, le, walk⟩ := within
  exact Nat.le_trans (distance.least shorter walk) le

/-- A distance is the least weight that the target is within. -/
theorem isDistance_iff : IsDistance arcs source target weight ↔
    Within arcs source target weight ∧ ∀ lighter < weight, ¬Within arcs source target lighter := by
  constructor
  case mp =>
    intro distance
    refine ⟨distance.walk.within, fun lighter less within => ?_⟩
    exact absurd (distance.le_of_within within) (Nat.not_le_of_lt less)
  case mpr =>
    rintro ⟨⟨shorter, le, walk⟩, least⟩
    have same : shorter = weight := by
      by_contra ne
      exact least shorter (by omega) walk.within
    subst same
    refine ⟨walk, fun other longer => ?_⟩
    by_contra less
    exact least other (by omega) longer.within

end Walks

/-! ## Paths -/

/-- A walk with the list of the nodes that it visits. -/
inductive Path (arcs : Arcs Node) : Node → List Node → Node → ℕ → Prop where
  | nil (node : Node) : Path arcs node [node] node 0
  | cons {source middle target : Node} {nodes : List Node} {first rest : ℕ}
      (arc : arcs source middle first) (path : Path arcs middle nodes target rest) :
      Path arcs source (source :: nodes) target (first + rest)

section Paths

variable {arcs others : Arcs Node} {source middle target : Node} {nodes later : List Node}
  {first second weight : ℕ}

theorem Path.walk (path : Path arcs source nodes target weight) :
    Walk arcs source target weight := by
  induction path with
  | nil node => exact Walk.nil node
  | cons arc _ ih => exact Walk.cons arc ih

theorem Path.mono (path : Path arcs source nodes target weight)
    (kept : ∀ {tail head : Node} {weight : ℕ}, arcs tail head weight → others tail head weight) :
    Path others source nodes target weight := by
  induction path with
  | nil node => exact Path.nil node
  | cons arc _ ih => exact Path.cons (kept arc) ih

/-- Paths are joined at a node that both lists have. -/
theorem Path.append (path : Path arcs source nodes middle first)
    (beyond : Path arcs middle (middle :: later) target second) :
    Path arcs source (nodes ++ later) target (first + second) := by
  induction path with
  | nil => rwa [Nat.zero_add]
  | cons arc _ ih =>
      rw [Nat.add_assoc]
      exact Path.cons arc (ih beyond)

theorem Path.reverse (path : Path arcs source nodes target weight)
    (turned : ∀ {tail head : Node} {weight : ℕ}, arcs tail head weight → others head tail weight) :
    Path others target nodes.reverse source weight := by
  induction path with
  | nil node => exact Path.nil node
  | @cons source middle target nodes first rest arc path ih =>
      rw [List.reverse_cons, Nat.add_comm]
      exact ih.append (Path.cons (turned arc) (Path.nil source))

end Paths

/-! ## Leaving nodes out -/

/-- The walks of `arcs` may pass the nodes of `batch`, those of `contracted` are to do without
them. -/
structure Contracts (arcs contracted : Arcs Node) (batch : Node → Prop) (limit : ℕ) : Prop where
  positive : ∀ {source target : Node} {weight : ℕ}, arcs source target weight → 0 < weight
  /-- No node of the batch is next to another one. -/
  apart : ∀ {source target : Node} {weight : ℕ}, arcs source target weight → batch source →
    ¬batch target
  /-- A node has at most one successor in the batch. -/
  lonely : ∀ {source first second : Node} {weight weight' : ℕ}, arcs source first weight →
    arcs source second weight' → batch first → batch second → first = second
  kept : ∀ {source target : Node} {weight : ℕ}, arcs source target weight → ¬batch source →
    ¬batch target → Within contracted source target weight
  /-- What passes a node of the batch is bridged, or there is a witness around that node. -/
  bridged : ∀ {source node target : Node} {first second : ℕ}, arcs source node first →
    arcs node target second → batch node → source ≠ target → first + second < limit →
    Within contracted source target (first + second) ∨
      Within (fun tail head weight => arcs tail head weight ∧ head ≠ node) source target
        (first + second)

namespace Contracts

variable {arcs contracted : Arcs Node} {batch : Node → Prop} {limit : ℕ} {source target : Node}
  {weight : ℕ}

/-- The walks between nodes that are left weigh no more once the batch is left out.  The
induction is on the weight: a witness is no longer than what it replaces, but as no other node
of the batch is next to its source, its first arc is kept and the rest weighs less. -/
theorem within (contracts : Contracts arcs contracted batch limit)
    (walk : Walk arcs source target weight) (below : weight < limit) (source_left : ¬batch source)
    (target_left : ¬batch target) : Within contracted source target weight := by
  induction weight using Nat.strong_induction_on generalizing source target with
  | _ weight ih =>
      cases walk with
      | nil => exact Within.refl contracted source 0
      | @cons _ node _ first rest arc walk =>
          have positive := contracts.positive arc
          by_cases left : batch node
          case neg =>
            exact (contracts.kept arc source_left left).trans
              (ih rest (by omega) walk (by omega) left target_left)
          case pos =>
            cases walk with
            | nil => exact absurd left target_left
            | @cons _ next _ second rest arc' walk =>
                have next_left := contracts.apart arc' left
                have positive' := contracts.positive arc'
                by_cases round : source = next
                case pos =>
                  subst round
                  exact (ih rest (by omega) walk (by omega) source_left target_left).mono (by omega)
                case neg =>
                  have later := ih rest (by omega) walk (by omega) next_left target_left
                  rw [← Nat.add_assoc]
                  refine Within.trans ?_ later
                  rcases contracts.bridged arc arc' left round (by omega) with bridge | witness
                  · exact bridge
                  · obtain ⟨shorter, le, around⟩ := witness
                    cases around with
                    | nil => exact absurd rfl round
                    | @cons _ other _ start remainder arc'' around =>
                        have other_left : ¬batch other := fun also =>
                          arc''.2 (contracts.lonely arc''.1 arc also left)
                        have positive'' := contracts.positive arc''.1
                        refine Within.mono ?_ le
                        exact (contracts.kept arc''.1 source_left other_left).trans
                          (ih remainder (by omega) (around.mono fun arc => arc.1) (by omega)
                            other_left next_left)

end Contracts

/-! ## Up and down -/

universe v

variable {Named : Type v}

/-- A walk up from the source meets one down to the target, and both weigh no more. -/
def UpDown (up down : Arcs Named) (source target : Named) (weight : ℕ) : Prop :=
  ∃ middle first second, Walk up source middle first ∧ Walk down middle target second ∧
    first + second ≤ weight

section UpDowns

variable {up down : Arcs Named} {source middle target : Named} {first second weight : ℕ}

theorem UpDown.refl (up down : Arcs Named) (node : Named) (weight : ℕ) :
    UpDown up down node node weight :=
  ⟨node, 0, 0, Walk.nil node, Walk.nil node, Nat.zero_le weight⟩

theorem UpDown.mono (meets : UpDown up down source target first) (le : first ≤ second) :
    UpDown up down source target second := by
  obtain ⟨middle, one, other, rising, falling, below⟩ := meets
  exact ⟨middle, one, other, rising, falling, Nat.le_trans below le⟩

theorem UpDown.rise (arc : up source middle first) (meets : UpDown up down middle target second) :
    UpDown up down source target (first + second) := by
  obtain ⟨top, one, other, rising, falling, below⟩ := meets
  exact ⟨top, first + one, other, Walk.cons arc rising, falling, by omega⟩

theorem UpDown.fall (meets : UpDown up down source middle first)
    (arc : down middle target second) : UpDown up down source target (first + second) := by
  obtain ⟨top, one, other, rising, falling, below⟩ := meets
  exact ⟨top, one, other + second, rising, falling.concat arc, by omega⟩

end UpDowns

/-- When the arcs that leave the batch lead up and those that enter it lead down, what is left may
be searched instead. -/
theorem Contracts.upDown {arcs contracted : Arcs Node} {batch : Node → Prop} {limit : ℕ}
    (contracts : Contracts arcs contracted batch limit) {up down : Arcs Named} (name : Node → Named)
    (leaves : ∀ {source target : Node} {weight : ℕ}, arcs source target weight → batch source →
      ∃ lighter ≤ weight, up (name source) (name target) lighter)
    (enters : ∀ {source target : Node} {weight : ℕ}, arcs source target weight → batch target →
      ∃ lighter ≤ weight, down (name source) (name target) lighter)
    (later : ∀ {source target : Node} {weight : ℕ}, Walk contracted source target weight →
      weight < limit → UpDown up down (name source) (name target) weight)
    {source target : Node} {weight : ℕ} (walk : Walk arcs source target weight)
    (below : weight < limit) : UpDown up down (name source) (name target) weight := by
  have middle : ∀ {source target : Node} {weight : ℕ}, Walk arcs source target weight →
      weight < limit → ¬batch source → ¬batch target →
      UpDown up down (name source) (name target) weight := by
    intro source target weight walk below source_left target_left
    obtain ⟨shorter, le, other⟩ := contracts.within walk below source_left target_left
    exact (later other (Nat.lt_of_le_of_lt le below)).mono le
  have falling : ∀ {source target : Node} {weight : ℕ}, Walk arcs source target weight →
      weight < limit → ¬batch source → UpDown up down (name source) (name target) weight := by
    intro source target weight walk below source_left
    by_cases left : batch target
    case neg => exact middle walk below source_left left
    case pos =>
      rcases walk.last with ⟨rfl, _⟩ | ⟨before, first, second, earlier, arc, rfl⟩
      · exact absurd left source_left
      · have before_left : ¬batch before := fun also => contracts.apart arc also left
        obtain ⟨lighter, le, fall⟩ := enters arc left
        exact ((middle earlier (by omega) source_left before_left).fall fall).mono (by omega)
  by_cases left : batch source
  case neg => exact falling walk below left
  case pos =>
    cases walk with
    | nil => exact UpDown.refl up down (name source) 0
    | cons arc rest =>
        obtain ⟨lighter, le, rise⟩ := leaves arc left
        exact ((falling rest (by omega) (contracts.apart arc left)).rise rise).mono (by omega)

end Proximity.Systems
