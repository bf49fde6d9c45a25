import Proximity.Routing.ChRoute

/-!
# Unpacking a leg

`unpackPath` replaces every shortcut of a packed path by its two halves until only original edges
are left.  In a hierarchy it ends, visits the nodes in the order of the way, and its edges weigh no
more than the packed path.
-/

namespace Proximity.Routing

open Proximity.Systems

/-- The smallest edge of a hop: forward at its first node, or else backward at its second. -/
def smallestHop (facade : QueryGraph) (edge : ℕ × ℕ) : Option ℕ :=
  match facade.findSmallestEdge QueryEdgeData.weight QueryEdgeData.forward edge.1 edge.2 with
  | some smaller => some smaller
  | none => facade.findSmallestEdge QueryEdgeData.weight QueryEdgeData.backward edge.2 edge.1

/-- The loop of `unpackPath` over its stack, for at most so many turns: the calls of the callback.
Without an edge for a hop an assertion fails. -/
def unpackLoop (facade : QueryGraph) : ℕ → List (ℕ × ℕ) → Option (List ((ℕ × ℕ) × ℕ))
  | _, [] => some []
  | 0, _ :: _ => none
  | turns + 1, edge :: stack =>
      match smallestHop facade edge with
      | none => none
      | some smaller =>
          match facade.edgeArray[smaller]? with
          | none => none
          | some entry =>
              if entry.data.shortcut then
                unpackLoop facade turns
                  ((edge.1, entry.data.turnId) :: (entry.data.turnId, edge.2) :: stack)
              else (unpackLoop facade turns stack).map ((edge, smaller) :: ·)

/-- The stack holds the consecutive nodes of the path, the first ones on top. -/
def unpackPath (facade : QueryGraph) (turns : ℕ) (packedPath : List ℕ) :
    Option (List ((ℕ × ℕ) × ℕ)) :=
  unpackLoop facade turns (packedPath.zip packedPath.tail)

/-- A query graph whose edges climb, and whose shortcuts split into two edges of a lower node. -/
structure QueryHierarchy (facade : QueryGraph) (level : ℕ → ℕ) : Prop where
  climbs : ∀ {id : ℕ} {entry : DynamicEdge QueryEdgeData}, entry ∈ facade.adjacent id →
    entry.target = id ∨ level id < level entry.target
  below : ∀ {id : ℕ} {entry : DynamicEdge QueryEdgeData}, entry ∈ facade.adjacent id →
    entry.data.shortcut = true →
    level entry.data.turnId < level id ∧ level entry.data.turnId < level entry.target
  forth : ∀ {id : ℕ} {entry : DynamicEdge QueryEdgeData}, entry ∈ facade.adjacent id →
    entry.data.shortcut = true → entry.data.forward = true → ∃ first second,
      searchArcs facade false entry.data.turnId id first ∧
      searchArcs facade true entry.data.turnId entry.target second ∧
      first + second = entry.data.weight
  back : ∀ {id : ℕ} {entry : DynamicEdge QueryEdgeData}, entry ∈ facade.adjacent id →
    entry.data.shortcut = true → entry.data.backward = true → ∃ first second,
      searchArcs facade false entry.data.turnId entry.target first ∧
      searchArcs facade true entry.data.turnId id second ∧
      first + second = entry.data.weight

/-- The entry stands for the hop, at either of its nodes. -/
def StandsFor (facade : QueryGraph) (tail head : ℕ) (entry : DynamicEdge QueryEdgeData) : Prop :=
  (entry ∈ facade.adjacent tail ∧ entry.target = head ∧ entry.data.forward = true) ∨
    (entry ∈ facade.adjacent head ∧ entry.target = tail ∧ entry.data.backward = true)

/-- The edges of the graph before its contraction. -/
def originals (facade : QueryGraph) : Arcs ℕ := fun tail head weight => tail ≠ head ∧
  ∃ entry, StandsFor facade tail head entry ∧ entry.data.shortcut = false ∧
    entry.data.weight = weight

/-- The calls go from one node to another one along original edges. -/
inductive Unpacked (facade : QueryGraph) :
    ℕ → List ((ℕ × ℕ) × ℕ) → ℕ → ℕ → Prop where
  | nil (node : ℕ) : Unpacked facade node [] node 0
  | cons {source middle target edge rest : ℕ} {calls : List ((ℕ × ℕ) × ℕ)}
      {entry : DynamicEdge QueryEdgeData} (ne : source ≠ middle)
      (stored : facade.edgeArray[edge]? = some entry) (original : entry.data.shortcut = false)
      (stands : StandsFor facade source middle entry)
      (later : Unpacked facade middle calls target rest) :
      Unpacked facade source (((source, middle), edge) :: calls) target (entry.data.weight + rest)

/-- The hops of a stack follow each other. -/
inductive Stacked (facade : QueryGraph) : ℕ → List (ℕ × ℕ) → ℕ → ℕ → Prop where
  | nil (node : ℕ) : Stacked facade node [] node 0
  | cons {source middle target first rest : ℕ} {stack : List (ℕ × ℕ)}
      (hop : hops facade source middle first) (later : Stacked facade middle stack target rest) :
      Stacked facade source ((source, middle) :: stack) target (first + rest)

section Stacks

variable {facade : QueryGraph} {level : ℕ → ℕ} {source target tail head weight total : ℕ}
  {stack : List (ℕ × ℕ)} {calls : List ((ℕ × ℕ) × ℕ)}

/-- The nodes that a path of calls visits. -/
theorem Unpacked.path (unpacked : Unpacked facade source calls target weight) :
    Path (originals facade) source (source :: calls.map fun call => call.1.2) target weight := by
  induction unpacked with
  | nil node => exact Path.nil node
  | cons ne _ original stands _ ih => exact Path.cons ⟨ne, _, stands, original, rfl⟩ ih

/-- What the callback asserts: a call starts at the node where the one before it has ended. -/
theorem Unpacked.follows (unpacked : Unpacked facade source calls target weight) :
    (calls.map fun call => call.1.1) ++ [target] = source :: calls.map fun call => call.1.2 := by
  induction unpacked with
  | nil node => rfl
  | cons _ _ _ _ _ ih => rw [List.map_cons, List.map_cons, List.cons_append, ih]

theorem stacked_of_path {nodes : List ℕ} (path : Path (hops facade) source nodes target weight) :
    Stacked facade source (nodes.zip nodes.tail) target weight := by
  induction path with
  | nil node => exact Stacked.nil node
  | cons hop path ih =>
      cases path with
      | nil => exact Stacked.cons hop (Stacked.nil _)
      | cons => exact Stacked.cons hop ih

theorem hops_positive (searchable : Searchable facade) (hop : hops facade tail head weight) :
    0 < weight := by
  rcases hop.2 with ⟨edge, member, _, _, rfl⟩ | ⟨edge, member, _, _, rfl⟩
  · exact searchable.positive member
  · exact searchable.positive member

theorem Stacked.length_le (searchable : Searchable facade)
    (stacked : Stacked facade source stack target total) : stack.length ≤ total := by
  induction stacked with
  | nil => exact Nat.le_refl 0
  | cons hop _ ih =>
      have := hops_positive searchable hop
      rw [List.length_cons]
      omega

variable (hierarchy : QueryHierarchy facade level)

include hierarchy

/-- In a hierarchy the edge that is found for a hop stands for it, and is no heavier. -/
theorem smallestHop_spec (hop : hops facade tail head weight)
    (valid : weight < invalidEdgeWeight) :
    ∃ smaller entry, smallestHop facade (tail, head) = some smaller ∧
      facade.edgeArray[smaller]? = some entry ∧ StandsFor facade tail head entry ∧
      entry.data.weight ≤ weight := by
  obtain ⟨ne, ⟨edge, member, rfl, opened, rfl⟩ | ⟨edge, member, rfl, opened, rfl⟩⟩ := hop
  case inl =>
    have forward : edge.data.forward = true := opened
    obtain ⟨smaller, found⟩ := StaticGraph.findSmallestEdge_isSome member rfl forward valid
    obtain ⟨entry, there, stored, same, forward', _, least⟩ :=
      StaticGraph.findSmallestEdge_eq_some found
    refine ⟨smaller, entry, ?_, stored, Or.inl ⟨there, same, forward'⟩,
      least edge member rfl forward⟩
    rw [smallestHop, found]
  case inr =>
    have none : facade.findSmallestEdge QueryEdgeData.weight QueryEdgeData.forward edge.target
        head = none := by
      rw [Option.eq_none_iff_forall_ne_some]
      intro smaller found
      obtain ⟨entry, there, _, same, _⟩ := StaticGraph.findSmallestEdge_eq_some found
      have up := (hierarchy.climbs member).resolve_left ne
      have down := (hierarchy.climbs there).resolve_left (same ▸ Ne.symm ne)
      rw [same] at down
      omega
    have enabled : edge.data.backward = true := opened
    obtain ⟨smaller, found⟩ := StaticGraph.findSmallestEdge_isSome member rfl enabled valid
    obtain ⟨entry, there, stored, same, backward, _, least⟩ :=
      StaticGraph.findSmallestEdge_eq_some found
    refine ⟨smaller, entry, ?_, stored, Or.inr ⟨there, same, backward⟩,
      least edge member rfl enabled⟩
    rw [smallestHop]
    dsimp only
    rw [none, found]

/-- A shortcut splits into two hops over its middle node. -/
theorem split_of_standsFor {entry : DynamicEdge QueryEdgeData}
    (stands : StandsFor facade tail head entry) (shortcut : entry.data.shortcut = true) :
    ∃ first second, hops facade tail entry.data.turnId first ∧
      hops facade entry.data.turnId head second ∧ first + second = entry.data.weight := by
  rcases stands with ⟨member, rfl, forward⟩ | ⟨member, rfl, backward⟩
  case inl =>
    obtain ⟨first, second, enters, leaves, sum⟩ := hierarchy.forth member shortcut forward
    obtain ⟨low, low'⟩ := hierarchy.below member shortcut
    refine ⟨first, second, ⟨?_, Or.inr enters⟩, ⟨?_, Or.inl leaves⟩, sum⟩
    · rintro same
      rw [← same] at low
      exact Nat.lt_irrefl _ low
    · rintro same
      rw [same] at low'
      exact Nat.lt_irrefl _ low'
  case inr =>
    obtain ⟨first, second, enters, leaves, sum⟩ := hierarchy.back member shortcut backward
    obtain ⟨low, low'⟩ := hierarchy.below member shortcut
    refine ⟨first, second, ⟨?_, Or.inr enters⟩, ⟨?_, Or.inl leaves⟩, sum⟩
    · rintro same
      rw [← same] at low'
      exact Nat.lt_irrefl _ low'
    · rintro same
      rw [same] at low
      exact Nat.lt_irrefl _ low

/-- The loop ends: a turn removes a hop, which has a weight, or splits it into two. -/
theorem unpackLoop_spec (searchable : Searchable facade) {turns : ℕ}
    (stacked : Stacked facade source stack target total) (valid : total < invalidEdgeWeight)
    (enough : 2 * total ≤ turns + stack.length) :
    ∃ calls, unpackLoop facade turns stack = some calls ∧
      ∃ weight ≤ total, Unpacked facade source calls target weight := by
  induction turns generalizing source stack total with
  | zero =>
      have le := stacked.length_le searchable
      cases stacked with
      | nil => exact ⟨[], rfl, 0, Nat.le_refl 0, Unpacked.nil _⟩
      | cons hop later =>
          have := hops_positive searchable hop
          omega
  | succ turns ih =>
      cases stacked with
      | nil => exact ⟨[], rfl, 0, Nat.le_refl 0, Unpacked.nil _⟩
      | @cons _ middle _ first rest stack hop later =>
          have positive := hops_positive searchable hop
          rw [List.length_cons] at enough
          obtain ⟨smaller, entry, found, stored, stands, le⟩ :=
            smallestHop_spec hierarchy hop (by omega)
          rw [unpackLoop, found]
          dsimp only
          rw [stored]
          dsimp only
          by_cases shortcut : entry.data.shortcut = true
          case pos =>
            rw [if_pos shortcut]
            obtain ⟨one, other, enters, leaves, sum⟩ :=
              split_of_standsFor hierarchy stands shortcut
            obtain ⟨calls, ran, weight, le', unpacked⟩ :=
              ih (Stacked.cons enters (Stacked.cons leaves later)) (by omega)
                (by rw [List.length_cons, List.length_cons]; omega)
            exact ⟨calls, ran, weight, by omega, unpacked⟩
          case neg =>
            rw [if_neg shortcut]
            obtain ⟨calls, ran, weight, le', unpacked⟩ := ih later (by omega) (by omega)
            rw [ran]
            exact ⟨_, rfl, _, by omega,
              Unpacked.cons hop.1 stored (Bool.eq_false_iff.mpr shortcut) stands unpacked⟩

end Stacks

end Proximity.Routing
