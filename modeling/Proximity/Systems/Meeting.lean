import Mathlib.Data.Int.LeastGreatest
import Proximity.Systems.Walk

/-!
# Walks that meet

A search from two sides gives keys to the nodes that walks from the ends of either side reach.  A
way between the sides is a node with a key on both, and weighs their sum.
-/

namespace Proximity.Systems

universe u

/-- Away from the ends of each side: the arcs, and the ends with their keys. -/
structure Sides (Node : Type u) where
  arcs : Bool → Arcs Node
  starts : Bool → Node → ℤ → Prop

variable {Node : Type u}

section Reversal

variable {arcs others : Arcs Node} {source target : Node} {weight : ℕ}

theorem Walk.reverse (walk : Walk arcs source target weight)
    (turned : ∀ {tail head : Node} {weight : ℕ}, arcs tail head weight → others head tail weight) :
    Walk others target source weight := by
  induction walk with
  | nil node => exact Walk.nil node
  | @cons _ _ _ first rest arc _ ih =>
      rw [Nat.add_comm]
      exact ih.concat (turned arc)

end Reversal

namespace Sides

variable (sides : Sides Node)

def Reaches (side : Bool) (node : Node) (key : ℤ) : Prop :=
  ∃ start first weight, sides.starts side start first ∧
    Walk (sides.arcs side) start node weight ∧ first + (weight : ℤ) = key

def Meets (total : ℤ) : Prop :=
  ∃ node first second, sides.Reaches true node first ∧ sides.Reaches false node second ∧
    first + second = total

/-- The least weight of a way. -/
structure IsLeast (total : ℤ) : Prop where
  meets : sides.Meets total
  least : ∀ other, sides.Meets other → total ≤ other

/-- The key of a node on a way that weighs `total`. -/
def Tight (side : Bool) (total : ℤ) (node : Node) (key : ℤ) : Prop :=
  sides.Reaches side node key ∧ ∃ middle weight other, Walk (sides.arcs side) node middle weight ∧
    sides.Reaches (!side) middle other ∧ key + (weight : ℤ) + other = total

/-- The arcs of both sides, as one side sees them. -/
def whole (side : Bool) : Arcs Node := fun tail head weight =>
  sides.arcs side tail head weight ∨ sides.arcs (!side) head tail weight

/-- What walks along all arcs weigh, ways that change the side once do too. -/
def Complete (limit : ℕ) : Prop :=
  ∀ source target weight, Walk (sides.whole true) source target weight → weight < limit →
    ∃ middle first second, Walk (sides.arcs true) source middle first ∧
      Walk (sides.arcs false) target middle second ∧ first + second ≤ weight

section Keys

variable {sides} {side : Bool} {node middle : Node} {key other total : ℤ} {weight limit : ℕ}

theorem Reaches.step (reaches : sides.Reaches side node key)
    (arc : sides.arcs side node middle weight) : sides.Reaches side middle (key + weight) := by
  obtain ⟨start, first, before, starts, walk, rfl⟩ := reaches
  exact ⟨start, first, before + weight, starts, walk.concat arc, by omega⟩

theorem Reaches.walk (reaches : sides.Reaches side node key)
    (later : Walk (sides.arcs side) node middle weight) :
    sides.Reaches side middle (key + weight) := by
  obtain ⟨start, first, before, starts, walk, rfl⟩ := reaches
  exact ⟨start, first, before + weight, starts, walk.append later, by omega⟩

theorem Reaches.le {offset : ℤ} (bounded : ∀ {start : Node} {first : ℤ},
    sides.starts side start first → offset ≤ first) (reaches : sides.Reaches side node key) :
    offset ≤ key := by
  obtain ⟨start, first, weight, starts, _, rfl⟩ := reaches
  have := bounded starts
  omega

theorem Reaches.meets (reaches : sides.Reaches side node key)
    (also : sides.Reaches (!side) node other) : sides.Meets (key + other) := by
  cases side with
  | true => exact ⟨node, key, other, reaches, also, rfl⟩
  | false => exact ⟨node, other, key, also, reaches, Int.add_comm _ _⟩

/-- On a way of the least weight no key is greater than it has to be. -/
theorem Tight.least (least : sides.IsLeast total) (tight : sides.Tight side total node key)
    (reaches : sides.Reaches side node other) : key ≤ other := by
  obtain ⟨_, middle, weight, beyond, walk, also, rfl⟩ := tight
  have := least.least _ ((reaches.walk walk).meets also)
  omega

theorem Tight.of_meets (reaches : sides.Reaches side node key)
    (also : sides.Reaches (!side) node other) (sum : key + other = total) :
    sides.Tight side total node key :=
  ⟨reaches, node, 0, other, Walk.nil node, also, by omega⟩

/-- A key on a way, together with the least key of the other side, is below the way's weight. -/
theorem Tight.le {offset : ℤ} (bounded : ∀ {start : Node} {first : ℤ},
    sides.starts (!side) start first → offset ≤ first) (tight : sides.Tight side total node key) :
    key + offset ≤ total := by
  obtain ⟨_, middle, weight, beyond, _, also, rfl⟩ := tight
  have := also.le bounded
  omega

/-- Completeness as the other side sees it. -/
theorem Complete.of_side (complete : sides.Complete limit) (side : Bool) {source target : Node}
    (walk : Walk (sides.whole side) source target weight) (below : weight < limit) :
    ∃ middle first second, Walk (sides.arcs side) source middle first ∧
      Walk (sides.arcs (!side)) target middle second ∧ first + second ≤ weight := by
  cases side with
  | true => exact complete source target weight walk below
  | false =>
      have turned : Walk (sides.whole true) target source weight := walk.reverse fun arc => arc.symm
      obtain ⟨middle, first, second, rising, falling, le⟩ :=
        complete target source weight turned below
      exact ⟨middle, second, first, falling, rising, by omega⟩

/-- A node on a way of the least weight is not reached lighter through an arc of the other side.
Otherwise that arc and the rest of the way would be a lighter walk. -/
theorem Tight.not_stalled (complete : sides.Complete limit) (least : sides.IsLeast total)
    (small : ∀ {start finish : Node} {first second : ℤ}, sides.starts side start first →
      sides.starts (!side) finish second → total - first - second ≤ limit)
    (tight : sides.Tight side total node key) (arc : sides.arcs (!side) node middle weight)
    (reaches : sides.Reaches side middle other) : key ≤ other + weight := by
  by_contra lighter
  rw [not_le] at lighter
  obtain ⟨_, top, ahead, beyond, rising, ⟨finish, last, back, ends, falling, rfl⟩, sum⟩ := tight
  obtain ⟨start, first, before, starts, walk, rfl⟩ := reaches
  have fits := small starts ends
  have along : Walk (sides.whole side) start finish (before + weight + ahead + back) := by
    refine Walk.append (Walk.append (Walk.concat (walk.mono Or.inl) (Or.inr arc))
      (rising.mono Or.inl)) ?_
    exact falling.reverse Or.inr
  obtain ⟨meeting, up, down, rises, falls, le⟩ := complete.of_side side along (by omega)
  have rising' : sides.Reaches side meeting (first + up) := ⟨start, first, up, starts, rises, rfl⟩
  have meets := least.least _ (rising'.meets ⟨finish, last, down, ends, falls, rfl⟩)
  omega

end Keys

end Sides

end Proximity.Systems
