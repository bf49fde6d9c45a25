import Mathlib.Algebra.BigOperators.Group.List.Basic
import Mathlib.Algebra.GroupWithZero.Nat
import Mathlib.Tactic.Abel

/-!
# Weights of a population of agents

What the agents of a system hold between them, when one agent at a time changes
its state and agents are only ever added.
-/

namespace Proximity.Systems

universe u v

variable {Agent : Type u}

/-- The total weight of the agents. -/
def tally (weight : Agent → Nat) (agents : List Agent) : Nat := (agents.map weight).sum

theorem tally_concat (weight : Agent → Nat) (agents : List Agent) (added : Agent) :
    tally weight (agents ++ [added]) = tally weight agents + weight added := by
  simp [tally]

theorem weight_le_tally (weight : Agent → Nat) {agents : List Agent} {agent : Agent}
    (member : agent ∈ agents) : weight agent ≤ tally weight agents := by
  induction member with
  | head rest =>
      simp only [tally, List.map_cons, List.sum_cons]
      omega
  | tail head member ih =>
      simp only [tally, List.map_cons, List.sum_cons] at ih ⊢
      omega

/-- Replacing one agent changes a sum over all of them by that agent's weight alone. -/
theorem sum_map_set {Weight : Type v} [AddCommMonoid Weight] (weight : Agent → Weight)
    {agents : List Agent} {index : Nat} {before : Agent} (found : agents[index]? = some before)
    (after : Agent) :
    ((agents.set index after).map weight).sum + weight before =
      (agents.map weight).sum + weight after := by
  induction agents generalizing index with
  | nil => cases found
  | cons head rest ih =>
      cases index with
      | zero =>
          cases found
          simp only [List.set_cons_zero, List.map_cons, List.sum_cons]
          abel
      | succ index =>
          have remaining := ih (by simpa using found)
          simp only [List.set_cons_succ, List.map_cons, List.sum_cons]
          rw [add_assoc, remaining, add_assoc]

theorem tally_set (weight : Agent → Nat) {agents : List Agent} {index : Nat} {before : Agent}
    (found : agents[index]? = some before) (after : Agent) :
    tally weight (agents.set index after) + weight before =
      tally weight agents + weight after :=
  sum_map_set weight found after

end Proximity.Systems
