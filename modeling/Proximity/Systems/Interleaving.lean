import Proximity.Systems.Run

/-!
# Interleaved agents

Agents take turns on a shared state, in any order.  An action picks an agent and gives
it what it learns from outside in that turn.
-/

namespace Proximity.Systems

universe u v w x y

structure Crowd (Shared : Type u) (Agent : Type v) where
  shared : Shared
  agents : List Agent

variable {Shared : Type u} {Agent : Type v} {Label : Type w} {Origin : Type x}

def turn? (advance : Label → Shared → Agent → Shared × Agent) (crowd : Crowd Shared Agent)
    (action : Nat × Label) : Option (Crowd Shared Agent) :=
  crowd.agents[action.1]?.map fun agent =>
    ⟨(advance action.2 crowd.shared agent).1,
      crowd.agents.set action.1 (advance action.2 crowd.shared agent).2⟩

/-- The agent whose turn it is, is one. -/
theorem forall_turn_iff {agents : List Agent} {index : Nat} {agent : Agent}
    (found : agents[index]? = some agent) {Holds : Agent → Prop} :
    (∀ other, agents[index]? = some other → Holds other) ↔ Holds agent := by
  constructor
  · exact fun each => each agent found
  · intro holds other stands
    cases found.symm.trans stands
    exact holds

/-- The shared state is good, and every agent fits what it started from. -/
structure AllFit (Good : Shared → Prop) (Fits : Shared → Origin → Agent → Prop)
    (origins : List Origin) (crowd : Crowd Shared Agent) : Prop where
  good : Good crowd.shared
  length : crowd.agents.length = origins.length
  fits : ∀ (index : Nat) origin agent, origins[index]? = some origin →
    crowd.agents[index]? = some agent → Fits crowd.shared origin agent

section Rules

variable {advance : Label → Shared → Agent → Shared × Agent} {Good : Shared → Prop}
  {Fits : Shared → Origin → Agent → Prop}

/-- Agents that fit go on fitting when no turn disturbs its own agent or the others. -/
theorem turn_allFit {origins : List Origin}
    (own : ∀ label shared origin agent, origin ∈ origins → Good shared →
      Fits shared origin agent →
      Good (advance label shared agent).1 ∧
        Fits (advance label shared agent).1 origin (advance label shared agent).2)
    (others : ∀ label shared origin agent other otherAgent, origin ∈ origins → Good shared →
      Fits shared origin agent → Fits shared other otherAgent →
      Fits (advance label shared agent).1 other otherAgent)
    {source target : Crowd Shared Agent} {action : Nat × Label}
    (all : AllFit Good Fits origins source) (stepped : turn? advance source action = some target) :
    AllFit Good Fits origins target := by
  obtain ⟨index, label⟩ := action
  obtain ⟨agent, found, rfl⟩ := Option.map_eq_some_iff.mp stepped
  obtain ⟨good, length, fits⟩ := all
  have bound : index < origins.length := length ▸ (List.getElem?_eq_some_iff.mp found).1
  have started : origins[index]? = some origins[index] := List.getElem?_eq_getElem bound
  have member : origins[index] ∈ origins := List.getElem_mem bound
  have here := fits index _ agent started found
  refine ⟨(own label _ _ _ member good here).1, ?_, ?_⟩
  · rw [List.length_set, length]
  · intro other origin otherAgent begun stands
    rw [List.getElem?_set] at stands
    split at stands
    case isTrue same =>
        subst same
        cases started.symm.trans begun
        split at stands
        case isTrue =>
            cases stands
            exact (own label _ _ _ member good here).2
        case isFalse => cases stands
    case isFalse =>
        exact others label _ _ _ _ _ member good here (fits other origin otherAgent begun stands)

/-- An agent other than the one whose turn it is stands where it stood. -/
theorem mem_set_of_ne {agents : List Agent} {index : Nat} {agent next other : Agent}
    (found : agents[index]? = some agent) (member : other ∈ agents) (apart : other ≠ agent) :
    other ∈ agents.set index next := by
  obtain ⟨place, stands⟩ := List.mem_iff_getElem?.mp member
  refine List.mem_iff_getElem?.mpr ⟨place, ?_⟩
  rw [List.getElem?_set_ne, stands]
  rintro rfl
  exact apart (Option.some.inj (stands.symm.trans found))

/-- No two agents have the same key. -/
def Exclusive {Key : Type y} (key : Agent → Option Key) (agents : List Agent) : Prop :=
  ∀ (left right : Nat) (first second : Agent) (shared : Key), agents[left]? = some first →
    agents[right]? = some second → key first = some shared → key second = some shared →
    left = right

/-- A turn may keep its agent's key, drop it, or take one that no agent has. -/
theorem Exclusive.set {Key : Type y} {key : Agent → Option Key} {agents : List Agent}
    {index : Nat} {agent next : Agent} (exclusive : Exclusive key agents)
    (found : agents[index]? = some agent)
    (taken : ∀ shared, key next = some shared →
      key agent = some shared ∨ ∀ other ∈ agents, key other ≠ some shared) :
    Exclusive key (agents.set index next) := by
  have stands_apart : ∀ place other shared, agents[place]? = some other →
      key other = some shared → key next = some shared → place = index := by
    intro place other shared stands held holds
    rcases taken shared holds with kept | free
    · exact exclusive place index other agent shared stands found held kept
    · exact absurd held (free other (List.mem_of_getElem? stands))
  intro left right first second shared at_left at_right first_has second_has
  have bound : index < agents.length := (List.getElem?_eq_some_iff.mp found).1
  rw [List.getElem?_set, if_pos bound] at at_left at_right
  split at at_left <;> split at at_right
  case isTrue.isTrue here there => exact here.symm.trans there
  case isTrue.isFalse here there =>
      cases at_left
      exact here.symm.trans (stands_apart right second shared at_right second_has first_has).symm
  case isFalse.isTrue here there =>
      cases at_right
      exact (stands_apart left first shared at_left first_has second_has).trans there
  case isFalse.isFalse =>
      exact exclusive left right first second shared at_left at_right first_has second_has

/-- When its holder drops a key, no agent has it. -/
theorem Exclusive.dropped {Key : Type y} {key : Agent → Option Key} {agents : List Agent}
    {index : Nat} {agent next : Agent} {shared : Key} (exclusive : Exclusive key agents)
    (found : agents[index]? = some agent) (held : key agent = some shared)
    (drops : key next ≠ some shared) :
    ∀ other ∈ agents.set index next, key other ≠ some shared := by
  intro other member holds
  obtain ⟨place, stands⟩ := List.mem_iff_getElem?.mp member
  rw [List.getElem?_set] at stands
  split at stands
  case isTrue =>
      split at stands
      case isTrue =>
          cases stands
          exact drops holds
      case isFalse => cases stands
  case isFalse elsewhere =>
      exact elsewhere (exclusive index place agent other shared found stands held holds)

/-- A round in which every agent moves once and none changes the shared state. -/
theorem run_round {after : Agent → Agent} {label : Label} {shared : Shared} {todo : List Agent}
    (still : ∀ agent ∈ todo, advance label shared agent = (shared, after agent))
    (past : List Agent) :
    run? (turn? advance) ⟨shared, past ++ todo⟩
        ((List.range' past.length todo.length).map fun index => (index, label)) =
      some ⟨shared, past ++ todo.map after⟩ := by
  induction todo generalizing past with
  | nil => rfl
  | cons agent rest ih =>
      have moved : turn? advance ⟨shared, past ++ agent :: rest⟩ (past.length, label) =
          some ⟨shared, (past ++ [after agent]) ++ rest⟩ := by
        simp [turn?, still agent List.mem_cons_self]
      have later := ih (fun other member => still other (List.mem_cons_of_mem agent member))
        (past ++ [after agent])
      rw [List.length_append, List.length_singleton] at later
      rw [List.length_cons, List.range'_succ, List.map_cons, run?, moved, Option.bind_some, later]
      simp

/-- A round from the first agent to the last. -/
theorem run_full_round {after : Agent → Agent} {label : Label} {shared : Shared}
    {agents : List Agent}
    (still : ∀ agent ∈ agents, advance label shared agent = (shared, after agent)) :
    run? (turn? advance) ⟨shared, agents⟩
        ((List.range' 0 agents.length).map fun index => (index, label)) =
      some ⟨shared, agents.map after⟩ :=
  run_round still []

end Rules

end Proximity.Systems
