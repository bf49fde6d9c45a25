import Mathlib.Data.List.GetD
import Mathlib.Logic.Equiv.Defs
import Proximity.Routing.Contractible
import Proximity.Routing.Renumber

/-!
# Renumbering during the contraction

`RenumberData` gives the remaining nodes the low ids.  Whatever the table, a renumbered state is
the old one under other names.
-/

namespace Proximity.Routing

open Proximity.Systems

/-- The id of a shortcut is a node. -/
def renumberShortcut (oldToNew : List ℕ) (entry : DynamicEdge ContractorEdgeData) :
    DynamicEdge ContractorEdgeData :=
  if entry.data.shortcut then
    { entry with data := { entry.data with id := oldToNew.getD entry.data.id 0 } }
  else entry

def renumberGraph (graph : ContractorGraph) (oldToNew : List ℕ) : Option ContractorGraph :=
  (graph.renumber oldToNew).map fun renumbered => renumbered.changeEdges (renumberShortcut oldToNew)

/-- What the loops of `RenumberData` write. -/
structure NodeNumbers where
  currentToNewNodeId : List ℕ
  newToOldNodeId : List ℕ
  newNodeId : ℕ

def numberNode (toOrig : List ℕ) (numbers : NodeNumbers) (current : ℕ) : NodeNumbers where
  currentToNewNodeId := numbers.currentToNewNodeId.set current numbers.newNodeId
  newToOldNodeId := numbers.newToOldNodeId.set numbers.newNodeId (toOrig.getD current 0)
  newNodeId := numbers.newNodeId + 1

/-- Nodes that are contracted have no number yet. -/
def numberContracted (toOrig : List ℕ) (numbers : NodeNumbers) (current : ℕ) : NodeNumbers :=
  if numbers.currentToNewNodeId.getD current 0 == specialNodeId then
    numberNode toOrig numbers current
  else numbers

def numberNodes (state : ContractionState) (newToOldNodeId : List ℕ) : NodeNumbers :=
  (List.range state.graph.getNumberOfNodes).foldl (numberContracted newToOldNodeId)
    (state.remainingNodes.foldl (numberNode newToOldNodeId)
      ⟨List.replicate state.graph.getNumberOfNodes specialNodeId, newToOldNodeId, 0⟩)

/-- `RenumberData`, with the new table of old ids. -/
def renumberData (state : ContractionState) (newToOldNodeId : List ℕ) :
    Option (ContractionState × List ℕ) :=
  let numbers := numberNodes state newToOldNodeId
  (renumberGraph state.graph numbers.currentToNewNodeId).map fun graph =>
    (⟨graph, inplacePermutation state.isCore numbers.currentToNewNodeId,
      List.range state.remainingNodes.length⟩, numbers.newToOldNodeId)

/-! ## The tables -/

section Tables

variable {toOrig current table slots : List ℕ} {index : ℕ}

theorem foldl_numberNode (room : index + slots.length ≤ table.length) :
    slots.foldl (numberNode toOrig) ⟨current, table, index⟩ =
      ⟨numberSlots index slots current, table.take index ++ (slots.map fun slot =>
        toOrig.getD slot 0) ++ table.drop (index + slots.length), index + slots.length⟩ := by
  induction slots generalizing current table index with
  | nil =>
      rw [List.foldl_nil, numberSlots, List.map_nil, List.append_nil, List.length_nil, Nat.add_zero,
        List.take_append_drop]
  | cons first rest ih =>
      rw [List.length_cons] at room
      have inside : index < table.length := by omega
      have turned : numberNode toOrig ⟨current, table, index⟩ first =
          ⟨current.set first index, table.set index (toOrig.getD first 0), index + 1⟩ := rfl
      rw [List.foldl_cons, turned, ih (by rw [List.length_set]; omega), List.take_add_one,
        List.getElem?_set_self inside, Option.toList_some, List.take_set_of_le (Nat.le_refl _),
        List.drop_set_of_lt (by omega), numberSlots, List.map_cons, List.length_cons,
        Nat.add_assoc, Nat.add_comm 1, List.append_assoc, List.append_assoc, List.append_assoc,
        List.singleton_append, List.cons_append]

theorem foldl_numberContracted (nodup : slots.Nodup) (numbers : NodeNumbers) :
    slots.foldl (numberContracted toOrig) numbers = (slots.filter fun slot =>
      numbers.currentToNewNodeId.getD slot 0 == specialNodeId).foldl (numberNode toOrig)
        numbers := by
  induction slots generalizing numbers with
  | nil => rfl
  | cons first rest ih =>
      obtain ⟨fresh, later⟩ := List.nodup_cons.mp nodup
      rw [List.foldl_cons, numberContracted, List.filter_cons]
      split
      case isFalse => exact ih later numbers
      case isTrue unnumbered =>
        have same : (rest.filter fun slot => (numberNode toOrig numbers
            first).currentToNewNodeId.getD slot 0 == specialNodeId) =
            rest.filter fun slot => numbers.currentToNewNodeId.getD slot 0 == specialNodeId := by
          refine List.filter_congr fun slot member => ?_
          have ne : first ≠ slot := by
            rintro rfl
            exact fresh member
          rw [numberNode, List.getD_eq_getElem?_getD, List.getElem?_set_ne ne,
            List.getD_eq_getElem?_getD]
        rw [ih later, List.foldl_cons, same]

/-- Both tables follow one order of the nodes, in which the remaining ones stand first. -/
theorem numberNodes_spec {state : ContractionState} (contractible : Contractible state)
    (length : toOrig.length = state.graph.getNumberOfNodes) :
    ∃ rest, (state.remainingNodes ++ rest).Perm (List.range state.graph.getNumberOfNodes) ∧
      (numberNodes state toOrig).currentToNewNodeId =
        numberSlots 0 (state.remainingNodes ++ rest)
          (List.replicate state.graph.getNumberOfNodes specialNodeId) ∧
      (numberNodes state toOrig).newToOldNodeId =
        (state.remainingNodes ++ rest).map fun slot => toOrig.getD slot 0 := by
  have bounded : ∀ slot ∈ state.remainingNodes, slot < state.graph.getNumberOfNodes := by
    intro slot member
    rw [← contractible.core]
    exact (List.getElem?_eq_some_iff.mp (contractible.remaining slot member)).1
  have perm := unnumbered_perm contractible.nodup bounded contractible.closed.small
  have size := perm.length_eq.trans (List.length_range.trans length.symm)
  have few : 0 + state.remainingNodes.length ≤ toOrig.length := by
    rw [← size, List.length_append]
    omega
  have numbered : (state.remainingNodes.foldl (numberNode toOrig)
      ⟨List.replicate state.graph.getNumberOfNodes specialNodeId, toOrig,
        0⟩).currentToNewNodeId = numberSlots 0 state.remainingNodes
          (List.replicate state.graph.getNumberOfNodes specialNodeId) := by
    rw [foldl_numberNode few]
  refine ⟨_, perm, ?_⟩
  rw [numberNodes, foldl_numberContracted List.nodup_range, numbered, ← List.foldl_append,
    foldl_numberNode (by rw [size, Nat.zero_add]), Nat.zero_add, size, List.take_zero,
    List.nil_append, List.drop_length, List.append_nil]
  exact ⟨rfl, rfl⟩

end Tables

/-! ## Renaming -/

/-- The nodes of a table have new names, and other numbers stay. -/
def newNames (oldToNew : List ℕ) (size : ℕ) (perm : oldToNew.Perm (List.range size)) :
    Equiv.Perm ℕ where
  toFun old := oldToNew.getD old old
  invFun new := if new < size then oldToNew.idxOf new else new
  left_inv old := by
    have length := perm.length_eq.trans List.length_range
    by_cases inside : old < oldToNew.length
    case pos =>
      have small := List.mem_range.mp (perm.mem_iff.mp (List.getElem_mem inside))
      dsimp only
      rw [List.getD_eq_getElem _ _ inside, if_pos small,
        List.Nodup.idxOf_getElem (perm.nodup_iff.mpr List.nodup_range)]
    case neg =>
      dsimp only
      rw [List.getD_eq_default _ _ (Nat.le_of_not_lt inside), if_neg (by omega)]
  right_inv new := by
    have length := perm.length_eq.trans List.length_range
    dsimp only
    by_cases inside : new < size
    case pos =>
      have member := List.idxOf_lt_length_iff.mpr (perm.mem_iff.mpr (List.mem_range.mpr inside))
      rw [if_pos inside, List.getD_eq_getElem _ _ member, List.getElem_idxOf]
    case neg => rw [if_neg inside, List.getD_eq_default _ _ (by omega)]

/-- The entry of an edge under new names. -/
def renameEntry (name : Equiv.Perm ℕ) (entry : DynamicEdge ContractorEdgeData) :
    DynamicEdge ContractorEdgeData where
  target := name entry.target
  data := if entry.data.shortcut then { entry.data with id := name entry.data.id } else entry.data

section Entries

variable {name : Equiv.Perm ℕ} {entry : DynamicEdge ContractorEdgeData}

@[simp] theorem weight_renameEntry : (renameEntry name entry).data.weight = entry.data.weight := by
  rw [renameEntry]
  dsimp only
  split <;> rfl

@[simp] theorem forward_renameEntry :
    (renameEntry name entry).data.forward = entry.data.forward := by
  rw [renameEntry]
  dsimp only
  split <;> rfl

@[simp] theorem backward_renameEntry :
    (renameEntry name entry).data.backward = entry.data.backward := by
  rw [renameEntry]
  dsimp only
  split <;> rfl

@[simp] theorem shortcut_renameEntry :
    (renameEntry name entry).data.shortcut = entry.data.shortcut := by
  rw [renameEntry]
  dsimp only
  split <;> rfl

theorem id_renameEntry (shortcut : entry.data.shortcut = true) :
    (renameEntry name entry).data.id = name entry.data.id := by
  rw [renameEntry, if_pos shortcut]

end Entries

/-- The nodes have new names, and nothing else is new. -/
structure Renames (name : Equiv.Perm ℕ) (state after : ContractionState) : Prop where
  closed : Closed after.graph
  count : after.graph.getNumberOfNodes = state.graph.getNumberOfNodes
  core : after.isCore.length = state.isCore.length
  adjacent : ∀ id, after.graph.adjacent (name id) =
    (state.graph.adjacent id).map (renameEntry name)
  alive : ∀ {id : ℕ}, after.Alive (name id) ↔ state.Alive id
  outside : ∀ {id : ℕ}, state.graph.getNumberOfNodes ≤ id → name id = id
  remaining : after.remainingNodes = state.remainingNodes.map name

section NewNames

variable {oldToNew : List ℕ} {size old : ℕ} (perm : oldToNew.Perm (List.range size))

theorem getElem?_newNames (small : old < size) :
    oldToNew[old]? = some (newNames oldToNew size perm old) := by
  have inside : old < oldToNew.length :=
    Nat.lt_of_lt_of_eq small (perm.length_eq.trans List.length_range).symm
  rw [newNames, Equiv.coe_fn_mk, List.getD_eq_getElem _ _ inside, List.getElem?_eq_getElem inside]

theorem getD_newNames (small : old < size) :
    oldToNew.getD old 0 = newNames oldToNew size perm old := by
  rw [List.getD_eq_getElem?_getD, getElem?_newNames perm small, Option.getD_some]

theorem newNames_of_le (large : size ≤ old) : newNames oldToNew size perm old = old :=
  List.getD_eq_default _ _ ((perm.length_eq.trans List.length_range).trans_le large)

theorem newNames_lt_iff : newNames oldToNew size perm old < size ↔ old < size := by
  by_cases small : old < size
  case pos =>
    have member := List.mem_of_getElem? (getElem?_newNames perm small)
    exact iff_of_true (List.mem_range.mp (perm.mem_iff.mp member)) small
  case neg => rw [newNames_of_le perm (Nat.le_of_not_lt small)]

end NewNames

/-! ## What the tables do -/

section Tabled

variable {state : ContractionState} {graph : ContractorGraph} {oldToNew : List ℕ}
  (contractible : Contractible state)
  (perm : oldToNew.Perm (List.range state.graph.getNumberOfNodes))
  (ran : renumberGraph state.graph oldToNew = some graph)

include contractible in
theorem renumberShortcut_retarget {id : ℕ} {entry : DynamicEdge ContractorEdgeData}
    (member : entry ∈ state.graph.adjacent id) :
    renumberShortcut oldToNew (retarget oldToNew entry) =
      renameEntry (newNames oldToNew _ perm) entry := by
  have target := getD_newNames perm (contractible.closed.inside member)
  rw [renumberShortcut, retarget, target, renameEntry]
  dsimp only
  split
  case isTrue shortcut => rw [getD_newNames perm (contractible.named member shortcut)]
  case isFalse => rfl

include contractible ran

/-- Renumbering along a table gives every node its new name. -/
theorem renames_of_table : Renames (newNames oldToNew _ perm) state
    ⟨graph, inplacePermutation state.isCore oldToNew,
      state.remainingNodes.map (newNames oldToNew _ perm)⟩ := by
  obtain ⟨renumbered, numbered, rfl⟩ := Option.map_eq_some_iff.mp ran
  have closed := contractible.closed
  have count := DynamicGraph.getNumberOfNodes_renumber closed.well perm numbered
  have inside : ∀ {id : ℕ} {entry : DynamicEdge ContractorEdgeData},
      entry ∈ state.graph.adjacent id →
      newNames oldToNew _ perm entry.target < state.graph.getNumberOfNodes :=
    fun member => (newNames_lt_iff perm).mpr (closed.inside member)
  have well : renumbered.WellFormed := by
    refine DynamicGraph.wellFormed_renumber closed.well perm numbered fun member => ?_
    have := inside member
    have := closed.small
    rw [getD_newNames perm (closed.inside member)]
    omega
  have adjacent : ∀ id, (renumbered.changeEdges (renumberShortcut oldToNew)).adjacent
      (newNames oldToNew _ perm id) =
        (state.graph.adjacent id).map (renameEntry (newNames oldToNew _ perm)) := by
    intro id
    rw [DynamicGraph.adjacent_changeEdges well]
    by_cases small : id < state.graph.getNumberOfNodes
    case pos =>
      rw [DynamicGraph.adjacent_renumber closed.well perm numbered (getElem?_newNames perm small),
        List.map_map]
      exact List.map_congr_left fun entry member =>
        renumberShortcut_retarget contractible perm member
    case neg =>
      rw [newNames_of_le perm (Nat.le_of_not_lt small),
        DynamicGraph.adjacent_of_le (by rw [count]; omega),
        DynamicGraph.adjacent_of_le (Nat.le_of_not_lt small), List.map_nil, List.map_nil]
  have core : oldToNew.Perm (List.range state.isCore.length) := by rwa [contractible.core]
  obtain ⟨length, moved⟩ := inplacePermutation_moves core
  refine ⟨⟨DynamicGraph.wellFormed_changeEdges well ?_, count.trans_le closed.small, ?_⟩, count,
    length, adjacent, ?_, newNames_of_le perm, rfl⟩
  case refine_1 =>
    intro entry
    rw [renumberShortcut]
    split <;> rfl
  case refine_2 =>
    intro id edge member
    obtain ⟨old, rfl⟩ := (newNames oldToNew _ perm).surjective id
    rw [adjacent, List.mem_map] at member
    obtain ⟨entry, there, rfl⟩ := member
    exact Nat.lt_of_lt_of_eq (inside there) count.symm
  case refine_3 =>
    intro id
    rw [ContractionState.Alive, ContractionState.Alive]
    by_cases small : id < state.graph.getNumberOfNodes
    case pos => rw [moved (getElem?_newNames perm small)]
    case neg =>
      rw [newNames_of_le perm (Nat.le_of_not_lt small),
        List.getElem?_eq_none (by rw [length, contractible.core]; omega),
        List.getElem?_eq_none (by rw [contractible.core]; omega)]

end Tabled

/-- The remaining nodes get the low ids, and the table still leads to the first ids. -/
theorem renames_of_renumberData {state after : ContractionState}
    (contractible : Contractible state) {newToOldNodeId renumbered : List ℕ}
    (length : newToOldNodeId.length = state.graph.getNumberOfNodes)
    (ran : renumberData state newToOldNodeId = some (after, renumbered)) :
    ∃ name, Renames name state after ∧ renumbered.length = state.graph.getNumberOfNodes ∧
      ∀ {id : ℕ}, id < state.graph.getNumberOfNodes →
        renumbered[name id]? = newToOldNodeId[id]? := by
  obtain ⟨rest, order, numbered, old⟩ := numberNodes_spec contractible length
  have size : (List.replicate state.graph.getNumberOfNodes specialNodeId).length =
      state.graph.getNumberOfNodes := List.length_replicate
  have order' := order
  rw [← size] at order'
  obtain ⟨perm, sent⟩ := numberSlots_perm order'
  rw [size, ← numbered] at perm
  rw [← numbered] at sent
  obtain ⟨graph, renumbers, same⟩ := Option.map_eq_some_iff.mp ran
  cases same
  have placed : ∀ {place slot : ℕ}, (state.remainingNodes ++ rest)[place]? = some slot →
      newNames _ _ perm slot = place := by
    intro place slot found
    have small := List.mem_range.mp (order.mem_iff.mp (List.mem_of_getElem? found))
    exact Option.some.inj ((getElem?_newNames perm small).symm.trans (sent found))
  have remaining : List.range state.remainingNodes.length =
      state.remainingNodes.map (newNames _ _ perm) := by
    refine List.ext_getElem? fun place => ?_
    rw [List.getElem?_map]
    by_cases inside : place < state.remainingNodes.length
    case pos =>
      have found := List.getElem?_eq_getElem inside
      rw [List.getElem?_range inside, found, Option.map_some,
        placed ((List.getElem?_append_left inside).trans found)]
    case neg =>
      rw [List.getElem?_eq_none (Nat.le_of_not_lt inside), Option.map_none,
        List.getElem?_eq_none (by rw [List.length_range]; omega)]
  refine ⟨newNames _ _ perm, ?_, ?_, ?_⟩
  case refine_1 =>
    rw [remaining]
    exact renames_of_table contractible perm renumbers
  case refine_2 => rw [old, List.length_map, order.length_eq, List.length_range]
  case refine_3 =>
    intro id small
    obtain ⟨place, found⟩ :=
      List.mem_iff_getElem?.mp (order.mem_iff.mpr (List.mem_range.mpr small))
    rw [placed found, old, List.getElem?_map, found, Option.map_some,
      List.getD_eq_getElem _ _ (Nat.lt_of_lt_of_eq small length.symm),
      List.getElem?_eq_getElem (Nat.lt_of_lt_of_eq small length.symm)]

/-! ## What a renaming keeps -/

namespace Renames

variable {name : Equiv.Perm ℕ} {state after : ContractionState} {id tail head weight : ℕ}
  {edge : DynamicEdge ContractorEdgeData} (renames : Renames name state after)

include renames

theorem inside (small : id < state.graph.getNumberOfNodes) :
    name id < state.graph.getNumberOfNodes := by
  by_contra large
  rw [not_lt] at large
  rw [name.injective (renames.outside large)] at large
  omega

theorem mem_adjacent : edge ∈ after.graph.adjacent (name id) ↔
    ∃ old ∈ state.graph.adjacent id, renameEntry name old = edge := by
  rw [renames.adjacent, List.mem_map]

theorem forwardArcs_iff : forwardArcs after.graph (name tail) (name head) weight ↔
    forwardArcs state.graph tail head weight := by
  constructor
  · rintro ⟨edge, member, target, forward, rfl⟩
    obtain ⟨old, there, rfl⟩ := renames.mem_adjacent.mp member
    rw [forward_renameEntry] at forward
    exact ⟨old, there, name.injective target, forward, weight_renameEntry.symm⟩
  · rintro ⟨edge, member, rfl, forward, rfl⟩
    exact ⟨renameEntry name edge, renames.mem_adjacent.mpr ⟨edge, member, rfl⟩, rfl,
      forward_renameEntry.trans forward, weight_renameEntry⟩

theorem arcs_iff : after.arcs (name tail) (name head) weight ↔ state.arcs tail head weight := by
  rw [ContractionState.arcs, ContractionState.arcs, renames.alive, renames.forwardArcs_iff,
    name.injective.ne_iff]

theorem walk (walk : Walk state.arcs tail head weight) :
    Walk after.arcs (name tail) (name head) weight :=
  walk.map fun arc => renames.arcs_iff.mpr arc

theorem within (within : Within after.arcs (name tail) (name head) weight) :
    Within state.arcs tail head weight := by
  obtain ⟨shorter, le, walk⟩ := within
  have back : Walk state.arcs (name.symm (name tail)) (name.symm (name head)) shorter := by
    refine walk.map fun arc => ?_
    rw [← renames.arcs_iff, name.apply_symm_apply, name.apply_symm_apply]
    exact arc
  rw [name.symm_apply_apply, name.symm_apply_apply] at back
  exact ⟨shorter, le, back⟩

theorem contractible (contractible : Contractible state) : Contractible after := by
  have named : ∀ {id : ℕ} {edge : DynamicEdge ContractorEdgeData},
      edge ∈ after.graph.adjacent id → after.Alive id → ∃ first old, name first = id ∧
        renameEntry name old = edge ∧ state.Alive first ∧ old ∈ state.graph.adjacent first := by
    intro id edge member alive
    obtain ⟨first, rfl⟩ := name.surjective id
    obtain ⟨old, there, rfl⟩ := renames.mem_adjacent.mp member
    exact ⟨first, old, rfl, rfl, renames.alive.mp alive, there⟩
  refine ⟨renames.closed, ?_, ?_, ?_, ?_, ?_, ?_, ?_, ?_, ?_⟩
  case refine_1 => rw [renames.core, renames.count, contractible.core]
  case refine_2 =>
    intro id edge alive member
    obtain ⟨first, old, rfl, rfl, alive, there⟩ := named member alive
    exact renames.alive.mpr (contractible.alive alive there)
  case refine_3 =>
    intro id edge alive member
    obtain ⟨first, old, rfl, rfl, alive, there⟩ := named member alive
    rw [forward_renameEntry, backward_renameEntry]
    exact contractible.flagged alive there
  case refine_4 =>
    intro id edge alive member
    obtain ⟨first, old, rfl, rfl, alive, there⟩ := named member alive
    rw [weight_renameEntry]
    exact contractible.positive alive there
  case refine_5 =>
    intro id edge member shortcut
    obtain ⟨first, rfl⟩ := name.surjective id
    obtain ⟨old, there, rfl⟩ := renames.mem_adjacent.mp member
    rw [shortcut_renameEntry] at shortcut
    rw [id_renameEntry shortcut, renames.count]
    exact renames.inside (contractible.named there shortcut)
  case refine_6 =>
    intro id edge alive member forward
    obtain ⟨first, old, rfl, rfl, alive, there⟩ := named member alive
    rw [forward_renameEntry] at forward
    obtain ⟨mirror, here, rfl, backward, le⟩ := contractible.backs alive there forward
    refine ⟨renameEntry name mirror, renames.mem_adjacent.mpr ⟨mirror, here, rfl⟩, rfl,
      backward_renameEntry.trans backward, ?_⟩
    rwa [weight_renameEntry, weight_renameEntry]
  case refine_7 =>
    intro id edge alive member backward
    obtain ⟨first, old, rfl, rfl, alive, there⟩ := named member alive
    rw [backward_renameEntry] at backward
    obtain ⟨mirror, here, rfl, forward, le⟩ := contractible.forths alive there backward
    refine ⟨renameEntry name mirror, renames.mem_adjacent.mpr ⟨mirror, here, rfl⟩, rfl,
      forward_renameEntry.trans forward, ?_⟩
    rwa [weight_renameEntry, weight_renameEntry]
  case refine_8 =>
    intro id member
    rw [renames.remaining] at member
    obtain ⟨old, before, rfl⟩ := List.mem_map.mp member
    exact renames.alive.mpr (contractible.remaining old before)
  case refine_9 =>
    rw [renames.remaining]
    exact contractible.nodup.map name.injective

end Renames

end Proximity.Routing
