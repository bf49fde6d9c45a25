import Mathlib.Data.List.Forall2

/-!
# Lists related one for one

What two lists related element by element say about their places, and relations of lists that
only depend on the first one.
-/

namespace Proximity.Systems

universe u v w

variable {α : Type u} {β : Type v} {γ : Type w} {items : List α} {values : List β}

theorem forall₂_comp {R : α → β → Prop} {S : β → γ → Prop} {results : List γ}
    (first : List.Forall₂ R items values) (second : List.Forall₂ S values results) :
    List.Forall₂ (fun item result => ∃ value, R item value ∧ S value result) items results := by
  induction first generalizing results with
  | nil =>
      cases second
      exact List.Forall₂.nil
  | cons here _ ih =>
      cases second with
      | cons there rest => exact List.Forall₂.cons ⟨_, here, there⟩ (ih rest)

/-- A relation that comes down to a condition on the first elements holds of the lists exactly
when all first elements meet it. -/
theorem forall₂_iff_forall {R S : α → β → Prop} {Holds : α → Prop}
    (matched : List.Forall₂ S items values)
    (same : ∀ item ∈ items, ∀ value ∈ values, S item value → (R item value ↔ Holds item)) :
    List.Forall₂ R items values ↔ ∀ item ∈ items, Holds item := by
  induction matched with
  | nil => exact iff_of_true List.Forall₂.nil (List.forall_mem_nil _)
  | cons here _ ih =>
      rw [List.forall₂_cons, List.forall_mem_cons,
        same _ List.mem_cons_self _ List.mem_cons_self here,
        ih fun item member value among =>
          same item (List.mem_cons_of_mem _ member) value (List.mem_cons_of_mem _ among)]

/-- Values for all items can be chosen one by one. -/
theorem exists_forall₂_iff {R : α → β → Prop} :
    (∃ values, List.Forall₂ R items values) ↔ ∀ item ∈ items, ∃ value, R item value := by
  induction items with
  | nil => exact iff_of_true ⟨[], List.Forall₂.nil⟩ (List.forall_mem_nil _)
  | cons item rest ih =>
      simp only [List.forall_mem_cons, List.forall₂_cons_left_iff, ← ih]
      constructor
      · rintro ⟨_, value, others, here, later, rfl⟩
        exact ⟨⟨value, here⟩, others, later⟩
      · rintro ⟨⟨value, here⟩, others, later⟩
        exact ⟨value :: others, value, others, here, later, rfl⟩

theorem exists_getElem?_of_forall₂ {R : α → β → Prop} (matched : List.Forall₂ R items values)
    {index : Nat} {item : α} (there : items[index]? = some item) :
    ∃ value, values[index]? = some value ∧ R item value := by
  induction matched generalizing index with
  | nil => simp at there
  | cons here _ ih =>
      cases index with
      | zero =>
          cases there
          exact ⟨_, rfl, here⟩
      | succ index => exact ih there

theorem exists_getElem?_of_forall₂_right {R : α → β → Prop}
    (matched : List.Forall₂ R items values) {index : Nat} {value : β}
    (there : values[index]? = some value) : ∃ item, items[index]? = some item ∧ R item value :=
  exists_getElem?_of_forall₂ (List.Forall₂.flip (R := fun value item => R item value) matched) there

theorem exists_mem_of_forall₂ {R : α → β → Prop} (matched : List.Forall₂ R items values)
    {item : α} (member : item ∈ items) : ∃ value ∈ values, R item value := by
  obtain ⟨index, here⟩ := List.getElem?_of_mem member
  obtain ⟨value, there, related⟩ := exists_getElem?_of_forall₂ matched here
  exact ⟨value, List.mem_of_getElem? there, related⟩

theorem exists_mem_of_forall₂_right {R : α → β → Prop} (matched : List.Forall₂ R items values)
    {value : β} (member : value ∈ values) : ∃ item ∈ items, R item value := by
  obtain ⟨index, there⟩ := List.getElem?_of_mem member
  obtain ⟨item, here, related⟩ := exists_getElem?_of_forall₂_right matched there
  exact ⟨item, List.mem_of_getElem? here, related⟩

end Proximity.Systems
