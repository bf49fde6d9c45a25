import Mathlib.Data.Finset.Insert
import Mathlib.Data.Finset.Erase

/-!
# Stored paths and the files they name

A directory is the set of the paths that are there.  Documents hold paths; the empty text is
no path.
-/

namespace Proximity.Systems

/-- Every path of the list is there. -/
def Present (files : Finset String) (paths : List String) : Prop :=
  ∀ path ∈ paths, path ≠ "" → path ∈ files

/-- A move lands at the path, or fails. -/
def land (moves : Bool) (path : String) (files : Finset String) : Finset String :=
  if moves then insert path files else files

/-- The moves of several files, each of which may fail. -/
def landAll (moves : String → Bool) (paths : List String) (files : Finset String) :
    Finset String :=
  paths.foldl (fun files path => land (moves path) path files) files

/-- The files are unlinked one after the other. -/
def unlinkAll (paths : List String) (files : Finset String) : Finset String :=
  paths.foldl (fun files path => if path = "" then files else files.erase path) files

section Rules

variable {files : Finset String} {paths : List String}

@[simp] theorem present_nil : Present files [] := fun _ member => absurd member List.not_mem_nil

@[simp] theorem present_append {more : List String} :
    Present files (paths ++ more) ↔ Present files paths ∧ Present files more := by
  simp only [Present, List.mem_append, or_imp, forall_and]

theorem Present.mono {larger : Finset String} (present : Present files paths)
    (grows : files ⊆ larger) : Present larger paths :=
  fun path member filled => grows (present path member filled)

theorem Present.of_subset {more : List String} (present : Present files more)
    (part : paths ⊆ more) : Present files paths :=
  fun path member => present path (part member)

theorem mem_land {moves : Bool} {path other : String} :
    other ∈ land moves path files ↔ other ∈ files ∨ moves = true ∧ other = path := by
  cases moves <;> simp [land, or_comm]

theorem subset_land (moves : Bool) (path : String) (files : Finset String) :
    files ⊆ land moves path files := fun _ there => mem_land.mpr (Or.inl there)

theorem mem_landAll {moves : String → Bool} {other : String} :
    other ∈ landAll moves paths files ↔ other ∈ files ∨ other ∈ paths ∧ moves other = true := by
  induction paths generalizing files with
  | nil => simp [landAll]
  | cons path rest ih =>
      have first : landAll moves (path :: rest) files =
          landAll moves rest (land (moves path) path files) := rfl
      rw [first, ih, mem_land, List.mem_cons]
      constructor
      · rintro ((there | ⟨moved, rfl⟩) | ⟨later, moved⟩)
        · exact Or.inl there
        · exact Or.inr ⟨Or.inl rfl, moved⟩
        · exact Or.inr ⟨Or.inr later, moved⟩
      · rintro (there | ⟨rfl | later, moved⟩)
        · exact Or.inl (Or.inl there)
        · exact Or.inl (Or.inr ⟨moved, rfl⟩)
        · exact Or.inr ⟨later, moved⟩

theorem mem_unlinkAll {other : String} :
    other ∈ unlinkAll paths files ↔ other ∈ files ∧ (other ≠ "" → other ∉ paths) := by
  induction paths generalizing files with
  | nil => simp [unlinkAll]
  | cons path rest ih =>
      have first : unlinkAll (path :: rest) files =
          unlinkAll rest (if path = "" then files else files.erase path) := rfl
      rw [first, ih]
      by_cases filled : other = ""
      · subst filled
        split
        case isTrue => simp
        case isFalse named => simp [Ne.symm named]
      · split
        case isTrue empty =>
            subst empty
            simp [filled]
        case isFalse => simp [filled, and_left_comm, and_assoc]

/-- When a file is unlinked, the paths are still there exactly when it is none of them. -/
theorem present_erase_iff (present : Present files paths) {old : String} (filled : old ≠ "") :
    Present (files.erase old) paths ↔ old ∉ paths := by
  constructor
  · exact fun after member => Finset.notMem_erase old files (after old member filled)
  · intro unused path member path_filled
    refine Finset.mem_erase.mpr ⟨?_, present path member path_filled⟩
    rintro rfl
    exact unused member

/-- Nor does a new file at another path change that. -/
theorem present_replaced_iff (present : Present files paths) {old path : String}
    (filled : old ≠ "") (fresh : path ∉ files) (moves : Bool) :
    Present (land moves path (files.erase old)) paths ↔ old ∉ paths := by
  rw [← present_erase_iff present filled]
  refine ⟨fun after other member other_filled => ?_, fun after => after.mono (subset_land _ _ _)⟩
  rcases mem_land.mp (after other member other_filled) with there | ⟨-, rfl⟩
  · exact there
  · exact absurd (present other member other_filled) fresh

theorem replaced_gone {old path : String} (there : old ∈ files) (fresh : path ∉ files)
    (moves : Bool) : old ∉ land moves path (files.erase old) := by
  intro still
  rcases mem_land.mp still with kept | ⟨-, rfl⟩
  · exact Finset.notMem_erase old files kept
  · exact fresh there

theorem present_landed_iff {path : String} (filled : path ≠ "") (fresh : path ∉ files)
    (moves : Bool) : Present (land moves path files) [path] ↔ moves = true := by
  simp [Present, mem_land, filled, fresh]

end Rules

end Proximity.Systems
