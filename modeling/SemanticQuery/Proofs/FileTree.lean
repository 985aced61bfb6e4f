import Mathlib.Tactic.Common
import SemanticQuery.FileTree

/-!
# What lies in a directory

A directory holds files and directories, and those hold more. The walks list all files and all
directories of a tree, each as often as it lies there; what they list is what lies in the directory
or somewhere below it.
-/

namespace SemanticQuery.FileTree

variable {entries inner d : List (String × FileTree)} {name file text : String}

/-- A directory is another one or lies somewhere below it. -/
inductive IsWithin : List (String × FileTree) → List (String × FileTree) → Prop
  | self (entries : List (String × FileTree)) : IsWithin entries entries
  | under {entries inner d : List (String × FileTree)} {name : String} :
      (name, .directory inner) ∈ entries → IsWithin inner d → IsWithin entries d

/-- A file lies in a directory or somewhere below it. -/
def HoldsFile (entries : List (String × FileTree)) (file text : String) : Prop :=
  ∃ d, IsWithin entries d ∧ (file, .file text) ∈ d

lemma isWithin_iff :
    IsWithin entries d ↔
      d = entries ∨ ∃ name inner, (name, .directory inner) ∈ entries ∧ IsWithin inner d := by
  constructor
  · intro h
    cases h with
    | self => exact .inl rfl
    | under hmem h => exact .inr ⟨_, _, hmem, h⟩
  · rintro (rfl | ⟨name, inner, hmem, h⟩)
    · exact .self _
    · exact .under hmem h

lemma holdsFile_iff :
    HoldsFile entries file text ↔
      (file, .file text) ∈ entries ∨
        ∃ name inner, (name, .directory inner) ∈ entries ∧ HoldsFile inner file text := by
  constructor
  · rintro ⟨d, hd, hfile⟩
    rcases isWithin_iff.mp hd with rfl | ⟨name, inner, hmem, hd⟩
    · exact .inl hfile
    · exact .inr ⟨name, inner, hmem, d, hd, hfile⟩
  · rintro (hfile | ⟨name, inner, hmem, d, hd, hfile⟩)
    · exact ⟨entries, .self entries, hfile⟩
    · exact ⟨d, .under hmem hd, hfile⟩

/-- What holds of a directory whenever it holds of those in it holds of every directory. -/
theorem induction_directories {motive : List (String × FileTree) → Prop}
    (step : ∀ entries, (∀ name inner, (name, .directory inner) ∈ entries → motive inner) →
      motive entries) (entries : List (String × FileTree)) : motive entries :=
  step entries fun _ inner _ => induction_directories step inner
termination_by sizeOf entries
decreasing_by
  have hmem := List.sizeOf_lt_of_mem ‹_›
  simp only [Prod.mk.sizeOf_spec, FileTree.directory.sizeOf_spec] at hmem
  omega

/-! ### Walks -/

mutual

/-- The files under a name, with their names and texts. -/
def filesUnder (name : String) : FileTree → List (String × String)
  | .file text => [(name, text)]
  | .directory entries => files entries

/-- The files of a directory and of the directories below it. -/
def files : List (String × FileTree) → List (String × String)
  | [] => []
  | (name, t) :: rest => filesUnder name t ++ files rest

end

mutual

/-- The directories of a tree, each behind those below it. -/
def directories : FileTree → List (List (String × FileTree))
  | .file _ => []
  | .directory entries => directoriesBelow entries ++ [entries]

/-- The directories below a directory. -/
def directoriesBelow : List (String × FileTree) → List (List (String × FileTree))
  | [] => []
  | (_, t) :: rest => directories t ++ directoriesBelow rest

end

lemma files_eq_flatMap (entries : List (String × FileTree)) :
    files entries = entries.flatMap fun e => filesUnder e.1 e.2 := by
  induction entries with
  | nil => rfl
  | cons e rest ih => rw [files, ih, List.flatMap_cons]

lemma directoriesBelow_eq_flatMap (entries : List (String × FileTree)) :
    directoriesBelow entries = entries.flatMap fun e => directories e.2 := by
  induction entries with
  | nil => rfl
  | cons e rest ih => rw [directoriesBelow, ih, List.flatMap_cons]

/-- The walk lists the files that a directory holds. -/
lemma mem_files_iff : (file, text) ∈ files entries ↔ HoldsFile entries file text := by
  induction entries using induction_directories with
  | step entries ih =>
    rw [files_eq_flatMap, List.mem_flatMap, holdsFile_iff]
    constructor
    · rintro ⟨⟨name, t⟩, hmem, hfile⟩
      cases t with
      | file text' =>
        obtain ⟨rfl, rfl⟩ : file = name ∧ text = text' := by simpa [filesUnder] using hfile
        exact .inl hmem
      | directory inner => exact .inr ⟨name, inner, hmem, (ih name inner hmem).mp hfile⟩
    · rintro (hmem | ⟨name, inner, hmem, hfile⟩)
      · exact ⟨_, hmem, by simp [filesUnder]⟩
      · exact ⟨_, hmem, (ih name inner hmem).mpr hfile⟩

/-- The walk lists a directory and all directories below it. -/
lemma mem_directories_iff : d ∈ directories (.directory entries) ↔ IsWithin entries d := by
  induction entries using induction_directories with
  | step entries ih =>
    rw [directories, List.mem_append, List.mem_singleton, directoriesBelow_eq_flatMap,
      List.mem_flatMap, isWithin_iff, or_comm]
    refine or_congr_right ⟨?_, ?_⟩
    · rintro ⟨⟨name, t⟩, hmem, hd⟩
      cases t with
      | file text => simp [directories] at hd
      | directory inner => exact ⟨name, inner, hmem, (ih name inner hmem).mp hd⟩
    · rintro ⟨name, inner, hmem, hd⟩
      exact ⟨_, hmem, (ih name inner hmem).mpr hd⟩

end SemanticQuery.FileTree
