import Mathlib.Data.List.Forall2
import SemanticQuery.Fixture.Maintenance
import SemanticQuery.Proofs.FileTree
import SemanticQuery.Proofs.Sequence

/-!
# Nothing is missed

The check of a directory finds the defect of every defective fixture in it and below it, one for
each, and says of exactly those directories that they are valid in which and below which no fixture
is defective. No file hides what the files beside it or around it are like.
-/

namespace SemanticQuery.Fixture

open FileTree

variable {entries : List (String × FileTree)} {file text : String} {kind : Kind} {d : Defect}

/-! ### Fixtures -/

/-- A file is a fixture of a kind: a JSON file whose name begins with that of the kind. -/
structure IsFixture (file : String) (kind : Kind) : Prop where
  extension : ∃ stem, stem ≠ "" ∧ file = stem ++ ".json"
  opening : kind.name.toList <+: file.toList

lemma isDocument_iff : isDocument file = true ↔ ∃ stem, stem ≠ "" ∧ file = stem ++ ".json" := by
  have hending : ".json".toList = ['n', 'o', 's', 'j', '.'].reverse := rfl
  constructor
  · intro h
    unfold isDocument at h
    split at h
    next c rest heq =>
      refine ⟨String.ofList (c :: rest).reverse, by simp, ?_⟩
      rw [← String.toList_inj, String.toList_append, String.toList_ofList, hending,
        ← List.reverse_append, ← List.reverse_eq_iff]
      exact heq
    next => simp at h
  · rintro ⟨stem, hne, rfl⟩
    obtain ⟨c, rest, hstem⟩ : ∃ c rest, stem.toList.reverse = c :: rest :=
      List.exists_cons_of_ne_nil (by simpa using hne)
    rw [isDocument, String.toList_append, List.reverse_append, hending, List.reverse_reverse, hstem]
    rfl

lemma ofFileName?_eq_some_iff :
    Kind.ofFileName? file = some kind ↔ kind.name.toList <+: file.toList := by
  constructor
  · intro h
    have hopening := List.find?_some (p := fun k : Kind => k.name.toList.isPrefixOf file.toList) h
    exact List.isPrefixOf_iff_prefix.mp hopening
  · rintro ⟨rest, hrest⟩
    cases kind <;> simp [Kind.ofFileName?, Kind.all, Kind.name, ← hrest]

/-- What is wrong with a file: it is a fixture and cannot be loaded. -/
structure IsDefect (file text : String) (d : Defect) : Prop where
  file_eq : d.file = file
  isFixture : IsFixture file d.kind
  check_eq : d.kind.check text = .error d.failure

/-- The kind of fixture that a file is, if it is one. -/
def kindOf? (file : String) : Option Kind :=
  if isDocument file then Kind.ofFileName? file else none

lemma kindOf?_eq_some_iff : kindOf? file = some kind ↔ IsFixture file kind := by
  rw [kindOf?, Option.ite_none_right_eq_some, isDocument_iff, ofFileName?_eq_some_iff]
  constructor
  · rintro ⟨hextension, hopening⟩
    exact ⟨hextension, hopening⟩
  · rintro ⟨hextension, hopening⟩
    exact ⟨hextension, hopening⟩

/-- What is wrong with a file, if it is a fixture that cannot be loaded. -/
def defect? (file text : String) : Option Defect :=
  (kindOf? file).bind fun kind =>
    match kind.check text with
    | .ok _ => none
    | .error failure => some ⟨file, kind, failure⟩

lemma defect?_eq_some_iff : defect? file text = some d ↔ IsDefect file text d := by
  rw [defect?, Option.bind_eq_some_iff]
  simp only [kindOf?_eq_some_iff]
  constructor
  · rintro ⟨kind, hkind, h⟩
    split at h
    next => cases h
    next failure hfailure =>
      obtain rfl := Option.some.inj h
      exact ⟨rfl, hkind, hfailure⟩
  · rintro ⟨rfl, hkind, hfailure⟩
    exact ⟨d.kind, hkind, by rw [hfailure]⟩

/-- A file is a fixture that cannot be loaded. -/
def IsDefective (file text : String) : Prop := ∃ d, IsDefect file text d

lemma isSome_defect?_iff : (defect? file text).isSome = true ↔ IsDefective file text := by
  simp only [Option.isSome_iff_exists, defect?_eq_some_iff, IsDefective]

instance (file text : String) : Decidable (IsDefective file text) :=
  decidable_of_iff _ isSome_defect?_iff

/-- No fixture in a directory or below it is defective. -/
def IsValid (entries : List (String × FileTree)) : Prop :=
  ∀ file text, HoldsFile entries file text → ¬IsDefective file text

lemma isValid_iff : IsValid entries ↔ ∀ f ∈ files entries, ¬IsDefective f.1 f.2 := by
  simp only [IsValid, ← mem_files_iff, Prod.forall]

instance (entries : List (String × FileTree)) : Decidable (IsValid entries) :=
  decidable_of_iff _ isValid_iff.symm

/-- An entry of a directory is a fixture. -/
def IsFixtureEntry : String × FileTree → Prop
  | (name, .file _) => ∃ kind, IsFixture name kind
  | (_, .directory _) => False

lemma isFixtureEntry_file_iff :
    IsFixtureEntry (file, .file text) ↔ (kindOf? file).isSome = true := by
  simp only [Option.isSome_iff_exists, kindOf?_eq_some_iff, IsFixtureEntry]

instance : DecidablePred IsFixtureEntry
  | (_, .file _) => decidable_of_iff _ isFixtureEntry_file_iff.symm
  | (_, .directory _) => .isFalse id

/-- The number of fixtures that lie directly in a directory. -/
def fixtureCount (entries : List (String × FileTree)) : ℕ := entries.countP (IsFixtureEntry ·)

/-! ### Findings -/

/-- The numbers of fixtures that are said of valid directories. -/
def validCounts (notes : List Note) : List ℕ :=
  notes.filterMap fun
    | .valid count => some count
    | .skipped _ => none

namespace Findings

/-- A file counts if it is a fixture, is reported if it is a defective one, and is not said to be
valid. -/
lemma exists_ofFile_eq (file text : String) :
    ∃ notes, validCounts notes = [] ∧
      ofFile file text =
        ⟨if (kindOf? file).isSome then 1 else 0, notes, (defect? file text).toList⟩ := by
  by_cases hdocument : isDocument file = true
  · cases hkind : Kind.ofFileName? file with
    | none =>
      refine ⟨[.skipped file], rfl, ?_⟩
      simp [ofFile, kindOf?, defect?, hdocument, hkind]
    | some kind =>
      refine ⟨[], rfl, ?_⟩
      cases hcheck : kind.check text <;>
        simp [ofFile, kindOf?, defect?, hdocument, hkind, hcheck]
  · refine ⟨[], rfl, ?_⟩
    simp [ofFile, kindOf?, defect?, hdocument, none]

lemma defects_ofFile (file text : String) :
    (ofFile file text).defects = (defect? file text).toList := by
  obtain ⟨notes, -, h⟩ := exists_ofFile_eq file text
  rw [h]

lemma count_ofFile (file text : String) :
    (ofFile file text).count = if (kindOf? file).isSome then 1 else 0 := by
  obtain ⟨notes, -, h⟩ := exists_ofFile_eq file text
  rw [h]

lemma validCounts_ofFile (file text : String) : validCounts (ofFile file text).notes = [] := by
  obtain ⟨notes, hnotes, h⟩ := exists_ofFile_eq file text
  rw [h, hnotes]

/-! ### What is found in a directory -/

lemma defects_ofEntries_eq_flatMap (entries : List (String × FileTree)) :
    (ofEntries entries).defects = entries.flatMap fun e => (ofTree e.1 e.2).defects := by
  induction entries with
  | nil => rfl
  | cons e rest ih => rw [ofEntries, and, ih, List.flatMap_cons]

lemma validCounts_ofEntries_eq_flatMap (entries : List (String × FileTree)) :
    validCounts (ofEntries entries).notes =
      entries.flatMap fun e => validCounts (ofTree e.1 e.2).notes := by
  induction entries with
  | nil => rfl
  | cons e rest ih =>
    rw [ofEntries, and, validCounts, List.filterMap_append, List.flatMap_cons, ← ih]
    rfl

lemma count_ofTree (name : String) (t : FileTree) :
    (ofTree name t).count = if IsFixtureEntry (name, t) then 1 else 0 := by
  cases t with
  | file text => simp only [ofTree, count_ofFile, isFixtureEntry_file_iff]
  | directory inner => simp [ofTree, close, IsFixtureEntry]

lemma count_ofEntries (entries : List (String × FileTree)) :
    (ofEntries entries).count = fixtureCount entries := by
  induction entries with
  | nil => rfl
  | cons e rest ih =>
    rw [ofEntries, and, ih, count_ofTree, fixtureCount, fixtureCount, List.countP_cons, Nat.add_comm]
    simp only [decide_eq_true_eq]

/-- The defects of a directory are those of its files, one for each defective file. -/
lemma defects_ofEntries (entries : List (String × FileTree)) :
    (ofEntries entries).defects = (files entries).filterMap fun f => defect? f.1 f.2 := by
  induction entries using induction_directories with
  | step entries ih =>
    have hunder : ∀ e ∈ entries,
        (ofTree e.1 e.2).defects = (filesUnder e.1 e.2).filterMap fun f => defect? f.1 f.2 := by
      rintro ⟨name, t⟩ hmem
      cases t with
      | file text =>
        rw [ofTree, defects_ofFile, filesUnder]
        cases h : defect? name text <;> simp [h]
      | directory inner => exact ih name inner hmem
    rw [defects_ofEntries_eq_flatMap, files_eq_flatMap, List.filterMap_flatMap]
    exact List.flatMap_congr hunder

lemma defects_ofEntries_eq_nil_iff : (ofEntries entries).defects = [] ↔ IsValid entries := by
  rw [defects_ofEntries, List.filterMap_eq_nil_iff, isValid_iff]
  refine forall₂_congr fun f _ => ?_
  rw [← isSome_defect?_iff, Option.not_isSome_iff_eq_none]

/-- A directory is said to be valid if it is, after those below it. -/
lemma validCounts_close (entries : List (String × FileTree)) :
    validCounts (ofEntries entries).close.notes =
      validCounts (ofEntries entries).notes ++
        ([entries].filter (IsValid ·)).map fixtureCount := by
  rw [close]
  by_cases hvalid : IsValid entries
  · rw [defects_ofEntries_eq_nil_iff.mpr hvalid, count_ofEntries,
      List.filter_cons_of_pos (by simpa using hvalid)]
    exact List.filterMap_append
  · have hdefects := mt defects_ofEntries_eq_nil_iff.mp hvalid
    rw [if_neg (by simpa using hdefects), List.filter_cons_of_neg (by simpa using hvalid)]
    exact (List.append_nil _).symm

/-- The valid ones of the directories below a directory are said to be valid. -/
lemma validCounts_ofEntries (entries : List (String × FileTree)) :
    validCounts (ofEntries entries).notes =
      ((directoriesBelow entries).filter (IsValid ·)).map fixtureCount := by
  induction entries using induction_directories with
  | step entries ih =>
    have hunder : ∀ e ∈ entries, validCounts (ofTree e.1 e.2).notes =
        ((directories e.2).filter (IsValid ·)).map fixtureCount := by
      rintro ⟨name, t⟩ hmem
      cases t with
      | file text => exact validCounts_ofFile name text
      | directory inner =>
        rw [ofTree, validCounts_close, ih name inner hmem, directories, List.filter_append,
          List.map_append]
    rw [validCounts_ofEntries_eq_flatMap, directoriesBelow_eq_flatMap, List.filter_flatMap,
      List.map_flatMap]
    exact List.flatMap_congr hunder

end Findings

lemma not_isDefective_iff :
    ¬IsDefective file text ↔ ∀ kind, IsFixture file kind → kind.check text = .ok () := by
  constructor
  · intro h kind hkind
    cases hcheck : kind.check text with
    | ok _ => rfl
    | error failure => exact absurd ⟨⟨file, kind, failure⟩, rfl, hkind, hcheck⟩ h
  · rintro h ⟨d, -, hkind, hfailure⟩
    rw [h d.kind hkind] at hfailure
    cases hfailure

/-- The line on a fixture that cannot be loaded names it, its kind and the reason. -/
def IsDefectLine (f : String × String) (line : String) : Prop :=
  ∃ kind failure, IsFixture f.1 kind ∧ kind.check f.2 = .error failure ∧
    line = f.1 ++ " (" ++ kind.name ++ "): " ++ failure.message

lemma IsDefect.isDefectLine {f : String × String} (h : IsDefect f.1 f.2 d) :
    IsDefectLine f d.line := by
  refine ⟨d.kind, d.failure, h.isFixture, h.check_eq, ?_⟩
  have hcolon : "): " = ")" ++ ": " := rfl
  simp only [Defect.line, Defect.head, h.file_eq, hcolon, String.append_assoc]

/-- The check of a directory succeeds where every fixture in it and below it can be loaded. It finds
one defect for each fixture that cannot, prints a line on each behind its notes, and says of each
directory in which and below which there is none how many fixtures it holds. -/
theorem check_misses_nothing (entries : List (String × FileTree)) :
    ((Outcome.checked (check entries)).code = 0 ↔
      ∀ file text kind, HoldsFile entries file text → IsFixture file kind →
        kind.check text = .ok ()) ∧
    List.Forall₂ (fun f d => IsDefect f.1 f.2 d)
      ((files entries).filter fun f => IsDefective f.1 f.2) (check entries).defects ∧
    (∃ reasons, (Outcome.checked (check entries)).report =
        (check entries).notes.map Note.line ++ reasons ∧
      List.Forall₂ IsDefectLine ((files entries).filter fun f => IsDefective f.1 f.2) reasons) ∧
    validCounts (check entries).notes =
      ((directories (.directory entries)).filter (IsValid ·)).map fixtureCount := by
  have hdefects : List.Forall₂ (fun f d => IsDefect f.1 f.2 d)
      ((files entries).filter fun f => IsDefective f.1 f.2) (check entries).defects := by
    have hfound : (check entries).defects = (files entries).filterMap fun f => defect? f.1 f.2 :=
      Findings.defects_ofEntries entries
    have hone := forall₂_filterMap (fun f => defect? f.1 f.2) (files entries)
    simpa only [hfound, defect?_eq_some_iff, ← isSome_defect?_iff, Bool.decide_eq_true] using hone
  refine ⟨?_, hdefects, ⟨(check entries).defects.map Defect.line, rfl, ?_⟩, ?_⟩
  · have hcode : (Outcome.checked (check entries)).code = 0 ↔
        (Findings.ofEntries entries).defects = [] := by
      simp [Outcome.code, check, Findings.close]
    rw [hcode, Findings.defects_ofEntries_eq_nil_iff]
    simp only [IsValid, not_isDefective_iff]
    constructor
    · intro h file text kind hfile hkind
      exact h file text hfile kind hkind
    · intro h file text hfile kind hkind
      exact h file text kind hfile hkind
  · exact List.forall₂_map_right_iff.mpr (hdefects.imp fun _ _ h => h.isDefectLine)
  · rw [check, Findings.validCounts_close, Findings.validCounts_ofEntries, directories,
      List.filter_append, List.map_append]

end SemanticQuery.Fixture
