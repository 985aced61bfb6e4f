import Mathlib.Data.List.Basic
import SemanticQuery.Dictionary.Tag
import SemanticQuery.Proofs.Number.Decimal

/-!
# The convention for tags

A tag of the convention is read as what it was written for, with and without the mark of endings.
Its parts are told apart by the separators between them: no id and no marker holds one, and none
begins or ends as the mark of endings does.
-/

namespace SemanticQuery.Dictionary

variable {cs rest part : List Char} {ps : List (List Char)}

/-! ### Parts -/

lemma tagParts_of_notMem (h : separator ∉ cs) : tagParts cs = [cs] := by
  induction cs with
  | nil => rfl
  | cons c cs ih =>
    rw [List.mem_cons, not_or] at h
    simp [tagParts, Ne.symm h.1, ih h.2]

lemma tagParts_append (h : separator ∉ cs) (rest : List Char) :
    tagParts (cs ++ separator :: rest) = cs :: tagParts rest := by
  induction cs with
  | nil => simp [tagParts]
  | cons c cs ih =>
    rw [List.mem_cons, not_or] at h
    simp [tagParts, Ne.symm h.1, ih h.2]

/-- Characters that may stand between the separators of a tag. -/
structure IsPart (cs : List Char) : Prop where
  ne_nil : cs ≠ []
  separator_notMem : separator ∉ cs
  /-- The part does not begin a mark of endings. -/
  head?_ne : cs.head? ≠ some 's'
  /-- The part does not end a mark of endings. -/
  getLast?_ne : cs.getLast? ≠ some 'x'

/-- The characters of a tag, from its parts. -/
def written (ps : List (List Char)) : List Char := ps.flatMap (separator :: ·)

@[simp] lemma written_cons (part : List Char) (ps : List (List Char)) :
    written (part :: ps) = separator :: (part ++ written ps) := by
  simp [written]

/-- The parts of a tag are found again. -/
lemma tagParts_written (hpart : IsPart part) (hps : ∀ p ∈ ps, IsPart p) :
    tagParts (part ++ written ps) = part :: ps := by
  induction ps generalizing part with
  | nil => simpa [written] using tagParts_of_notMem hpart.separator_notMem
  | cons next ps ih =>
    rw [List.forall_mem_cons] at hps
    rw [written_cons, tagParts_append hpart.separator_notMem, ih hps.1 hps.2]

/-- A tag ends with a character with which one of its parts ends. -/
lemma getLast?_written_ne {c : Char} (h : ∀ p ∈ ps, p ≠ [] ∧ p.getLast? ≠ some c) :
    (written ps).getLast? ≠ some c := by
  induction ps with
  | nil => simp [written]
  | cons part ps ih =>
    rw [List.forall_mem_cons] at h
    obtain ⟨⟨hne, hlast⟩, hps⟩ := h
    have hpart : (separator :: part).getLast? = part.getLast? := by
      rw [List.getLast?_cons, List.getLast?_eq_some_getLast hne]
      rfl
    rw [written_cons, ← List.cons_append, List.getLast?_append, hpart]
    cases hrest : (written ps).getLast? with
    | none => exact hlast
    | some d =>
      rw [← hrest]
      simpa [hrest] using ih hps

/-! ### Marks of endings -/

lemma dropEnding?_append (ending cs : List Char) : dropEnding? ending (cs ++ ending) = some cs := by
  simp [dropEnding?]

lemma isSuffixOf_eq_false {ending : List Char} {c : Char} (hending : ending.getLast? = some c)
    (h : cs.getLast? ≠ some c) : ending.isSuffixOf cs = false := by
  rw [Bool.eq_false_iff]
  intro hsuffix
  obtain ⟨front, rfl⟩ := List.isSuffixOf_iff_suffix.mp hsuffix
  simp [List.getLast?_append, hending] at h

lemma dropMarks_append (h : separator ∉ cs) (rest : List Char) :
    dropMarks (cs ++ rest) = cs ++ dropMarks rest := by
  induction cs with
  | nil => rfl
  | cons c cs ih =>
    rw [List.mem_cons, not_or] at h
    have hstep : dropMarks (c :: (cs ++ rest)) = c :: dropMarks (cs ++ rest) := by
      rw [dropMarks]
      rintro rest rfl
      exact absurd rfl h.1
    rw [List.cons_append, hstep, ih h.2, List.cons_append]

lemma dropMarks_separator (h : rest.head? ≠ some 's') :
    dropMarks (separator :: rest) = separator :: dropMarks rest := by
  rw [dropMarks]
  rintro tail - rfl
  exact h rfl

/-- No mark of endings begins in a tag that is made of parts. -/
lemma dropMarks_written (hps : ∀ p ∈ ps, IsPart p) (rest : List Char) :
    dropMarks (written ps ++ rest) = written ps ++ dropMarks rest := by
  induction ps with
  | nil => rfl
  | cons part ps ih =>
    rw [List.forall_mem_cons] at hps
    obtain ⟨hpart, hps⟩ := hps
    have hhead : (part ++ (written ps ++ rest)).head? ≠ some 's' := by
      rw [List.head?_append_of_ne_nil _ hpart.ne_nil]
      exact hpart.head?_ne
    rw [written_cons, List.cons_append, List.append_assoc, dropMarks_separator hhead,
      dropMarks_append hpart.separator_notMem, ih hps, List.cons_append, List.append_assoc]

/-! ### Reading -/

lemma ofBody_written (suffix : Bool) (hpart : IsPart part) (hps : ∀ p ∈ ps, IsPart p) :
    Tag.ofBody suffix (written (part :: ps)) =
      ⟨Number.readInteger part, ps.head?.bind Number.readInteger,
        Tag.kindOf (Number.readInteger part) (ps.head?.bind Number.readInteger)
          (part :: ps), suffix⟩ := by
  rw [written_cons]
  change Tag.ofBody suffix ('_' :: (part ++ written ps)) = _
  rw [Tag.ofBody, tagParts_written hpart hps]
  cases ps <;> rfl

/-- The characters of an id. -/
def idChars (id : Int64) : List Char := (toString id.toInt).toList

lemma isPart_idChars (id : Int64) : IsPart (idChars id) where
  ne_nil := Number.toString_ne_nil id.toInt
  separator_notMem := Number.not_mem_toString id.toInt rfl (by decide)
  head?_ne h := Number.not_mem_toString id.toInt rfl (by decide) (List.mem_of_mem_head? h)
  getLast?_ne h := Number.not_mem_toString id.toInt rfl (by decide) (List.mem_of_getLast? h)

lemma getLast?_idChars_ne (id : Int64) {c : Char} (hdigit : c.isDigit = false) (hminus : c ≠ '-') :
    (idChars id).getLast? ≠ some c :=
  fun h => Number.not_mem_toString id.toInt hdigit hminus (List.mem_of_getLast? h)

lemma readInteger_idChars (id : Int64) : Number.readInteger (idChars id) = some id.toInt :=
  Number.readInteger_toString id

/-- What may stand behind the ids of an element. -/
inductive Marker where
  | metric | dimension | entity | tag
  deriving DecidableEq

namespace Marker

/-- The word that is written for a marker. -/
def word : Marker → String
  | .metric => "metric"
  | .dimension => "dimension"
  | .entity => "entity"
  | .tag => "tag"

/-- The kind of a term with a marker. -/
def kind : Marker → WordKind
  | .metric => .metric
  | .dimension => .dimension
  | .entity => .entity
  | .tag => .tag

lemma isPart_word (marker : Marker) : IsPart marker.word.toList := by
  cases marker <;> exact ⟨by decide, by decide, by decide, by decide⟩

lemma ofWord_word (marker : Marker) : WordKind.ofWord marker.word.toList = marker.kind := by
  cases marker <;> rfl

lemma getLast?_word_ne {marker : Marker} (h : marker ≠ .entity) :
    marker.word.toList.getLast? ≠ some 'y' := by
  cases marker with
  | entity => exact absurd rfl h
  | metric | dimension | tag => decide

end Marker

/-- What a tag of the convention is written for, by its ids. -/
inductive Subject where
  | model (m : Int64)
  /-- A model, with the word `model` behind its id. -/
  | markedModel (m : Int64)
  /-- A value of the dimension `e`. -/
  | value (m e : Int64)
  | element (m e : Int64) (marker : Marker)

namespace Subject

/-- The tag that is written for a subject. -/
def text : Subject → String
  | .model m => "_" ++ toString m.toInt
  | .markedModel m => "_" ++ toString m.toInt ++ "_model"
  | .value m e => "_" ++ toString m.toInt ++ "_" ++ toString e.toInt
  | .element m e marker =>
    "_" ++ toString m.toInt ++ "_" ++ toString e.toInt ++ "_" ++ marker.word

/-- What a tag of a subject says. -/
def tag : Subject → Tag
  | .model m => ⟨some m.toInt, none, .model, false⟩
  | .markedModel m => ⟨some m.toInt, none, .model, false⟩
  | .value m e => ⟨some m.toInt, some e.toInt, .value, false⟩
  | .element m e marker => ⟨some m.toInt, some e.toInt, marker.kind, false⟩

/-- The model of a subject. -/
def modelId : Subject → Int64
  | .model m => m
  | .markedModel m => m
  | .value m _ => m
  | .element m _ _ => m

/-- What stands behind the model in a tag of a subject. -/
def details : Subject → List (List Char)
  | .model _ => []
  | .markedModel _ => ["model".toList]
  | .value _ e => [idChars e]
  | .element _ e marker => [idChars e, marker.word.toList]

/-- The parts of a tag of a subject. -/
def parts (s : Subject) : List (List Char) := idChars s.modelId :: s.details

lemma toList_text (s : Subject) : s.text.toList = written s.parts := by
  cases s <;>
    simp [text, parts, modelId, details, idChars, written, separator, String.toList_append]

lemma isPart_of_mem_details {s : Subject} : ∀ p ∈ s.details, IsPart p := by
  cases s with
  | model m => simp [details]
  | markedModel m =>
    simp only [details, List.forall_mem_singleton]
    exact ⟨by decide, by decide, by decide, by decide⟩
  | value m e => simp [details, isPart_idChars]
  | element m e marker => simp [details, isPart_idChars, marker.isPart_word]

lemma isPart_of_mem {s : Subject} : ∀ p ∈ s.parts, IsPart p :=
  List.forall_mem_cons.mpr ⟨isPart_idChars _, isPart_of_mem_details⟩

/-- What ends no part of a subject's tag does not end the tag. -/
lemma getLast?_text_ne {s : Subject} {c : Char} (h : ∀ p ∈ s.parts, p.getLast? ≠ some c) :
    s.text.toList.getLast? ≠ some c := by
  rw [toList_text]
  exact getLast?_written_ne fun p hp => ⟨(isPart_of_mem p hp).ne_nil, h p hp⟩

lemma ofBody_text (s : Subject) (suffix : Bool) :
    Tag.ofBody suffix s.text.toList = { s.tag with suffix } := by
  have hmodel : Number.readInteger "model".toList = none := rfl
  have hkind : WordKind.ofWord "model".toList = .model := rfl
  rw [toList_text, parts, ofBody_written suffix (isPart_idChars _) isPart_of_mem_details,
    readInteger_idChars]
  cases s with
  | model m => rfl
  | markedModel m =>
    rw [details, List.head?_cons, Option.bind_some, hmodel, Tag.kindOf, hkind]
    rfl
  | value m e =>
    rw [details, List.head?_cons, Option.bind_some, readInteger_idChars]
    rfl
  | element m e marker =>
    rw [details, List.head?_cons, Option.bind_some, readInteger_idChars, Tag.kindOf,
      marker.ofWord_word]
    rfl

/-- A tag of a subject does not bear the mark of endings. -/
lemma dropEnding?_text (s : Subject) : dropEnding? suffixMark s.text.toList = none := by
  have hlast : s.text.toList.getLast? ≠ some 'x' :=
    getLast?_text_ne fun p hp => (isPart_of_mem p hp).getLast?_ne
  rw [dropEnding?, isSuffixOf_eq_false rfl hlast]
  rfl

lemma read_text (s : Subject) : Tag.read s.text = s.tag := by
  rw [Tag.read, dropEnding?_text]
  exact (s.ofBody_text false).trans (by cases s <;> rfl)

lemma toList_text_append (s : Subject) :
    (s.text ++ "_suffix").toList = s.text.toList ++ suffixMark :=
  String.toList_append

lemma read_text_append (s : Subject) :
    Tag.read (s.text ++ "_suffix") = { s.tag with suffix := true } := by
  rw [Tag.read, toList_text_append, dropEnding?_append]
  exact s.ofBody_text true

lemma withoutMarks_text_append (s : Subject) : withoutMarks (s.text ++ "_suffix") = s.text := by
  have hmark : dropMarks suffixMark = [] := rfl
  rw [withoutMarks, toList_text_append, toList_text, dropMarks_written isPart_of_mem, hmark,
    List.append_nil, ← toList_text, String.ofList_toList]

lemma isEntity_text_eq_false {s : Subject} (h : ∀ p ∈ s.details, p.getLast? ≠ some 'y') :
    isEntity s.text = false := by
  refine isSuffixOf_eq_false (c := 'y') rfl (getLast?_text_ne ?_)
  exact List.forall_mem_cons.mpr ⟨getLast?_idChars_ne _ rfl (by decide), h⟩

lemma isEntity_text_iff (s : Subject) : isEntity s.text = true ↔ s.tag.kind = .entity := by
  cases s with
  | model m | markedModel m =>
    rw [isEntity_text_eq_false (by simp [details])]
    simp [tag]
  | value m e =>
    rw [isEntity_text_eq_false (by simp [details, getLast?_idChars_ne])]
    simp [tag]
  | element m e marker =>
    by_cases hmarker : marker = .entity
    · subst hmarker
      have hentity : isEntity (Subject.element m e .entity).text = true := by
        rw [isEntity, List.isSuffixOf_iff_suffix, text, String.toList_append]
        exact List.suffix_append _ _
      simp [hentity, tag, Marker.kind]
    · rw [isEntity_text_eq_false
        (by simp [details, getLast?_idChars_ne, Marker.getLast?_word_ne hmarker])]
      cases marker <;> simp_all [tag, Marker.kind]

lemma model_tag (s : Subject) : s.tag.model = some s.modelId.toInt := by cases s <;> rfl

/-- A tag of a subject, which may bear the mark of endings. -/
def marked (s : Subject) (suffix : Bool) : String := if suffix then s.text ++ "_suffix" else s.text

lemma model_read_marked (s : Subject) (suffix : Bool) :
    (Tag.read (s.marked suffix)).model = some s.modelId.toInt := by
  cases suffix with
  | false => exact (congrArg Tag.model s.read_text).trans s.model_tag
  | true => exact (congrArg Tag.model s.read_text_append).trans s.model_tag

lemma belongsToAny_marked_iff {tagged : List (Subject × Bool)} {models : List Int} :
    belongsToAny (tagged.map fun t => t.1.marked t.2) models = true ↔
      ∃ t ∈ tagged, t.1.modelId.toInt ∈ models := by
  rw [belongsToAny, List.any_map, List.any_eq_true]
  simp only [Function.comp_apply, model_read_marked, List.contains_iff_mem]

end Subject

/-- The convention for tags. The tag of a subject says what the subject is. The mark of endings adds
that it stands there, and is taken away again; a tag without it names an entity where the subject
does. Some of the tags belong to one of the models where one of the subjects does. -/
theorem read_convention (s : Subject) (tagged : List (Subject × Bool)) (models : List Int) :
    Tag.read s.text = s.tag ∧
    Tag.read (s.text ++ "_suffix") = { s.tag with suffix := true } ∧
    withoutMarks (s.text ++ "_suffix") = s.text ∧
    (isEntity s.text = true ↔ s.tag.kind = .entity) ∧
    (belongsToAny (tagged.map fun t => t.1.marked t.2) models = true ↔
      ∃ t ∈ tagged, t.1.modelId.toInt ∈ models) :=
  ⟨s.read_text, s.read_text_append, s.withoutMarks_text_append, s.isEntity_text_iff,
    Subject.belongsToAny_marked_iff⟩

example : Tag.read "_-3_40_metric_suffix" = ⟨some (-3), some 40, .metric, true⟩ := by decide

end SemanticQuery.Dictionary
