import Mathlib.Data.String.Basic
import SemanticQuery.Plugin.Fields
import SemanticQuery.Proofs.Occurrence
import SemanticQuery.Proofs.SortedMap
import SemanticQuery.Proofs.Sql.Parser.Reading
import SemanticQuery.Proofs.Sql.Predicate

/-!
# What the fields of a query stand for

Candidates get the fields of the first query that was generated for a request, or stay as they are.
A field stands for the element that it names, by display name rather than by business name and by
business name rather than by alias; fields that name no element are dropped.
-/

namespace SemanticQuery

variable {elements : List Element} {field key : String} {e : Element}

/-! ### Names of elements -/

/-- The element that a field names. -/
inductive NamesElement (elements : List Element) (field : String) (e : Element) : Prop
  | name : IsFirstWith (·.name = field) elements e → NamesElement elements field e
  | bizName : (∀ e' ∈ elements, e'.name ≠ field) →
      IsFirstWith (·.bizName = field) elements e → NamesElement elements field e
  | alias : (∀ e' ∈ elements, e'.name ≠ field) → (∀ e' ∈ elements, e'.bizName ≠ field) →
      IsFirstWith (field ∈ ·.aliases) elements e → NamesElement elements field e

lemma resolveField_eq_some_iff :
    resolveField elements field = some e ↔ NamesElement elements field e := by
  have hname : elements.find? (·.name == field) = some e ↔
      IsFirstWith (·.name = field) elements e :=
    find?_eq_some_iff_isFirstWith fun _ => beq_iff_eq
  have hbizName : elements.find? (·.bizName == field) = some e ↔
      IsFirstWith (·.bizName = field) elements e :=
    find?_eq_some_iff_isFirstWith fun _ => beq_iff_eq
  have halias : elements.find? (·.aliases.contains field) = some e ↔
      IsFirstWith (field ∈ ·.aliases) elements e :=
    find?_eq_some_iff_isFirstWith fun _ => List.contains_iff_mem
  rw [resolveField, Option.or_eq_some_iff, Option.or_eq_some_iff, hname, hbizName, halias]
  simp only [List.find?_eq_none, beq_iff_eq]
  constructor
  · rintro (h | ⟨hnoName, h | ⟨hnoBizName, h⟩⟩)
    · exact .name h
    · exact .bizName hnoName h
    · exact .alias hnoName hnoBizName h
  · rintro (h | ⟨hnoName, h⟩ | ⟨hnoName, hnoBizName, h⟩)
    · exact .inl h
    · exact .inr ⟨hnoName, .inl h⟩
    · exact .inr ⟨hnoName, .inr ⟨hnoBizName, h⟩⟩

/-- A field stands for a business name: that of the element which it names. -/
def StandsFor (elements : List Element) (field key : String) : Prop :=
  ∃ e, NamesElement elements field e ∧ e.bizName = key

lemma map_resolveField_eq_some_iff :
    (resolveField elements field).map Element.bizName = some key ↔
      StandsFor elements field key := by
  simp only [Option.map_eq_some_iff, resolveField_eq_some_iff, StandsFor]

/-! ### Conditions -/

/-- An atom of a condition tells something of a business name. -/
def Tells (elements : List Element) (atom : Sql.Expr) (key value : String) : Prop :=
  ∃ p, atom.Says p ∧ StandsFor elements p.field key ∧ value = p.operator ++ " " ++ p.value

lemma said?_bind_eq_some_iff {atom : Sql.Expr} {value : String} :
    (atom.said?.bind fun p =>
      (resolveField elements p.field).map fun e =>
        (e.bizName, p.operator ++ " " ++ p.value)) = some (key, value) ↔
      Tells elements atom key value := by
  simp only [Option.bind_eq_some_iff, Sql.Expr.said?_eq_some_iff, Option.map_eq_some_iff,
    resolveField_eq_some_iff, Prod.mk.injEq]
  constructor
  · rintro ⟨p, hsays, e, he, hkey, hvalue⟩
    exact ⟨p, hsays, ⟨e, he, hkey⟩, hvalue.symm⟩
  · rintro ⟨p, hsays, ⟨e, he, hkey⟩, hvalue⟩
    exact ⟨p, hsays, e, he, hkey, hvalue.symm⟩

/-- What a condition says, by business name. -/
structure AreFilterFields (elements : List Element) (atoms : List Sql.Expr)
    (fields : List (String × String)) : Prop where
  isSorted : SortedMap.IsSorted fields
  /-- A name has what is told of it last. -/
  mem_iff : ∀ key value, (key, value) ∈ fields ↔
    ∃ before atom after, atoms = before ++ atom :: after ∧ Tells elements atom key value ∧
      ∀ later ∈ after, ∀ other, ¬Tells elements later key other
  /-- The names are those that something is told of. -/
  key_iff : ∀ key, (∃ value, (key, value) ∈ fields) ↔
    ∃ atom ∈ atoms, ∃ value, Tells elements atom key value

lemma areFilterFields_filterFields (elements : List Element) {s : Sql.Statement}
    {selection : Sql.Select} (h : s.selection? = some selection) :
    AreFilterFields elements selection.atoms (filterFields elements s) := by
  rw [filterFields, Sql.Statement.predicates_eq_filterMap h, List.filterMap_filterMap]
  refine ⟨SortedMap.isSorted_ofList _, fun key value => ?_, fun key => ?_⟩
  · rw [SortedMap.mem_ofList_filterMap_iff]
    simp only [said?_bind_eq_some_iff, ne_eq]
  · rw [SortedMap.exists_mem_ofList_iff]
    constructor
    · rintro ⟨⟨key, value⟩, hmem, rfl⟩
      obtain ⟨atom, hatom, hvalue⟩ := List.mem_filterMap.mp hmem
      exact ⟨atom, hatom, value, said?_bind_eq_some_iff.mp hvalue⟩
    · rintro ⟨atom, hatom, value, htells⟩
      exact ⟨(key, value),
        List.mem_filterMap.mpr ⟨atom, hatom, said?_bind_eq_some_iff.mpr htells⟩, rfl⟩

/-! ### Selected columns -/

/-- Business names in the order of the columns that stand for them. -/
inductive StandInOrder (elements : List Element) : List String → List String → Prop
  | nil : StandInOrder elements [] []
  | known {column key : String} {columns keys : List String} : StandsFor elements column key →
      StandInOrder elements columns keys → StandInOrder elements (column :: columns) (key :: keys)
  | unknown {column : String} {columns keys : List String} :
      (∀ key, ¬StandsFor elements column key) →
      StandInOrder elements columns keys → StandInOrder elements (column :: columns) keys

lemma standInOrder_filterMap (elements : List Element) (columns : List String) :
    StandInOrder elements columns
      (columns.filterMap fun c => (resolveField elements c).map Element.bizName) := by
  induction columns with
  | nil => exact .nil
  | cons column columns ih =>
    cases h : (resolveField elements column).map Element.bizName with
    | none =>
      simp only [List.filterMap_cons, h]
      refine .unknown (fun key hkey => ?_) ih
      rw [map_resolveField_eq_some_iff.mpr hkey] at h
      exact absurd h (Option.some_ne_none key)
    | some key =>
      simp only [List.filterMap_cons, h]
      exact .known (map_resolveField_eq_some_iff.mp h) ih

/-- The business names of the dimensions and metrics that a projection mentions, in the order in
which their columns first occur. -/
def AreSelectFields (elements : List Element) (projection : List Sql.SelectItem)
    (selected : List String) : Prop :=
  ∃ columns,
    IsFirstOccurrences ((projection.filterMap Sql.SelectItem.expr?).flatMap Sql.Expr.columns)
      columns ∧
    StandInOrder (elements.filter fun e => e.kind = .dimension ∨ e.kind = .metric) columns selected

lemma areSelectFields_selectFields (elements : List Element) {s : Sql.Statement}
    {selection : Sql.Select} (h : s.selection? = some selection) :
    AreSelectFields elements selection.projection (selectFields elements s) := by
  refine ⟨s.projectedColumns, ?_, ?_⟩
  · rw [Sql.Statement.projectedColumns, h]
    exact isFirstOccurrences_eraseDups _
  · have hpool : (elements.filter fun e => e.kind = .dimension ∨ e.kind = .metric) =
        elements.filter (·.kind.isSelectable) := by
      refine List.filter_congr fun e _ => ?_
      simp [ElementKind.isSelectable, Bool.beq_eq_decide_eq]
    rw [hpool]
    exact standInOrder_filterMap _ _

/-! ### The query that is read -/

/-- A candidate has a query whose fields stand for something: no plugin is named, the query is not
blank, and elements were found. -/
structure Candidate.HasFields (c : Candidate) : Prop where
  noPlugin : ∀ value, (pluginIdProperty, value) ∉ c.properties
  hasQuery : ∃ ch ∈ c.sql.raw.toList, Text.isBlank ch = false
  hasMatches : c.elementMatches ≠ []

lemma Candidate.isSource_iff (c : Candidate) : c.isSource = true ↔ c.HasFields := by
  have hproperties : (c.properties.lookup pluginIdProperty).isNone = true ↔
      ∀ value, (pluginIdProperty, value) ∉ c.properties := by
    rw [Option.isNone_iff_eq_none, List.lookup_eq_none_iff]
    constructor
    · intro h value hmem
      simpa using h _ hmem
    · rintro h ⟨key, value⟩ hmem
      refine bne_iff_ne.mpr ?_
      rintro rfl
      exact h value hmem
  have hquery : c.hasSql = true ↔ ∃ ch ∈ c.sql.raw.toList, Text.isBlank ch = false := by
    simp [hasSql, Text.isBlankText]
  have hmatches : (!c.elementMatches.isEmpty) = true ↔ c.elementMatches ≠ [] := by simp
  rw [isSource, Bool.and_eq_true, Bool.and_eq_true, hproperties, hquery, hmatches]
  constructor
  · rintro ⟨⟨hproperties, hquery⟩, hmatches⟩
    exact ⟨hproperties, hquery, hmatches⟩
  · rintro ⟨hproperties, hquery, hmatches⟩
    exact ⟨⟨hproperties, hquery⟩, hmatches⟩

/-- A text is one statement, and that is a plain selection. -/
def IsPlainSelection (text : String) (s : Sql.Statement) (selection : Sql.Select) : Prop :=
  Sql.Statement.read text = .ok s ∧ s.selection? = some selection

lemma readSelection_eq_ok_iff {text : String} {s : Sql.Statement} :
    Sql.Statement.readSelection text = .ok s ↔ ∃ selection, IsPlainSelection text s selection := by
  constructor
  · intro h
    obtain ⟨hread, hselection⟩ := Sql.Statement.read_of_readSelection h
    obtain ⟨selection, hselection⟩ := Option.isSome_iff_exists.mp hselection
    exact ⟨selection, hread, hselection⟩
  · rintro ⟨selection, hread, hselection⟩
    simp [Sql.Statement.readSelection, hread, hselection]

/-- The candidates stay as they are, or all get the fields of the first query. -/
theorem fillFields_all_or_nothing (earlier targets : List Candidate) :
    (fillFields earlier targets = targets ∧
      ((∀ c ∈ earlier, ¬c.HasFields) ∨
        ∃ source, IsFirstWith Candidate.HasFields earlier source ∧
          ¬∃ s selection, IsPlainSelection source.sql.raw s selection)) ∨
    ∃ source s selection filters selected,
      IsFirstWith Candidate.HasFields earlier source ∧
      IsPlainSelection source.sql.raw s selection ∧
      AreFilterFields (source.elementMatches.map ElementMatch.element) selection.atoms
        filters ∧
      AreSelectFields (source.elementMatches.map ElementMatch.element) selection.projection
        selected ∧
      fillFields earlier targets = targets.map fun c =>
        { c with sql := { c.sql with filterFields := filters, selectFields := selected } } := by
  unfold fillFields
  split
  next hnone =>
    refine .inl ⟨rfl, .inl fun c hc hfields => ?_⟩
    exact List.find?_eq_none.mp hnone c hc (c.isSource_iff.mpr hfields)
  next source hsource =>
    have hfirst : IsFirstWith Candidate.HasFields earlier source :=
      (find?_eq_some_iff_isFirstWith Candidate.isSource_iff).mp hsource
    split
    next failure hfailure =>
      refine .inl ⟨rfl, .inr ⟨source, hfirst, ?_⟩⟩
      rintro ⟨s, hs⟩
      rw [readSelection_eq_ok_iff.mpr hs] at hfailure
      simp at hfailure
    next s hs =>
      obtain ⟨selection, hplain⟩ := readSelection_eq_ok_iff.mp hs
      exact .inr ⟨source, s, selection, _, _, hfirst, hplain, areFilterFields_filterFields _ hplain.2,
        areSelectFields_selectFields _ hplain.2, rfl⟩

end SemanticQuery
