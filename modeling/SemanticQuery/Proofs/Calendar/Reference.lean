import SemanticQuery.Proofs.Calendar.Date
import SemanticQuery.Proofs.Correction.Pass

/-!
# Canonical dates

Of the forms in which a date can be written the printed one is the canonical one. It is its own
canonical form, whatever the year, so a reference date may be passed on as often as one likes: every
source gives a canonical date, and the default condition compares with it.
-/

namespace SemanticQuery.Calendar

open Correction Sql

variable {text text' date date' : String} {d d' : Date}

/-! ### Canonical forms -/

lemma Date.Denotes.isValid (h : Denotes text d) : d.isValid = true := by
  cases h
  assumption

/-- Dates of the calendar that are printed alike are the same. -/
lemma Date.print_inj (h : d.isValid = true) (h' : d'.isValid = true) :
    d.print = d'.print ↔ d = d' := by
  constructor
  · intro heq
    have hprint := denotes_print h
    rw [heq] at hprint
    exact hprint.unique (denotes_print h')
  · rintro rfl
    rfl

lemma canonicalDate_eq_some_iff :
    canonicalDate text = some date ↔ ∃ d, Date.Denotes text d ∧ d.print = date := by
  simp only [canonicalDate, Option.map_eq_some_iff, Date.read?_eq_some_iff]

lemma canonicalDate_print (h : d.isValid = true) : canonicalDate d.print = some d.print :=
  canonicalDate_eq_some_iff.mpr ⟨d, Date.denotes_print h, rfl⟩

lemma canonicalDate_canonicalDate (h : canonicalDate text = some date) :
    canonicalDate date = some date := by
  obtain ⟨d, hd, rfl⟩ := canonicalDate_eq_some_iff.mp h
  exact canonicalDate_print hd.isValid

lemma canonicalDate_eq_iff (h : canonicalDate text = some date)
    (h' : canonicalDate text' = some date') :
    date = date' ↔ ∃ d, Date.Denotes text d ∧ Date.Denotes text' d := by
  obtain ⟨d, hd, rfl⟩ := canonicalDate_eq_some_iff.mp h
  obtain ⟨d', hd', rfl⟩ := canonicalDate_eq_some_iff.mp h'
  rw [Date.print_inj hd.isValid hd'.isValid]
  constructor
  · rintro rfl
    exact ⟨d, hd, hd'⟩
  · rintro ⟨both, hboth, hboth'⟩
    rw [hd.unique hboth, hd'.unique hboth']

/-! ### Sources -/

/-- A source gives dates of the calendar as they are printed. -/
lemma ReferenceDates.exists_print_of_resolve {source : ReferenceDates} {models : List Int}
    (h : source.resolve models = some date) : ∃ d : Date, d.isValid = true ∧ d.print = date := by
  cases source with
  | fixed dates fallback =>
    obtain ⟨text, -, htext⟩ := Option.bind_eq_some_iff.mp h
    obtain ⟨d, hd, hprint⟩ := canonicalDate_eq_some_iff.mp htext
    exact ⟨d, hd.isValid, hprint⟩
  | relative today daysBack =>
    obtain ⟨d, hd, hprint⟩ := Option.map_eq_some_iff.mp h
    refine ⟨d, ?_, hprint⟩
    unfold Date.daysBefore at hd
    dsimp only at hd
    split at hd
    next hvalid => rwa [← Option.some.inj hd]
    next => simp at hd

/-! ### The default condition -/

/-- The first pass compares the day with the canonical date, unless the condition mentions a
time. -/
lemma change_dateDefault {c : Config} {r : Request} {s : Statement}
    (hdate : r.date.bind canonicalDate = some date) (hs : s.selection?.isSome = true)
    (htimes : c.timeDimensions.containsAny s.conditionColumns = false) :
    Pass.dateDefault.change c r s =
      .ok (some (s.withCondition
        (some (alsoHolds s.condition? (.columnIs c.timeDimensions.day date))))) := by
  rw [Pass.change, addDate_eq hs, dateCondition?, htimes, hdate]
  rfl

/-- Canonical dates. A text has a canonical date where it denotes a date at all. The canonical date
is its own canonical date, so with either of the two the first pass adds the condition that the day
is this date; and two texts have the same canonical date exactly where they denote the same date.
All that a source gives is canonical. -/
theorem canonicalDate_canonical :
    (∀ text, (canonicalDate text).isSome = true ↔ ∃ d, Date.Denotes text d) ∧
      (∀ text date, canonicalDate text = some date →
        canonicalDate date = some date ∧
          ∀ (c : Config) (r : Request) (s : Statement), r.date = some text ∨ r.date = some date →
            s.selection?.isSome = true →
            c.timeDimensions.containsAny s.conditionColumns = false →
            Pass.dateDefault.change c r s =
              .ok (some (s.withCondition
                (some (alsoHolds s.condition? (.columnIs c.timeDimensions.day date)))))) ∧
      (∀ text text' date date', canonicalDate text = some date →
        canonicalDate text' = some date' →
        (date = date' ↔ ∃ d, Date.Denotes text d ∧ Date.Denotes text' d)) ∧
      ∀ (source : ReferenceDates) models date, source.resolve models = some date →
        canonicalDate date = some date := by
  refine ⟨fun text => ?_, fun text date h => ?_, fun _ _ _ _ h h' => canonicalDate_eq_iff h h',
    fun source models date h => ?_⟩
  · simp only [Option.isSome_iff_exists, canonicalDate_eq_some_iff]
    exact ⟨fun ⟨_, d, hd, _⟩ => ⟨d, hd⟩, fun ⟨d, hd⟩ => ⟨_, d, hd, rfl⟩⟩
  · have hcanonical := canonicalDate_canonicalDate h
    refine ⟨hcanonical, fun c r s hdate hs htimes => change_dateDefault ?_ hs htimes⟩
    rcases hdate with hdate | hdate <;> rw [hdate]
    · exact h
    · exact hcanonical
  · obtain ⟨d, hvalid, rfl⟩ := source.exists_print_of_resolve h
    exact canonicalDate_print hvalid

/-- A leap day after the year 9999, written in two ways, and the day before the year zero. -/
theorem canonicalDate_canonical_signed :
    let s := Statement.ofCondition none
    let r : Request := { requestFor "u" "v" with date := some "+12024-02-29" }
    let dated := s.withCondition (some (.columnIs "数据日期" "+12024-02-29"))
    canonicalDate " +12024-2- 29" = some "+12024-02-29" ∧
      canonicalDate "+012024-02-29" = some "+12024-02-29" ∧
      (∃ d, Date.Denotes " +12024-2- 29" d ∧ Date.Denotes "+012024-02-29" d) ∧
      canonicalDate "+12024-02-29" = some "+12024-02-29" ∧
      Pass.dateDefault.change .standard r s = .ok (some dated) ∧
      (ReferenceDates.relative ⟨0, 1, 1⟩ 1).resolve [] = some "-0001-12-31" ∧
      canonicalDate "-0001-12-31" = some "-0001-12-31" := by
  intro s r dated
  obtain ⟨-, hpass, hsame, hsource⟩ := canonicalDate_canonical
  have hspaced : canonicalDate " +12024-2- 29" = some "+12024-02-29" := by decide +kernel
  have hpadded : canonicalDate "+012024-02-29" = some "+12024-02-29" := by decide +kernel
  have hbefore : (ReferenceDates.relative ⟨0, 1, 1⟩ 1).resolve [] = some "-0001-12-31" := by
    decide +kernel
  obtain ⟨hcanonical, hchange⟩ := hpass _ _ hspaced
  exact ⟨hspaced, hpadded, (hsame _ _ _ _ hspaced hpadded).mp rfl, hcanonical,
    hchange .standard r s (.inr rfl) rfl (by decide +kernel), hbefore, hsource _ _ _ hbefore⟩

end SemanticQuery.Calendar
