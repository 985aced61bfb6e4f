import Mathlib.Tactic.Common
import SemanticQuery.Proofs.Text.Blank
import SemanticQuery.Sql.Name

/-!
# Components of names

A qualified name is made of components with dots between them, each bare or in backticks. What
stands in backticks hides dots and other quotes from the search for the last component, so the
search ends at the component that was written last.
-/

namespace SemanticQuery.Sql.Name

variable {cs rest component : List Char}

/-! ### Components -/

/-- A character that may stand in a bare component. -/
structure IsPlain (c : Char) : Prop where
  ne_dot : c ≠ '.'
  ne_quote : c ≠ '"'
  ne_backtick : c ≠ '\x60'
  not_isBlank : Text.isBlank c = false

/-- A component of a qualified name. -/
inductive Component where
  | bare (text : String) (isPlain : ∀ c ∈ text.toList, IsPlain c)
  /-- A component in backticks, which hold anything but backticks. -/
  | quoted (content : String) (backtick_notMem : '\x60' ∉ content.toList)

namespace Component

/-- A component as it is written. -/
def text : Component → String
  | .bare text _ => text
  | .quoted content _ => "\x60" ++ content ++ "\x60"

/-- The name that a component spells. -/
def content : Component → String
  | .bare text _ => text
  | .quoted content _ => content

lemma toList_text_quoted (content : String) (h : '\x60' ∉ content.toList) :
    (quoted content h).text.toList = '\x60' :: (content.toList ++ ['\x60']) := by
  simp [text, String.toList_append]

end Component

/-- A qualified name, from its components. -/
def dotted (components : List Component) : String :=
  String.intercalate "." (components.map Component.text)

lemma toList_dotted_cons (c : Component) {components : List Component} (h : components ≠ []) :
    (dotted (c :: components)).toList = c.text.toList ++ '.' :: (dotted components).toList := by
  rw [dotted, List.map_cons, String.intercalate_cons_of_ne_nil (by simpa using h)]
  simp [dotted, String.toList_append]

/-! ### The last component -/

/-- Outside quotes, plain characters do not move the last component. -/
lemma lastFrom_plain (h : ∀ c ∈ cs, IsPlain c) :
    lastFrom none component (cs ++ rest) = lastFrom none component rest := by
  induction cs with
  | nil => rfl
  | cons c cs ih =>
    rw [List.forall_mem_cons] at h
    obtain ⟨hc, hcs⟩ := h
    simp [lastFrom, hc.ne_dot, hc.ne_quote, hc.ne_backtick, ih hcs]

/-- Between backticks, no character moves the last component. -/
lemma lastFrom_quoted (h : '\x60' ∉ cs) :
    lastFrom (some '\x60') component (cs ++ '\x60' :: rest) = lastFrom none component rest := by
  induction cs with
  | nil => rfl
  | cons c cs ih =>
    rw [List.mem_cons, not_or] at h
    simp [lastFrom, Ne.symm h.1, ih h.2]

lemma lastFrom_text (c : Component) :
    lastFrom none component (c.text.toList ++ rest) = lastFrom none component rest := by
  cases c with
  | bare text isPlain => exact lastFrom_plain isPlain
  | quoted content backtick_notMem =>
    rw [Component.toList_text_quoted, List.cons_append, List.append_assoc]
    exact lastFrom_quoted backtick_notMem

/-- The search ends at the component that was written last. -/
lemma lastFrom_dotted (qualifiers : List Component) (last : Component) :
    lastFrom none (dotted (qualifiers ++ [last])).toList (dotted (qualifiers ++ [last])).toList =
      last.text.toList := by
  induction qualifiers with
  | nil =>
    have hlast : dotted ([] ++ [last]) = last.text := by simp [dotted]
    have hscan : lastFrom none last.text.toList (last.text.toList ++ []) = last.text.toList :=
      lastFrom_text last
    rw [List.append_nil] at hscan
    rw [hlast, hscan]
  | cons c qualifiers ih =>
    have hdot : ∀ component tail, lastFrom none component ('.' :: tail) = lastFrom none tail tail :=
      fun _ _ => rfl
    rw [List.cons_append, toList_dotted_cons c (by simp), lastFrom_text, hdot]
    exact ih

lemma trimChars_text (c : Component) : Text.trimChars c.text.toList = c.text.toList := by
  have hends : (∀ a ∈ c.text.toList.head?, Text.isBlank a = false) ∧
      ∀ a ∈ c.text.toList.getLast?, Text.isBlank a = false := by
    cases c with
    | bare text isPlain =>
      exact ⟨fun a ha => (isPlain a (List.mem_of_mem_head? ha)).not_isBlank,
        fun a ha => (isPlain a (List.mem_of_mem_getLast? ha)).not_isBlank⟩
    | quoted content backtick_notMem =>
      rw [Component.toList_text_quoted, ← List.cons_append, List.getLast?_concat]
      simp [Text.isBlank]
  simpa using Text.trimChars_around Text.areBlanks_nil Text.areBlanks_nil hends.1 hends.2

lemma trim_text (c : Component) : Text.trim c.text = c.text := by
  rw [Text.trim, trimChars_text, String.ofList_toList]

/-! ### Names without their quotes -/

lemma between?_of_head? {q : Char} (h : cs.head? ≠ some q) : between? q cs = none := by
  cases cs with
  | nil => rfl
  | cons c cs =>
    have hne : c ≠ q := by simpa using h
    simp [between?, hne]

lemma between?_concat (q : Char) (cs : List Char) : between? q (q :: (cs ++ [q])) = some cs := by
  simp [between?]

lemma unquoted_text (c : Component) : unquoted c.text = c.content := by
  cases c with
  | bare text isPlain =>
    have hquote : between? '"' text.toList = none :=
      between?_of_head? fun h => (isPlain _ (List.mem_of_mem_head? h)).ne_quote rfl
    have hbacktick : between? '\x60' text.toList = none :=
      between?_of_head? fun h => (isPlain _ (List.mem_of_mem_head? h)).ne_backtick rfl
    simp [unquoted, Component.text, Component.content, hquote, hbacktick]
  | quoted content backtick_notMem =>
    have hquote : between? '"' ('\x60' :: (content.toList ++ ['\x60'])) = none :=
      between?_of_head? (by simp)
    rw [unquoted, Component.toList_text_quoted, hquote, between?_concat]
    exact String.ofList_toList

/-- The last component of a qualified name is found, whatever the components before it hold, and
compared by the name that it spells. -/
theorem lastComponent_dotted (qualifiers : List Component) (last : Component) :
    lastComponent (dotted (qualifiers ++ [last])) = last.text ∧
    normalized (lastComponent (dotted (qualifiers ++ [last]))) = Text.lower last.content := by
  have hlast : lastComponent (dotted (qualifiers ++ [last])) = last.text := by
    rw [lastComponent, lastFrom_dotted, trimChars_text, String.ofList_toList]
  refine ⟨hlast, ?_⟩
  rw [hlast, normalized, trim_text, unquoted_text]

example : lastComponent "\x60my.\"db\x60.\x60a fn\x60" = "\x60a fn\x60" := by decide

end SemanticQuery.Sql.Name
