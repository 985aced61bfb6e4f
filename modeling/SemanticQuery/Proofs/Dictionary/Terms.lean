import Mathlib.Data.String.Basic
import SemanticQuery.Dictionary.Index
import SemanticQuery.Proofs.Dictionary.TermMap

/-!
# Dictionaries as maps

A dictionary told by finite maps: one for the terms of everyone, one for reversed endings and one for
each tenant. The changes and look-ups of an index are told here without tries, and so are its runs.
-/

namespace SemanticQuery.Dictionary

/-- The terms of a dictionary. -/
structure Terms where
  everyone : TermMap
  /-- The reversed terms that are found by their endings. -/
  endings : TermMap
  ofTenant : Int → TermMap

namespace Terms

/-! ### Changes -/

/-- No terms. -/
def empty : Terms := ⟨∅, ∅, fun _ => ∅⟩

/-- The terms with more tags for one of them. -/
def insert (d : Terms) (term : String) (tenant : Option Int) (tags : List String) : Terms :=
  match tenant with
  | none => { d with everyone := d.everyone.add (keyOf term) tags }
  | some id =>
    if id = 0 then { d with everyone := d.everyone.add (keyOf term) tags }
    else if id < 0 then d
    else
      { d with ofTenant := Function.update d.ofTenant id ((d.ofTenant id).add (keyOf term) tags) }

/-- The terms with more tags for a reversed one. -/
def insertSuffix (d : Terms) (reversedTerm : String) (tags : List String) : Terms :=
  { d with endings := d.endings.add (keyOf reversedTerm) tags }

/-- The terms in which one has the retained tags only. -/
def remove (d : Terms) (term : String) (retained : List String) : Terms :=
  let key := keyOf term
  let others : TermMap := d.everyone.erase key
  { d with
    everyone := if retained = [] then others else others.add key retained
    endings :=
      if namesMetricOrDimension (d.everyone.tagsOf key) then d.endings.erase key.reverse
      else d.endings }

section

variable (d : Terms) (term : String) (tenant : Option Int) (tags : List String)

lemma everyone_insert :
    (d.insert term tenant tags).everyone =
      if tenant.getD 0 = 0 then d.everyone.add (keyOf term) tags else d.everyone := by
  cases tenant with
  | none => rfl
  | some id =>
    rw [insert, Option.getD_some]
    split_ifs <;> rfl

lemma ofTenant_insert (id : Int) :
    (d.insert term tenant tags).ofTenant id =
      if 0 < id ∧ tenant.getD 0 = id then (d.ofTenant id).add (keyOf term) tags
      else d.ofTenant id := by
  cases tenant with
  | none => simp +contextual [insert, Int.ne_of_lt]
  | some other =>
    rw [insert, Option.getD_some]
    split_ifs with hzero hid hneg hid hid
    · omega
    · rfl
    · omega
    · rfl
    · obtain ⟨-, rfl⟩ := hid
      exact Function.update_self ..
    · exact Function.update_of_ne (by omega) _ _

@[simp] lemma endings_insert : (d.insert term tenant tags).endings = d.endings := by
  cases tenant with
  | none => rfl
  | some id =>
    rw [insert]
    split_ifs <;> rfl

end

/-! ### Look-ups -/

/-- The terms that begin with a text. Those of the tenant count where everyone has none. -/
def lookupPrefix (d : Terms) (size : ℕ) (tenant : Int) (text : String) (limit : ℕ)
    (scope : Scope) : List Hit :=
  let start := keyOf text
  let terms :=
    if d.everyone.matching start scope.accepts = ∅ ∧ 0 < tenant then d.ofTenant tenant
    else d.everyone
  (terms.hits start limit size scope.accepts).map (Hit.ofEntry text)

/-- The terms that end with a text. -/
def lookupSuffix (d : Terms) (size : ℕ) (text : String) (limit : ℕ) (scope : Scope) : List Hit :=
  (d.endings.hits (keyOf (reversed text)) limit size scope.accepts).map (Hit.ofReversed text)

/-- The values of a dimension, in the order of their keys. -/
def dimensionValues (d : Terms) (model element : Int) : List String :=
  ((d.everyone.keys.sort (· ≤ ·)).filter fun key =>
    ∃ tag ∈ d.everyone.tagsOf key, (Tag.read tag).kind = .value ∧
      (Tag.read tag).model = some model ∧ (Tag.read tag).element = some element).map
    fun key => String.ofList (surfaceOf key)

end Terms

/-! ### Builders -/

/-- What a builder is given. -/
inductive Addition where
  | term (e : Entry)
  | ending (e : Entry)

/-- The builder with one more addition. -/
def Builder.give (b : Builder) : Addition → Builder
  | .term e => b.add e
  | .ending e => b.addSuffix e

/-- Terms in the making, with the reversed endings that are still to go in. -/
structure Draft where
  terms : Terms
  endings : TagMap String

namespace Draft

/-- The draft without additions. -/
def empty : Draft := ⟨.empty, ∅⟩

/-- The draft with one more addition. -/
def give (d : Draft) : Addition → Draft
  | .term e => { d with terms := d.terms.insert e.term e.tenant e.tags }
  | .ending e => { d with endings := d.endings.add (reversed e.term) e.tags }

/-- The terms. The endings go in one after the other in ascending order. -/
def build (d : Draft) : Terms :=
  (d.endings.keys.sort (· ≤ ·)).foldl
    (fun terms ending => terms.insertSuffix ending (d.endings.tagsOf ending)) d.terms

@[simp] lemma everyone_build (d : Draft) : d.build.everyone = d.terms.everyone :=
  List.foldlRecOn (motive := fun terms : Terms => terms.everyone = d.terms.everyone) _ _ rfl
    fun _ h _ _ => h

@[simp] lemma ofTenant_build (d : Draft) : d.build.ofTenant = d.terms.ofTenant :=
  List.foldlRecOn (motive := fun terms : Terms => terms.ofTenant = d.terms.ofTenant) _ _ rfl
    fun _ h _ _ => h

end Draft

/-- The additions that a document makes. -/
def Entries.additions (es : Entries) : List Addition :=
  es.forward.map .term ++ es.suffixes.map .ending

/-! ### Runs -/

/-- A step of those who use an index. -/
inductive Op where
  | insert (term : String) (tenant : Option Int) (tags : List String)
  | insertSuffix (reversedTerm : String) (tags : List String)
  | remove (term : String) (retained : List String)
  | clear
  /-- A new state from what a builder is given. -/
  | rebuild (additions : List Addition)
  /-- A new state from a document. -/
  | reload (text : String)
  | lookupPrefix (tenant : Int) (text : String) (limit : ℕ) (scope : Scope)
  | lookupSuffix (text : String) (limit : ℕ) (scope : Scope)

namespace Index

/-- The index after a step. A document that does not load leaves it as it is. -/
def step (i : Index) : Op → Index
  | .insert term tenant tags => i.insert term tenant tags
  | .insertSuffix reversedTerm tags => i.insertSuffix reversedTerm tags
  | .remove term retained => i.remove term retained
  | .clear => i.clear
  | .rebuild additions => i.publish (additions.foldl Builder.give .empty).build
  | .reload text => (i.reload text).toOption.getD i
  | .lookupPrefix tenant text limit scope => (i.lookupPrefix tenant text limit scope).2
  | .lookupSuffix .. => i

/-- The index after steps. -/
def run (i : Index) (ops : List Op) : Index := ops.foldl step i

end Index

namespace Terms

/-- The terms after a step. -/
def step (d : Terms) : Op → Terms
  | .insert term tenant tags => d.insert term tenant tags
  | .insertSuffix reversedTerm tags => d.insertSuffix reversedTerm tags
  | .remove term retained => d.remove term retained
  | .clear => empty
  | .rebuild additions => (additions.foldl Draft.give .empty).build
  | .reload text =>
    match Entries.load text with
    | .ok es => (es.additions.foldl Draft.give .empty).build
    | .error _ => d
  | .lookupPrefix .. | .lookupSuffix .. => d

/-- The terms after steps. -/
def run (d : Terms) (ops : List Op) : Terms := ops.foldl step d

end Terms

end SemanticQuery.Dictionary
