import SemanticQuery.Candidate
import SemanticQuery.Config
import SemanticQuery.Pattern.Reader
import SemanticQuery.Pattern.Search
import SemanticQuery.Plugin.Basic
import SemanticQuery.Text.Case

/-!
# Recall

The plugin whose trigger covers most of a text: its longest keyword that occurs there, or its
longest match of a pattern. Of equal plugins the first is recalled.
-/

namespace SemanticQuery

open Number

/-- What is known about a request. -/
structure QueryContext where
  text : String
  tenant : Option Int
  /-- The requested models in ascending order; none stand for all. -/
  models : List Int
  /-- What was found in the text, by model. -/
  elementMatches : List (Int × List ElementMatch)
  filters : List Filter
  candidates : List Candidate

namespace QueryContext

/-- The number of characters of the text. -/
def length (ctx : QueryContext) : Nat := ctx.text.length

/-- What was found for a model. -/
def matchesFor (ctx : QueryContext) (model : Int) : List ElementMatch :=
  (ctx.elementMatches.lookup model).getD []

end QueryContext

/-! ### Triggers -/

/-- The greatest of some lengths, zero if there are none. -/
def longest (lengths : List Nat) : Nat := lengths.foldl max 0

/-- Whether a text occurs in another. -/
def occursIn (part : List Char) : List Char → Bool
  | [] => part.isEmpty
  | c :: cs => part.isPrefixOf (c :: cs) || occursIn part cs

/-- What triggers a plugin. -/
inductive Trigger where
  | keyword (word : String)
  | pattern (tree : Pattern.Tree)

/-- The length that a trigger covers in a text. Case does not count for keywords, and an empty one
is no trigger. -/
def Trigger.hit (text : String) : Trigger → Nat
  | .keyword word =>
    let w := Text.lowerChars word.toList
    if !w.isEmpty && occursIn w (Text.lowerChars text.toList) then w.length else 0
  | .pattern tree => (tree.matchLength? text).getD 0

/-- Plugins with their triggers. -/
abbrev Recaller : Type := List (Plugin × List Trigger)

/-- The triggers of the patterns of a plugin. -/
def Plugin.patternTriggers (p : Plugin) : Except Failure (List Trigger) :=
  p.patterns.mapM fun text =>
    match Pattern.Tree.read? text with
    | some tree => .ok (.pattern tree)
    | none => .error (.config (.pattern text (toString p.id)))

/-- The plugins with the triggers of a strategy. -/
def Recaller.ofPlugins (strategy : RecallStrategy) (plugins : List Plugin) :
    Except Failure Recaller :=
  match strategy with
  | .keyword => .ok (plugins.map fun p => (p, p.keywords.map .keyword))
  | .pattern => plugins.mapM fun p => do return (p, ← p.patternTriggers)

/-! ### Choice -/

/-- A recalled plugin. -/
structure Recalled where
  plugin : Plugin
  /-- The models that it answers for; none if it is bound to no particular one. -/
  models : List Int
  /-- The number of characters that its trigger covers. -/
  score : Nat

namespace Recaller

/-- The better of the best plugin so far and the next one. -/
def better (requested : List Int) (text : String) (best : Option Recalled)
    (next : Plugin × List Trigger) : Option Recalled :=
  let length := longest (next.2.map (Trigger.hit text))
  if length == 0 then best
  else
    match next.1.eligibleModels requested with
    | none => best
    | some models =>
      match best with
      | none => some ⟨next.1, models, length⟩
      | some b => if b.score < length then some ⟨next.1, models, length⟩ else some b

/-- The plugin that a request recalls. -/
def choose (r : Recaller) (ctx : QueryContext) : Option Recalled :=
  r.foldl (better ctx.models ctx.text) none

/-- Whether it is worth while to ask: there is a text, and something that could be triggered. -/
def isReady (r : Recaller) (ctx : QueryContext) : Bool :=
  !Text.isBlankText ctx.text && r.any fun (_, triggers) => !triggers.isEmpty

end Recaller

/-- The number of characters that the trigger leaves uncovered. -/
def Recalled.distance (r : Recalled) (ctx : QueryContext) : Nat := ctx.length - r.score

end SemanticQuery
