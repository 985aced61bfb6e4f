import SemanticQuery.CommandLine.Summary

/-!
# Calls

What the arguments of the program ask for. They are read from left to right: the first one that
cannot stand where it stands makes the call void, and the first one that asks for a summary ends
the reading with it.
-/

namespace SemanticQuery.CommandLine

/-! ### Arguments -/

/-- The forms of an argument. -/
inductive Argument where
  /-- Two hyphens, behind which no option stands. -/
  | escape
  /-- An option, with its value if there is an equals sign. -/
  | long (name : String) (value : Option String)
  /-- Letters behind one hyphen. -/
  | short (letters : List Char)
  /-- Anything else. -/
  | word

namespace Argument

/-- The form of an argument. -/
def read (arg : String) : Argument :=
  match arg.toList with
  | ['-', '-'] => .escape
  | '-' :: '-' :: body =>
    let name := String.ofList (body.takeWhile (· != '='))
    match body.dropWhile (· != '=') with
    | [] => .long name none
    | _ :: value => .long name (some (String.ofList value))
  | '-' :: c :: cs => .short (c :: cs)
  | _ => .word

/-- Whether an argument is the value of the option before it. -/
def isValueOf (o : OptionSpec) : Argument → Bool
  | .word => true
  | .short letters => o.takesNegative && letters.all Char.isDigit
  | _ => false

end Argument

/-! ### Options -/

/-- Why the arguments do not lead to a task. -/
inductive Stop where
  /-- A summary is asked for. -/
  | summary (text : String)
  /-- The call is void. -/
  | void
  deriving DecidableEq

namespace CommandSpec

/-- The draft with the value of an option. -/
def take (o : OptionSpec) (value : String) (d : Draft) : Except Stop Draft :=
  match o.set value d with
  | some d => .ok d
  | none => .error .void

/-- The options at the head of the arguments; gives what they say and the arguments from the first
word on that belongs to none. -/
def readOptions (c : CommandSpec) (d : Draft) : List String → Except Stop (Draft × List String)
  | [] => .ok (d, [])
  | arg :: rest =>
    match Argument.read arg with
    | .escape => if rest.isEmpty then .ok (d, []) else .error .void
    | .short letters => .error (if letters.head? == some 'h' then .summary c.summary else .void)
    | .word => .ok (d, arg :: rest)
    | .long name value =>
      match c.option? name with
      | none => .error (if name == "help" && value.isNone then .summary c.summary else .void)
      | some o =>
        match value with
        | some v => do c.readOptions (← take o v d) rest
        | none =>
          match rest with
          | [] => .error .void
          | v :: rest =>
            if (Argument.read v).isValueOf o then do c.readOptions (← take o v d) rest
            else .error .void

end CommandSpec

/-! ### Tasks -/

/-- What the program is asked to do. -/
inductive Task where
  /-- Looks for the terms of a dictionary in a text. -/
  | search (dictionary text : String) (tenant : Option Int) (models : List Int)
      (tokens : List Matching.ProtectedToken)
  /-- Corrects a query. -/
  | correct (schema sql : String) (models : List Int) (tenant : Option Int) (date : Option String)
      (filters : Option String)
  deriving DecidableEq

/-- A task and the file of its settings. -/
structure Call where
  config : Option String
  task : Task
  deriving DecidableEq

namespace Draft

/-- The search that a draft describes, if it says enough. -/
def search? (d : Draft) : Option Task :=
  match d.dictionary, d.text with
  | some dictionary, some text => some (.search dictionary text d.tenant d.models d.tokens)
  | _, _ => none

/-- The correction that a draft describes, if it says enough. -/
def correct? (d : Draft) : Option Task :=
  match d.schema, d.sql with
  | some schema, some sql => some (.correct schema sql d.models d.tenant d.date d.filters)
  | _, _ => none

end Draft

namespace Call

/-- The call of a command behind the options of the program. -/
def ofCommand (c : CommandSpec) (task? : Draft → Option Task) (outer : Draft)
    (args : List String) : Except Stop Call := do
  let (d, rest) ← c.readOptions .empty args
  match rest, task? d with
  | [], some task => .ok ⟨d.config.or outer.config, task⟩
  | _, _ => .error .void

/-- What is asked for behind the word for help. -/
def help : List String → Stop
  | [] => .summary CommandSpec.program.summary
  | ["match"] => .summary CommandSpec.search.summary
  | ["correct"] => .summary CommandSpec.correct.summary
  | ["help"] => .summary helpSummary
  | _ => .void

/-- Reads the arguments of the program. -/
def read (args : List String) : Except Stop Call := do
  let (outer, rest) ← CommandSpec.program.readOptions .empty args
  match rest with
  | "match" :: args => ofCommand .search Draft.search? outer args
  | "correct" :: args => ofCommand .correct Draft.correct? outer args
  | "help" :: args => .error (help args)
  | _ => .error .void

/-- The files that a call reads. -/
def files (c : Call) : List String :=
  c.config.toList ++
    match c.task with
    | .search dictionary .. => [dictionary]
    | .correct schema _ _ _ _ filters => schema :: filters.toList

end Call

end SemanticQuery.CommandLine
