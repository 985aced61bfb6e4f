import SemanticQuery.Fixture.Check

/-!
# The maintenance program

A program for those who work on the library. It checks a directory of fixtures; the other commands
belong to the build tools, and are only read here.
-/

namespace SemanticQuery.Fixture

/-! ### Commands -/

/-- What the program is asked to do. -/
inductive Command where
  /-- Runs the checks of the build tools. -/
  | build (name : String)
  /-- Checks the fixtures of a directory. -/
  | validate (directory : String)
  deriving DecidableEq

/-- What is wrong with a call. -/
inductive UsageFault where
  | noCommand
  | unknownCommand (name : String)
  | unknownOption (name : String)
  /-- Not one directory is named. -/
  | directoryCount
  deriving DecidableEq

namespace Command

/-- The commands of the build tools. -/
def buildNames : List String := ["precommit", "ci"]

/-- The options of the commands of the build tools. -/
def buildOptions : List String := ["--locked"]

/-- The name of the command that checks fixtures. -/
def validateName : String := "validate-fixtures"

/-- Reads the arguments of the program. -/
def read : List String → Except UsageFault Command
  | [] => .error .noCommand
  | name :: rest =>
    if buildNames.contains name then
      match rest.find? fun option => !buildOptions.contains option with
      | some option => .error (.unknownOption option)
      | none => .ok (.build name)
    else if name == validateName then
      match rest with
      | [directory] => .ok (.validate directory)
      | _ => .error .directoryCount
    else .error (.unknownCommand name)

end Command

/-! ### Outcomes -/

/-- How a run ends. -/
inductive Outcome where
  | usage (fault : UsageFault)
  /-- The command is one of the build tools. -/
  | notHere (name : String)
  /-- The directory cannot be read. -/
  | noDirectory
  | checked (found : Findings)
  deriving DecidableEq

/-- How the program answers its arguments, given the tree of all files. -/
def run (files : FileTree) (args : List String) : Outcome :=
  match Command.read args with
  | .error fault => .usage fault
  | .ok (.build name) => .notHere name
  | .ok (.validate directory) =>
    match files.entries? directory with
    | some entries => .checked (check entries)
    | none => .noDirectory

/-! ### Lines -/

/-- What is said about a call that is wrong. -/
def UsageFault.lines (fault : UsageFault) : List String :=
  (match fault with
    | .noCommand => []
    | .unknownCommand name => ["Unknown command: " ++ name]
    | .unknownOption name => ["Unknown option: " ++ name]
    | .directoryCount => [Command.validateName ++ " requires exactly one directory argument."]) ++
    ["Usage:"]

/-- A note as a line. -/
def Note.line : Note → String
  | .skipped file => "skipping " ++ file ++ ": unknown fixture kind"
  | .valid count => toString count ++ " fixture(s) valid"

/-- The fixture that is defective, as the head of a line. -/
def Defect.head (d : Defect) : String := d.file ++ " (" ++ d.kind.name ++ ")"

/-- The fixture that is defective and why it cannot be loaded, as a line. -/
def Defect.line (d : Defect) : String := d.head ++ ": " ++ d.failure.message

namespace Outcome

/-- The code with which a run ends. -/
def code : Outcome → Nat
  | .usage _ => 2
  | .notHere _ => 1
  | .noDirectory => 1
  | .checked found => if found.defects.isEmpty then 0 else 1

/-- The lines that a run prints if it prints so of a defect: the notes, then the defects. -/
def linesWith (ofDefect : Defect → String) : Outcome → List String
  | .usage fault => fault.lines
  | .notHere _ => []
  | .noDirectory => ["Failed to read fixture directory"]
  | .checked found => found.notes.map Note.line ++ found.defects.map ofDefect

/-- What a run prints, line by line. -/
def report : Outcome → List String := linesWith Defect.line

/-- The lines of a run without the reasons for which fixtures cannot be loaded. -/
def lines : Outcome → List String := linesWith Defect.head

end Outcome

end SemanticQuery.Fixture
