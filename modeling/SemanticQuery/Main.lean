import SemanticQuery.CommandLine.Run
import SemanticQuery.Fixture.Maintenance

/-!
# The programs

Reading the files that a call names, and printing what it is answered. The first argument
`maintain` calls the maintenance program with the arguments behind it.
-/

namespace SemanticQuery

/-- The text of a file, if it can be read. -/
def readText? (path : String) : IO (Option String) := do
  try return some (← IO.FS.readFile path)
  catch _ => return none

/-- The texts of some files. -/
def readTexts (paths : List String) : IO (List (String × String)) := do
  let found ← paths.mapM fun path => do return (path, ← readText? path)
  return found.filterMap fun (path, text) => text.map (path, ·)

/-- Everything below a path, if it can be read. -/
partial def readTree? (path : String) : IO (Option FileTree) := do
  try
    let entries ← (System.mkFilePath [path]).readDir
    let found ← entries.toList.mapM fun e => do
      return (e.fileName, ← readTree? e.path.toString)
    return some (.directory (found.filterMap fun (name, t) => t.map (name, ·)))
  catch _ => return (← readText? path).map .file

/-- Answers the arguments of the program. -/
def answer (args : List String) : IO UInt32 := do
  let paths :=
    match CommandLine.Call.read args with
    | .ok call => call.files
    | .error _ => []
  let texts ← readTexts paths
  let outcome := CommandLine.run (fun path => texts.lookup path) args
  IO.print outcome.output
  match outcome with
  | .failed f => IO.eprintln f.message
  | .void => IO.eprintln CommandLine.CommandSpec.program.summary
  | .printed _ => pure ()
  return outcome.code.toUInt32

/-- Answers the arguments of the maintenance program. -/
def maintain (args : List String) : IO UInt32 := do
  let outcome ←
    match args with
    | [_, directory] =>
      match ← readTree? directory with
      | some t => pure (Fixture.run (.directory [("fixtures", t)]) (args.take 1 ++ ["fixtures"]))
      | none => pure (Fixture.run .empty args)
    | _ => pure (Fixture.run .empty args)
  for line in outcome.lines do IO.eprintln line
  return outcome.code.toUInt32

end SemanticQuery

/-- Runs one of the programs. -/
def main (args : List String) : IO UInt32 :=
  match args with
  | "maintain" :: args => SemanticQuery.maintain args
  | args => SemanticQuery.answer args
