import SemanticQuery.CommandLine.Draft

/-!
# Summaries

What a command prints about itself: what it is for, how it is called, and its options in two
columns.
-/

namespace SemanticQuery.CommandLine

/-- Rows of two columns; the second one begins two places behind the longest first entry. -/
def columns (rows : List (String × String)) : String :=
  let width := (rows.map fun (entry, _) => entry.length).foldl max 0
  String.join (rows.map fun (entry, about) =>
    entry ++ String.ofList (List.replicate (width + 2 - entry.length) ' ') ++ about ++ "\n")

/-- An option and its value, as they are written in a call. -/
def OptionSpec.usage (o : OptionSpec) : String := "--" ++ o.name ++ " <" ++ o.label ++ ">"

/-- How a command is called. -/
def CommandSpec.usage (c : CommandSpec) : String :=
  "Usage: " ++ c.call ++ " [OPTIONS]" ++
    String.join ((c.options.filter (·.isRequired)).map fun o => " " ++ o.usage) ++
    (if c.parts.isEmpty then "" else " <COMMAND>") ++ "\n"

/-- The summary of a command. -/
def CommandSpec.summary (c : CommandSpec) : String :=
  c.about ++ "\n\n" ++ c.usage ++ "\n" ++
    (if c.parts.isEmpty then ""
      else "Commands:\n" ++ columns (c.parts.map fun (name, about) => ("  " ++ name, about)) ++ "\n") ++
    "Options:\n" ++
    columns (c.options.map (fun o => ("      " ++ o.usage, o.about)) ++ [("  -h, --help", "Print help")])

/-- The summary of the command that prints summaries. -/
def helpSummary : String :=
  CommandSpec.helpAbout ++ "\n\nUsage: s2sql help [COMMAND]...\n\nArguments:\n" ++
    columns [("  [COMMAND]...", "Print help for the subcommand(s)")]

end SemanticQuery.CommandLine
