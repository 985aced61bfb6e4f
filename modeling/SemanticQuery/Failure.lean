import SemanticQuery.Sql.Lexer

/-!
# Failures

Everything that can be wrong with an input, by its cause. `Failure.message` is the one place where
a failure becomes a text for a reader.
-/

namespace SemanticQuery

/-- What is wrong with the text of a filter. -/
inductive FilterFault where
  /-- The text is no expression. -/
  | notExpression
  /-- A token follows the expression. -/
  | trailing (token : Sql.Token)
  /-- The condition does not compare the one column that the filter names. -/
  | otherColumn (name : String)
  deriving DecidableEq

/-- What is wrong with a configuration or with the pattern of a plugin. -/
inductive ConfigFault where
  | searchSize
  | segmentSearchSize
  | workerThreads
  | tenantBizName
  /-- A text that is no pattern. -/
  | pattern (text plugin : String)
  deriving DecidableEq

/-- The ways in which an input is refused. -/
inductive Failure where
  /-- The text is no SQL. -/
  | notSql (fault : Sql.Fault)
  /-- The text holds another number of statements than one. -/
  | notSingle (found : Nat)
  /-- The statement is no plain selection. -/
  | notSelection
  /-- The text of a filter is no condition on its column. -/
  | filter (text : String) (fault : FilterFault)
  /-- The configuration is well formed and has no meaning. -/
  | config (fault : ConfigFault)
  /-- The document is malformed or has another shape than the expected one. -/
  | document
  /-- The file cannot be read. -/
  | file
  /-- A position of a text does not fit a word. -/
  | overflow
  deriving DecidableEq

/-- The reason that a message gives for the refusal of a filter, if it gives one. -/
def FilterFault.reason : FilterFault → Option String
  | .notExpression => none
  | .trailing token => some ("unexpected trailing token `" ++ token.display ++ "`")
  | .otherColumn name => some ("`" ++ name ++ "` is not a single column")

/-- The message of a configuration fault. -/
def ConfigFault.message : ConfigFault → String
  | .searchSize => "search_size must be positive"
  | .segmentSearchSize => "segment_search_size must be positive"
  | .workerThreads => "worker_threads must be positive"
  | .tenantBizName => "tenant_biz_name must not be empty"
  | .pattern text plugin => "Invalid pattern `" ++ text ++ "` for plugin " ++ plugin

/-- The message of a failure. -/
def Failure.message : Failure → String
  | .notSql .unexpected => "SQL parse error"
  | .notSql .tooDeep => "SQL parse error: recursion limit exceeded"
  | .notSingle found => "Unsupported statement: expected one statement, found " ++ toString found
  | .notSelection => "Unsupported statement: expected a plain SELECT query"
  | .filter text fault =>
    "Invalid filter expression `" ++ text ++ "`" ++
      match fault.reason with
      | some reason => ": " ++ reason
      | none => ""
  | .config fault => "Invalid configuration: " ++ fault.message
  | .document => "Invalid JSON"
  | .file => "I/O error"
  | .overflow => "Position out of range"

end SemanticQuery
