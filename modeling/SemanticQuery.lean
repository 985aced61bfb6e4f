import SemanticQuery.Calendar.Date
import SemanticQuery.Calendar.Reference
import SemanticQuery.Candidate
import SemanticQuery.CommandLine.Call
import SemanticQuery.CommandLine.Draft
import SemanticQuery.CommandLine.Run
import SemanticQuery.CommandLine.Summary
import SemanticQuery.Config
import SemanticQuery.Correction.Candidate
import SemanticQuery.Correction.DateDifference
import SemanticQuery.Correction.DefaultDate
import SemanticQuery.Correction.Injection
import SemanticQuery.Correction.Pass
import SemanticQuery.Correction.Renaming
import SemanticQuery.Correction.Request
import SemanticQuery.Dictionary.Index
import SemanticQuery.Dictionary.Lookup
import SemanticQuery.Dictionary.Snapshot
import SemanticQuery.Dictionary.Tag
import SemanticQuery.Dictionary.Trie
import SemanticQuery.Failure
import SemanticQuery.FileTree
import SemanticQuery.Filter
import SemanticQuery.Fixture.Check
import SemanticQuery.Fixture.Kind
import SemanticQuery.Fixture.Maintenance
import SemanticQuery.Json.Document
import SemanticQuery.Json.Shape
import SemanticQuery.Json.Value
import SemanticQuery.Loading
import SemanticQuery.Main
import SemanticQuery.Matching.Report
import SemanticQuery.Matching.Search
import SemanticQuery.Matching.Segment
import SemanticQuery.Number.Double
import SemanticQuery.Number.Shortest
import SemanticQuery.Number.Word
import SemanticQuery.Pattern.CharClass
import SemanticQuery.Pattern.Property
import SemanticQuery.Pattern.Reader
import SemanticQuery.Pattern.Search
import SemanticQuery.Pattern.Tree
import SemanticQuery.Plugin.Basic
import SemanticQuery.Plugin.Binding
import SemanticQuery.Plugin.Engine
import SemanticQuery.Plugin.Fields
import SemanticQuery.Plugin.Recall
import SemanticQuery.Proofs.Calendar.Reference
import SemanticQuery.Proofs.Correction.Addition
import SemanticQuery.Proofs.Correction.DateDifference
import SemanticQuery.Proofs.Correction.DateDifferenceCalls
import SemanticQuery.Proofs.Correction.Declaration
import SemanticQuery.Proofs.Correction.Equation
import SemanticQuery.Proofs.Correction.FilterParity
import SemanticQuery.Proofs.Correction.Idempotence
import SemanticQuery.Proofs.Correction.Injection
import SemanticQuery.Proofs.Correction.Narrowing
import SemanticQuery.Proofs.Correction.Pass
import SemanticQuery.Proofs.Correction.Reinjection
import SemanticQuery.Proofs.Correction.RemainingDifferences
import SemanticQuery.Proofs.Correction.Renaming
import SemanticQuery.Proofs.Correction.TenantRun
import SemanticQuery.Proofs.Correction.TenantSafety
import SemanticQuery.Proofs.Correction.Truthfulness
import SemanticQuery.Proofs.Dictionary.BreadthFirst
import SemanticQuery.Proofs.Dictionary.Canonical
import SemanticQuery.Proofs.Dictionary.Entries
import SemanticQuery.Proofs.Dictionary.History
import SemanticQuery.Proofs.Dictionary.Isolation
import SemanticQuery.Proofs.Dictionary.Keys
import SemanticQuery.Proofs.Dictionary.LoadOrder
import SemanticQuery.Proofs.Dictionary.Parts
import SemanticQuery.Proofs.Dictionary.Refinement
import SemanticQuery.Proofs.Dictionary.Registration
import SemanticQuery.Proofs.Dictionary.Removal
import SemanticQuery.Proofs.Dictionary.Search
import SemanticQuery.Proofs.Dictionary.Sharing
import SemanticQuery.Proofs.Dictionary.Surfaces
import SemanticQuery.Proofs.Dictionary.Tag
import SemanticQuery.Proofs.Dictionary.TermMap
import SemanticQuery.Proofs.Dictionary.Terms
import SemanticQuery.Proofs.Dictionary.Trie
import SemanticQuery.Proofs.Filter.Condition
import SemanticQuery.Proofs.Filter.Tokens
import SemanticQuery.Proofs.Fixture.Check
import SemanticQuery.Proofs.Matching.Precedence
import SemanticQuery.Proofs.Matching.Search
import SemanticQuery.Proofs.Matching.Segments
import SemanticQuery.Proofs.Matching.Starts
import SemanticQuery.Proofs.Number.Double
import SemanticQuery.Proofs.Pattern.Match
import SemanticQuery.Proofs.Plugin.Binding
import SemanticQuery.Proofs.Plugin.Choice
import SemanticQuery.Proofs.Plugin.Coverage
import SemanticQuery.Proofs.Plugin.Fields
import SemanticQuery.Proofs.Plugin.Loading
import SemanticQuery.Proofs.Plugin.Repetition
import SemanticQuery.Proofs.Plugin.Scope
import SemanticQuery.Proofs.Sequence
import SemanticQuery.Proofs.SortedMap
import SemanticQuery.Proofs.Sql.Columns
import SemanticQuery.Proofs.Sql.Conjunct
import SemanticQuery.Proofs.Sql.Equality
import SemanticQuery.Proofs.Sql.Lexer
import SemanticQuery.Proofs.Sql.Name
import SemanticQuery.Proofs.Sql.Parser.Comparison
import SemanticQuery.Proofs.Sql.Parser.Operator
import SemanticQuery.Proofs.Sql.Parser.Reading
import SemanticQuery.Proofs.Sql.Parser.Reads
import SemanticQuery.Proofs.Sql.Parser.SoundTerm
import SemanticQuery.Proofs.Sql.Parser.Term
import SemanticQuery.Proofs.Sql.Parser.Value
import SemanticQuery.Proofs.Sql.Parser.Written
import SemanticQuery.Proofs.Sql.Parser.Yields
import SemanticQuery.Proofs.Sql.Printer
import SemanticQuery.Proofs.Sql.Quote
import SemanticQuery.Proofs.Sql.Selection
import SemanticQuery.Proofs.Sql.Sound
import SemanticQuery.Proofs.Sql.Walk
import SemanticQuery.Schema
import SemanticQuery.SortedList
import SemanticQuery.SortedMap
import SemanticQuery.Sql.Condition
import SemanticQuery.Sql.Lexer
import SemanticQuery.Sql.Name
import SemanticQuery.Sql.Parser
import SemanticQuery.Sql.Parser.Basic
import SemanticQuery.Sql.Parser.Call
import SemanticQuery.Sql.Parser.Change
import SemanticQuery.Sql.Parser.Command
import SemanticQuery.Sql.Parser.Definition
import SemanticQuery.Sql.Parser.Grammar
import SemanticQuery.Sql.Parser.Leaf
import SemanticQuery.Sql.Parser.Operator
import SemanticQuery.Sql.Parser.Query
import SemanticQuery.Sql.Parser.Relation
import SemanticQuery.Sql.Parser.Selection
import SemanticQuery.Sql.Parser.Session
import SemanticQuery.Sql.Parser.Term
import SemanticQuery.Sql.Predicate
import SemanticQuery.Sql.Printer
import SemanticQuery.Sql.Reading
import SemanticQuery.Sql.Token
import SemanticQuery.Sql.Tree
import SemanticQuery.Sql.Walk
import SemanticQuery.Text.Blank
import SemanticQuery.Text.Case
import SemanticQuery.Text.CaseTable
import SemanticQuery.Text.CaseVariant
import SemanticQuery.Text.Category
import SemanticQuery.Text.CharSet
import SemanticQuery.Text.Property
