import QueryOptions.Arguments
import QueryOptions.Call
import QueryOptions.CallShape
import QueryOptions.CompiledQuery
import QueryOptions.Decimal.Binary
import QueryOptions.Decimal.Notation
import QueryOptions.Decimal.Reading
import QueryOptions.Decimal.Shortest
import QueryOptions.Entry
import QueryOptions.Fault.Basic
import QueryOptions.Fault.Classes
import QueryOptions.Identifier
import QueryOptions.Memory
import QueryOptions.Notice
import QueryOptions.Proofs.ParallelReaders
import QueryOptions.Proofs.Acceptance
import QueryOptions.Proofs.Attempts
import QueryOptions.Proofs.Calls
import QueryOptions.Proofs.Clauses
import QueryOptions.Proofs.Columns
import QueryOptions.Proofs.Complement
import QueryOptions.Proofs.Conduct
import QueryOptions.Proofs.Connectives
import QueryOptions.Proofs.CriteriaLists
import QueryOptions.Proofs.ColumnCriteria
import QueryOptions.Proofs.Enclosed
import QueryOptions.Proofs.Handles
import QueryOptions.Proofs.Items
import QueryOptions.Proofs.Membership
import QueryOptions.Proofs.Once
import QueryOptions.Proofs.Ordering
import QueryOptions.Proofs.Outcomes
import QueryOptions.Proofs.PageBound
import QueryOptions.Proofs.Pages
import QueryOptions.Proofs.MatchWidths
import QueryOptions.Proofs.Reading
import QueryOptions.Proofs.Refusals
import QueryOptions.Proofs.Rereading
import QueryOptions.Proofs.Running
import QueryOptions.Proofs.Scan
import QueryOptions.Proofs.NegatedPatterns
import QueryOptions.Proofs.Unfound
import QueryOptions.Proofs.Validation
import QueryOptions.Query
import QueryOptions.Regex.Escape
import QueryOptions.Regex.Fault
import QueryOptions.Regex.Match
import QueryOptions.Regex.Parser
import QueryOptions.Regex.Pattern
import QueryOptions.Regex.Piece
import QueryOptions.Regex.Reader
import QueryOptions.Regex.Start
import QueryOptions.Sample.Operators
import QueryOptions.Sample.Recording
import QueryOptions.Sample.Staff
import QueryOptions.Section.Clause
import QueryOptions.Section.Embed
import QueryOptions.Section.Family
import QueryOptions.Section.Fields
import QueryOptions.Section.Filters
import QueryOptions.Section.Intake
import QueryOptions.Section.Pagination
import QueryOptions.Section.Sorting
import QueryOptions.Settings
import QueryOptions.Signature
import QueryOptions.Store.Cell
import QueryOptions.Store.Condition
import QueryOptions.Store.Criteria
import QueryOptions.Store.Documents
import QueryOptions.Store.Order
import QueryOptions.Store.Registry
import QueryOptions.Store.Schema
import QueryOptions.Text.Blank
import QueryOptions.Text.Case
import QueryOptions.Text.CharacterName.Aliases
import QueryOptions.Text.CharacterName.Alphabets
import QueryOptions.Text.CharacterName.Antiquity
import QueryOptions.Text.CharacterName.Basic
import QueryOptions.Text.CharacterName.Cuneiform
import QueryOptions.Text.CharacterName.EastAsia
import QueryOptions.Text.CharacterName.Lookup
import QueryOptions.Text.CharacterName.Pictures
import QueryOptions.Text.CharacterName.Signs
import QueryOptions.Text.CharacterName.Syllabaries
import QueryOptions.Text.CharacterName.Symbols
import QueryOptions.Text.Integer
import QueryOptions.Text.Letter
import QueryOptions.Text.Name
import QueryOptions.Text.Order
import QueryOptions.Text.Printable
import QueryOptions.Text.Quoted
import QueryOptions.Text.Ranges
import QueryOptions.Trace
import QueryOptions.Value.Basic
import QueryOptions.Value.Key
import QueryOptions.Value.Number
import QueryOptions.Value.Pairs
import QueryOptions.Value.Written
import QueryOptions.Proofs.SectionOrder
import QueryOptions.Proofs.IdleOptions
import QueryOptions.Proofs.Setup
import QueryOptions.Proofs.Standalone
import QueryOptions.Proofs.Switches
import QueryOptions.Proofs.Additions
import QueryOptions.Proofs.Signatures
import QueryOptions.Proofs.SingleDocument
import QueryOptions.Proofs.LoadedColumns
import QueryOptions.Proofs.WholeExpressions
import QueryOptions.Proofs.GrammarSteps
import QueryOptions.Proofs.Repeating
import QueryOptions.Proofs.RepeatedItems
import QueryOptions.Proofs.Retracing
import QueryOptions.Proofs.Beginnings
import QueryOptions.Proofs.GivenOptions
import QueryOptions.Proofs.KeptOptions
import QueryOptions.Proofs.Isolation
import QueryOptions.Proofs.Renumbered
import QueryOptions.Proofs.Lockstep
import QueryOptions.Proofs.Intrusions
import QueryOptions.Proofs.Mirrors
import QueryOptions.Proofs.MirroredItems
import QueryOptions.Proofs.MirroredGroups
import QueryOptions.Proofs.MirroredGrammar
import QueryOptions.Proofs.Closings
import QueryOptions.Proofs.PatternClauses
import QueryOptions.Proofs.Contraries
import QueryOptions.Proofs.Ways
import QueryOptions.Proofs.Glances
import QueryOptions.Proofs.CountedWays
import QueryOptions.Proofs.FirstWay
import QueryOptions.Proofs.ContraryWays
import QueryOptions.Proofs.ContrarySearch
import QueryOptions.Proofs.ReaderFaults
import QueryOptions.Proofs.GrammarFaults
import QueryOptions.Proofs.PatternFaults
import QueryOptions.Proofs.KeyEquality
import QueryOptions.Proofs.LastWins
import QueryOptions.Proofs.Contributions
import QueryOptions.Proofs.Copies
import QueryOptions.Proofs.FirstFaults
import QueryOptions.Proofs.ClauseGrammar
import QueryOptions.Proofs.CriteriaGrammar
import QueryOptions.Proofs.SortMentions
import QueryOptions.Proofs.Words
import QueryOptions.Proofs.Projections
import QueryOptions.Proofs.Relations
import QueryOptions.Proofs.ListedNames
import QueryOptions.Proofs.FinalSort
import QueryOptions.Proofs.AddedOperators
import QueryOptions.Proofs.KeptSettings
import QueryOptions.Proofs.CompleteSettings
import QueryOptions.Proofs.Lineages
import QueryOptions.Proofs.Executions
import QueryOptions.Proofs.RefusedSteps
import QueryOptions.Proofs.Watching
