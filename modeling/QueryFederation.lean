import QueryFederation.Access
import QueryFederation.Calendar.Date
import QueryFederation.Calendar.Instant
import QueryFederation.Calendar.Reading
import QueryFederation.Calendar.Written
import QueryFederation.Compile.Context
import QueryFederation.Compile.Field
import QueryFederation.Compile.Reading
import QueryFederation.Compile.Rejection
import QueryFederation.Engine.Configuration
import QueryFederation.Engine.ConfigurationText
import QueryFederation.Engine.Executor
import QueryFederation.Engine.LifeCycle
import QueryFederation.Engine.Run
import QueryFederation.Engine.Schedule
import QueryFederation.Engine.Separate
import QueryFederation.Entity.Lookup
import QueryFederation.Fault
import QueryFederation.Federation.Basic
import QueryFederation.Federation.Page
import QueryFederation.Federation.Positions
import QueryFederation.Federation.Reading
import QueryFederation.Federation.Session
import QueryFederation.Index.CompiledQuery
import QueryFederation.Index.Leaves
import QueryFederation.Index.Query
import QueryFederation.Index.Rendering
import QueryFederation.Index.Term
import QueryFederation.Index.Truth
import QueryFederation.Json.Document
import QueryFederation.Json.Engine
import QueryFederation.Json.Form
import QueryFederation.Json.Index
import QueryFederation.Json.Quoted
import QueryFederation.Json.Reader
import QueryFederation.Json.Real
import QueryFederation.Json.Request
import QueryFederation.Json.Result
import QueryFederation.Json.RoundTrip
import QueryFederation.Json.Schema
import QueryFederation.Json.Token
import QueryFederation.Json.Tree
import QueryFederation.Json.Writer
import QueryFederation.Json.WrittenNumber
import QueryFederation.Number.Binary
import QueryFederation.Number.Digits
import QueryFederation.Number.Numeral
import QueryFederation.Number.Plain
import QueryFederation.Number.Power
import QueryFederation.Number.Shortest
import QueryFederation.Order.Distinct
import QueryFederation.Order.Places
import QueryFederation.Order.Repeat
import QueryFederation.Pattern.Glob
import QueryFederation.Pattern.Lowered
import QueryFederation.Pattern.Match
import QueryFederation.Proofs.Access
import QueryFederation.Proofs.Calendar.DateOrder
import QueryFederation.Proofs.Calendar.DateRoundTrip
import QueryFederation.Proofs.Calendar.ReadBack
import QueryFederation.Proofs.Calendar.YearText
import QueryFederation.Proofs.Compile.Blame
import QueryFederation.Proofs.Compile.Composite
import QueryFederation.Proofs.Compile.Conditions
import QueryFederation.Proofs.Compile.DistinctFields
import QueryFederation.Proofs.Compile.Encoded
import QueryFederation.Proofs.Compile.EqualityBounds
import QueryFederation.Proofs.Compile.FieldsRead
import QueryFederation.Proofs.Compile.FullTextAgreement
import QueryFederation.Proofs.Compile.InstantComparison
import QueryFederation.Proofs.Compile.IntegerComparison
import QueryFederation.Proofs.Compile.KeptWildcards
import QueryFederation.Proofs.Compile.LanguageFields
import QueryFederation.Proofs.Compile.LeadingWildcard
import QueryFederation.Proofs.Compile.Leaves
import QueryFederation.Proofs.Compile.LikeLowered
import QueryFederation.Proofs.Compile.Meaning
import QueryFederation.Proofs.Compile.OneTerm
import QueryFederation.Proofs.Compile.OwnField
import QueryFederation.Proofs.Compile.RealComparison
import QueryFederation.Proofs.Compile.Resolution
import QueryFederation.Proofs.Compile.Shape
import QueryFederation.Proofs.Compile.Simulation
import QueryFederation.Proofs.Compile.Spelling
import QueryFederation.Proofs.Compile.Widening
import QueryFederation.Proofs.Engine.Columns
import QueryFederation.Proofs.Engine.ConfigurationReadBack
import QueryFederation.Proofs.Engine.LifeCycle
import QueryFederation.Proofs.Engine.Paging
import QueryFederation.Proofs.Engine.Plan
import QueryFederation.Proofs.Engine.Schedule
import QueryFederation.Proofs.Engine.Sharing
import QueryFederation.Proofs.Entity.Register
import QueryFederation.Proofs.Failure
import QueryFederation.Proofs.Federation.Agreement
import QueryFederation.Proofs.Federation.Alignment
import QueryFederation.Proofs.Federation.Closed
import QueryFederation.Proofs.Federation.Frame
import QueryFederation.Proofs.Federation.Join
import QueryFederation.Proofs.Federation.Mirror
import QueryFederation.Proofs.Federation.Outline
import QueryFederation.Proofs.Federation.Pointwise
import QueryFederation.Proofs.Federation.Positions
import QueryFederation.Proofs.Federation.PrimaryParents
import QueryFederation.Proofs.Federation.Release
import QueryFederation.Proofs.Federation.RowReads
import QueryFederation.Proofs.Federation.Sheet
import QueryFederation.Proofs.Federation.Traversal
import QueryFederation.Proofs.Federation.Verdict
import QueryFederation.Proofs.Index.ByteOrder
import QueryFederation.Proofs.Index.DayTerm
import QueryFederation.Proofs.Index.FieldOrder
import QueryFederation.Proofs.Index.InstantTerm
import QueryFederation.Proofs.Index.IntegerTerm
import QueryFederation.Proofs.Index.RealTerm
import QueryFederation.Proofs.Index.Shape
import QueryFederation.Proofs.Index.TotalOrder
import QueryFederation.Proofs.Index.WrittenTerm
import QueryFederation.Proofs.Json.ReadBack
import QueryFederation.Proofs.Number.Exact
import QueryFederation.Proofs.Number.FixedDigits
import QueryFederation.Proofs.Number.ReadInteger
import QueryFederation.Proofs.Number.RealValue
import QueryFederation.Proofs.Number.Rounding
import QueryFederation.Proofs.Order
import QueryFederation.Proofs.Pattern.Languages
import QueryFederation.Proofs.Pattern.Lowered
import QueryFederation.Proofs.Places
import QueryFederation.Proofs.Request.LocaleText
import QueryFederation.Proofs.Request.NormalLocale
import QueryFederation.Proofs.Schema.Forest
import QueryFederation.Proofs.Schema.Preorder
import QueryFederation.Proofs.Schema.QualifiedText
import QueryFederation.Proofs.Schema.Registration
import QueryFederation.Proofs.Schema.Rendering
import QueryFederation.Proofs.Schema.Spelling
import QueryFederation.Proofs.Schema.TypeArena
import QueryFederation.Proofs.Success
import QueryFederation.Proofs.Text.Groups
import QueryFederation.Proofs.Text.OneWord
import QueryFederation.Proofs.Text.PlainTokens
import QueryFederation.Proofs.Text.PlainWords
import QueryFederation.Proofs.Text.Sweep
import QueryFederation.Proofs.Text.Takes
import QueryFederation.Proofs.Text.Tiling
import QueryFederation.Proofs.Text.WildcardPlaces
import QueryFederation.Proofs.Text.WildcardTokens
import QueryFederation.Proofs.TwoRuns
import QueryFederation.Proofs.Unicode.CaseMapping
import QueryFederation.Request.Literal
import QueryFederation.Request.Locale
import QueryFederation.Request.Nodes
import QueryFederation.Request.Parameters
import QueryFederation.Request.Predicate
import QueryFederation.Request.Respelling
import QueryFederation.Result.Counted
import QueryFederation.Result.Faulty
import QueryFederation.Result.ResultSet
import QueryFederation.Schema.DataType
import QueryFederation.Schema.Dictionary
import QueryFederation.Schema.LabelIndex
import QueryFederation.Schema.Namespaces
import QueryFederation.Schema.QualifiedName
import QueryFederation.Schema.TypeArena
import QueryFederation.Schema.TypeHierarchy
import QueryFederation.Text.Analyzer
import QueryFederation.Text.Scan
import QueryFederation.Text.Segment
import QueryFederation.Text.Sweep
import QueryFederation.Text.Token
import QueryFederation.Text.Tokenizer
import QueryFederation.Unicode.Alphanumeric
import QueryFederation.Unicode.AlphanumericTable
import QueryFederation.Unicode.Blank
import QueryFederation.Unicode.Case
import QueryFederation.Unicode.CaseTable
import QueryFederation.Unicode.CasedTable
import QueryFederation.Unicode.PictographTable
import QueryFederation.Unicode.Range
import QueryFederation.Unicode.WordBreak
import QueryFederation.Unicode.WordBreakTable
