import WindowSql.Compiled
import WindowSql.Context
import WindowSql.Context.Select
import WindowSql.Dialect
import WindowSql.Dialect.Profile
import WindowSql.Dialect.Registry
import WindowSql.Document
import WindowSql.Expr
import WindowSql.Expr.Calls
import WindowSql.Expr.Same
import WindowSql.Fault
import WindowSql.Fault.Config
import WindowSql.Fault.Pair
import WindowSql.Fault.Template
import WindowSql.Function
import WindowSql.Function.Catalog
import WindowSql.Json
import WindowSql.Json.Reader
import WindowSql.Json.Writer
import WindowSql.Naming.Fresh
import WindowSql.Naming.Options
import WindowSql.Naming.Slot
import WindowSql.Naming.Template
import WindowSql.Number.Double
import WindowSql.Number.Shortest
import WindowSql.Proofs.Calls
import WindowSql.Proofs.FreshNames
import WindowSql.Proofs.Outcomes
import WindowSql.Proofs.Sameness
import WindowSql.Schema.Expr
import WindowSql.Schema.IntegerText
import WindowSql.Schema.Issue
import WindowSql.Schema.Profile
import WindowSql.Schema.Scalar
import WindowSql.Schema.Statement
import WindowSql.Schema.Window
import WindowSql.Setting
import WindowSql.Statement
import WindowSql.Statement.Check
import WindowSql.Statement.Promotion
import WindowSql.Statement.Text
import WindowSql.Text.Blank
import WindowSql.Text.Case
import WindowSql.Text.CaseTable
import WindowSql.Text.DecimalDigit
import WindowSql.Text.Dotted
import WindowSql.Text.Format
import WindowSql.Text.Printable
import WindowSql.Text.Quoted
import WindowSql.Trace
import WindowSql.Window
import WindowSql.Window.Resolution
import WindowSql.Window.Text
import WindowSql.Proofs.Promotion
import WindowSql.Proofs.TextFailures
import WindowSql.Proofs.Expansion
import WindowSql.Proofs.FilterLevels
import WindowSql.Proofs.Compilation
import WindowSql.Proofs.LiteralText
import WindowSql.Proofs.SharedColumns
import WindowSql.Proofs.ColumnScope
import WindowSql.Proofs.Stability
import WindowSql.Proofs.CheckedStatements
import WindowSql.Proofs.TemplateFields
import WindowSql.Proofs.NameSearch
import WindowSql.Proofs.Recompilation
import WindowSql.Proofs.DerivedNames
import WindowSql.Proofs.WindowNesting
import WindowSql.Proofs.FaultTexts
import WindowSql.Proofs.DocumentLimits
import WindowSql.Proofs.LongIntegers
import WindowSql.Proofs.DecimalText
import WindowSql.Proofs.ShortestText
import WindowSql.Proofs.UniqueReading
import WindowSql.Proofs.StatementDocuments
import WindowSql.Proofs.ContextIndependence
import WindowSql.Proofs.RegisteredDialects
import WindowSql.Proofs.TextLevels
import WindowSql.Proofs.AcceptedCalls
import WindowSql.Proofs.ReportedErrors
import WindowSql.Proofs.WellFormed
import WindowSql.Proofs.DistinctCalls
import WindowSql.Proofs.PromotedText
import WindowSql.Proofs.ShadowedColumns
import WindowSql.Proofs.WindowFrames
import WindowSql.Proofs.OrderingSource
import WindowSql.Proofs.QuotedReading
import WindowSql.Proofs.RankingText
import WindowSql.Proofs.DottedNames
import WindowSql.Proofs.PromotedSpelling
import WindowSql.Proofs.LiteralTokens
import WindowSql.Proofs.FilterFlags
import WindowSql.Proofs.ReportedPromotions
import WindowSql.Proofs.RelationContexts
import WindowSql.Proofs.SelectOrderings
import WindowSql.Proofs.NameForms
import WindowSql.Proofs.RegisteredFunctions
