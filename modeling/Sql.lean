import Sql.Text.Snake
import Sql.Text.Utf8
import Sql.Number.Layout
import Sql.Number.Reading
import Sql.Number.Exact
import Sql.Calendar.Pattern
import Sql.Bindings
import Sql.Json.Reader
import Sql.Value.Json
import Sql.Value.Literal
import Sql.Expr.Build
import Sql.Expr.Children
import Sql.Expr.Equality
import Sql.Writer
import Sql.Rewrite
import Sql.Session
import Sql.Entity
import Sql.Example
import Sql.Criteria
import Sql.Fragment
import Sql.Record.Hooks
import Sql.Record.Rules
import Sql.Record.Fields
import Sql.Entity.Statements
import Sql.Declaration.Shape
import Sql.Declaration.Family
import Sql.Proofs.WriterScripts
import Sql.Proofs.TwoStyles
import Sql.Proofs.ConditionTree
import Sql.Proofs.WriteGuard
import Sql.Proofs.Precedence
import Sql.Proofs.Grouping
import Sql.Proofs.Lexer
import Sql.Proofs.QuotedText
import Sql.Proofs.TokenStructure
import Sql.Proofs.Parameters
import Sql.Proofs.Spelling
import Sql.Proofs.NamedParameters
import Sql.Proofs.EntityKeys
import Sql.Proofs.ById
import Sql.Proofs.CriteriaParameters
import Sql.Proofs.PartialUpdate
import Sql.Proofs.UpdatedColumns
import Sql.Proofs.LastEntries
import Sql.Proofs.FilterConditions
import Sql.Proofs.Fragments
import Sql.Proofs.ExampleConditions
import Sql.Proofs.ColumnValues
import Sql.Proofs.InsertedColumns
import Sql.Proofs.RecordUpdate
import Sql.Proofs.ByExample
import Sql.Proofs.Flattening
import Sql.Proofs.HookRuns
import Sql.Proofs.RefusedUpdates
import Sql.Proofs.StatementTexts
import Sql.Proofs.CountQuery
import Sql.Proofs.SetList
import Sql.Proofs.ValueLists
import Sql.Proofs.Outcomes
import Sql.Proofs.PatternConditions
import Sql.Proofs.WrittenParts
import Sql.Proofs.QueryClauses
import Sql.Proofs.PageClauses
import Sql.Proofs.ClauseBodies
import Sql.Proofs.KeyScan
import Sql.Proofs.TextParts
import Sql.Proofs.MarkerLists
import Sql.Proofs.SortOrders
import Sql.Proofs.SymbolOperators
import Sql.Proofs.Utf8Text
import Sql.Proofs.ByteLiterals
import Sql.Proofs.SharedNames
import Sql.Proofs.CriteriaSteps
import Sql.Proofs.SnakeNames
import Sql.Proofs.PlaceholderNames
import Sql.Proofs.EntryOrder
import Sql.Proofs.AppendOnly
import Sql.Proofs.SelfDelimiting
import Sql.Proofs.SnakeStability
