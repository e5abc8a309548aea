import FilterClause.Bundle
import FilterClause.Calendar
import FilterClause.Command.Arguments
import FilterClause.Command.Error
import FilterClause.Command.Loading
import FilterClause.Command.Report
import FilterClause.Command.Run
import FilterClause.Command.Terminal
import FilterClause.Compiler
import FilterClause.Condition.Comparison
import FilterClause.Condition.Conjunction
import FilterClause.Condition.Groups
import FilterClause.Condition.Membership
import FilterClause.Condition.NotEqual
import FilterClause.Condition.Period
import FilterClause.Condition.Range
import FilterClause.Decimal.Binary64
import FilterClause.Decimal.Layout
import FilterClause.Decimal.Leading
import FilterClause.Decimal.Numeral
import FilterClause.Decimal.Shortest
import FilterClause.Decoding.Mismatch
import FilterClause.Decoding.Node
import FilterClause.Entries
import FilterClause.Failure
import FilterClause.Filter
import FilterClause.Intake
import FilterClause.Json.Printer
import FilterClause.Json.Reader
import FilterClause.Json.Skip
import FilterClause.Json.Value
import FilterClause.Literal
import FilterClause.Log.Event
import FilterClause.Log.Settings
import FilterClause.Log.Trace
import FilterClause.Main
import FilterClause.Request
import FilterClause.Scalar
import FilterClause.Settings
import FilterClause.Settings.Environment
import FilterClause.Settings.Options
import FilterClause.Settings.Variables
import FilterClause.Template
import FilterClause.Text.Blank
import FilterClause.Text.Quoted
import FilterClause.Text.Unprintable
import FilterClause.Toml.Moment
import FilterClause.Toml.Number
import FilterClause.Toml.Reader
import FilterClause.Toml.Table
import FilterClause.Toml.Text
import FilterClause.Toml.Value
import FilterClause.Writer
import FilterClause.Proofs.Checked
import FilterClause.Proofs.Outline
import FilterClause.Proofs.Writing
import FilterClause.Proofs.Chain
import FilterClause.Proofs.CategoryOutlines
import FilterClause.Proofs.RequestOutline
import FilterClause.Proofs.WhereClause
import FilterClause.Proofs.Composition
import FilterClause.Proofs.Parentheses
import FilterClause.Proofs.TwoFillings
import FilterClause.Proofs.Filters
import FilterClause.Proofs.RawText
import FilterClause.Proofs.PlainText
import FilterClause.Proofs.Masking
import FilterClause.Proofs.LiteralSafety
import FilterClause.Proofs.ClauseGroups
import FilterClause.Proofs.NumericKeys
import FilterClause.Proofs.WrittenNumbers
import FilterClause.Proofs.DateTexts
import FilterClause.Proofs.Supplied
import FilterClause.Proofs.IntakeForms
import FilterClause.Proofs.Fragments
import FilterClause.Proofs.Conservation
import FilterClause.Proofs.TrimmedValues
import FilterClause.Proofs.FieldNames
import FilterClause.Proofs.Refusals
import FilterClause.Proofs.FirstFailure
import FilterClause.Proofs.Junction
import FilterClause.Proofs.Joining
import FilterClause.Proofs.Substitution
import FilterClause.Proofs.Expansion
import FilterClause.Proofs.Verdict
import FilterClause.Proofs.JsonLexemes
import FilterClause.Proofs.JsonReading
import FilterClause.Proofs.JsonWriting
import FilterClause.Proofs.RequestText
import FilterClause.Proofs.IntakeShapes
import FilterClause.Proofs.ParamLines
import FilterClause.Proofs.RangeChains
import FilterClause.Proofs.ExtraGroups
import FilterClause.Proofs.ValueLists
import FilterClause.Proofs.DateGrammar
import FilterClause.Proofs.CanonicalDates
import FilterClause.Proofs.Overrides
import FilterClause.Proofs.Escaping
import FilterClause.Proofs.Layers
import FilterClause.Proofs.AbsentClauses
