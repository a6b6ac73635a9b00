import CriteriaSearch.About
import CriteriaSearch.Calendar.Date
import CriteriaSearch.Calendar.DateTime
import CriteriaSearch.Calendar.Layout
import CriteriaSearch.Calendar.Zoned
import CriteriaSearch.CommandLine.Help
import CriteriaSearch.CommandLine.Program
import CriteriaSearch.CommandLine.Request
import CriteriaSearch.CommandLine.Setting
import CriteriaSearch.Compiled
import CriteriaSearch.Compiled.Document
import CriteriaSearch.Criteria
import CriteriaSearch.Criteria.Document
import CriteriaSearch.Descriptor
import CriteriaSearch.Descriptor.Draft
import CriteriaSearch.Documents.Bson
import CriteriaSearch.Documents.Query
import CriteriaSearch.Documents.Repository
import CriteriaSearch.Field
import CriteriaSearch.Json.Basic
import CriteriaSearch.Json.Reader
import CriteriaSearch.Json.Record
import CriteriaSearch.Json.Writer
import CriteriaSearch.Latch
import CriteriaSearch.Main
import CriteriaSearch.Memory.Evaluation
import CriteriaSearch.Memory.Order
import CriteriaSearch.Memory.Repository
import CriteriaSearch.Number.Decimal
import CriteriaSearch.Number.Double
import CriteriaSearch.Number.Notation
import CriteriaSearch.Number.Pair
import CriteriaSearch.Number.Power
import CriteriaSearch.Number.Reader
import CriteriaSearch.Number.Shortest
import CriteriaSearch.Page
import CriteriaSearch.Page.Document
import CriteriaSearch.Predicate
import CriteriaSearch.Predicate.Document
import CriteriaSearch.Proofs.Compilation
import CriteriaSearch.Proofs.Digits
import CriteriaSearch.Proofs.Evaluation
import CriteriaSearch.Proofs.FilterTerm
import CriteriaSearch.Proofs.Number.Order
import CriteriaSearch.Proofs.Number.Reading
import CriteriaSearch.Proofs.Number.Rounding
import CriteriaSearch.Proofs.RowOrder
import CriteriaSearch.Proofs.TwoValued
import CriteriaSearch.Registry
import CriteriaSearch.Repository
import CriteriaSearch.Sample.OperatingSystem
import CriteriaSearch.Schema
import CriteriaSearch.SearchError
import CriteriaSearch.SearchIndex.Hits
import CriteriaSearch.SearchIndex.Query
import CriteriaSearch.SearchIndex.Repository
import CriteriaSearch.Service
import CriteriaSearch.Sql.Cell
import CriteriaSearch.Sql.Clause
import CriteriaSearch.Sql.Database
import CriteriaSearch.Sql.Evaluation
import CriteriaSearch.Sql.Execution
import CriteriaSearch.Sql.Expression
import CriteriaSearch.Sql.Fault
import CriteriaSearch.Sql.Function
import CriteriaSearch.Sql.Grammar
import CriteriaSearch.Sql.Hazard
import CriteriaSearch.Sql.Lexer
import CriteriaSearch.Sql.Like
import CriteriaSearch.Sql.Moment
import CriteriaSearch.Sql.Moment.Change
import CriteriaSearch.Sql.Moment.Format
import CriteriaSearch.Sql.Numeral
import CriteriaSearch.Sql.Operation
import CriteriaSearch.Sql.Preparation
import CriteriaSearch.Sql.Reply
import CriteriaSearch.Sql.Repository
import CriteriaSearch.Sql.Statement
import CriteriaSearch.Sql.Table
import CriteriaSearch.Sql.Template
import CriteriaSearch.Sql.Token
import CriteriaSearch.Text.Blank
import CriteriaSearch.Text.Part
import CriteriaSearch.Text.Quoted
import CriteriaSearch.Text.UnprintedTable
import CriteriaSearch.Text.Upper
import CriteriaSearch.Text.UpperTable
import CriteriaSearch.Text.Utf8
import CriteriaSearch.Truth
import CriteriaSearch.Value
import CriteriaSearch.Value.Document
import CriteriaSearch.Value.Reader
import CriteriaSearch.Proofs.Sql.Lexing
import CriteriaSearch.Proofs.Sql.Reading
import CriteriaSearch.Proofs.Sql.Conditions
import CriteriaSearch.Proofs.Number.Error
import CriteriaSearch.Proofs.Number.Scaling
import CriteriaSearch.Proofs.Calendar
import CriteriaSearch.Proofs.Number.Exact
import CriteriaSearch.Proofs.Calendar.Written
import CriteriaSearch.Proofs.Sql.Moment
import CriteriaSearch.Proofs.Sql.Moment.Shown
import CriteriaSearch.Proofs.Calendar.Reading
import CriteriaSearch.Proofs.Calendar.Order
import CriteriaSearch.Proofs.Calendar.Leap
import CriteriaSearch.Proofs.Text.Upper
import CriteriaSearch.Proofs.Sql.Pattern
import CriteriaSearch.Proofs.Sql.Numbers
import CriteriaSearch.Proofs.Sql.Stored
import CriteriaSearch.Proofs.Sql.Agreement
import CriteriaSearch.Proofs.Sql.Filtering
import CriteriaSearch.Proofs.Sorting
import CriteriaSearch.Proofs.Paging
import CriteriaSearch.Proofs.Calendar.Chronological
import CriteriaSearch.Proofs.DateSorting
import CriteriaSearch.Proofs.Documents.SortDocument
import CriteriaSearch.Proofs.Sql.Placeholders
import CriteriaSearch.Proofs.Sql.Binding
import CriteriaSearch.Proofs.Sql.Columns
import CriteriaSearch.Proofs.Sql.Statements
import CriteriaSearch.Proofs.Sql.Selecting
import CriteriaSearch.Proofs.Sql.Ordering
import CriteriaSearch.Proofs.Sql.Inserting
import CriteriaSearch.Proofs.Sql.Recovery
import CriteriaSearch.Proofs.Number.Scientific
import CriteriaSearch.Proofs.Number.Shortest
import CriteriaSearch.Proofs.Number.Numeral
import CriteriaSearch.Proofs.Number.Display
import CriteriaSearch.Proofs.Number.RoundTrip
import CriteriaSearch.Proofs.Applicability
import CriteriaSearch.Proofs.Documents.Matching
import CriteriaSearch.Proofs.SearchIndex.Wildcard
import CriteriaSearch.Proofs.SearchIndex.Clause
import CriteriaSearch.Proofs.SearchIndex.Matching
import CriteriaSearch.Proofs.Registry
import CriteriaSearch.Proofs.Service
import CriteriaSearch.Proofs.Calendar.WholeDay
import CriteriaSearch.Proofs.Faults
import CriteriaSearch.Proofs.Criteria.Document
import CriteriaSearch.Proofs.Service.Adapters
import CriteriaSearch.Proofs.Json.RoundTrip
import CriteriaSearch.Proofs.Comparisons
import CriteriaSearch.Proofs.Connectives
import CriteriaSearch.Proofs.Text.Part
import CriteriaSearch.Proofs.Literal
import CriteriaSearch.Proofs.SingleFilter
import CriteriaSearch.Proofs.Negations
import CriteriaSearch.Proofs.Fields
import CriteriaSearch.Proofs.Padding
import CriteriaSearch.Proofs.BoundDates
import CriteriaSearch.Proofs.Number.Comparison
import CriteriaSearch.Proofs.Descriptor.Validity
import CriteriaSearch.Proofs.Extraction
import CriteriaSearch.Proofs.Criteria.Omission
import CriteriaSearch.Proofs.Repository
import CriteriaSearch.Proofs.SearchIndex.Hits
import CriteriaSearch.Proofs.ValueTypes
