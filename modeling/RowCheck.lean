import RowCheck.Assertion
import RowCheck.AssertionError
import RowCheck.Backend
import RowCheck.BackendError
import RowCheck.Cell
import RowCheck.Check
import RowCheck.Clone
import RowCheck.ColumnType
import RowCheck.CommandLine.Arguments
import RowCheck.CommandLine.Run
import RowCheck.CommandLine.Shorthand
import RowCheck.Config.Error
import RowCheck.Config.Libpq
import RowCheck.Config.Percent
import RowCheck.Config.Profile
import RowCheck.Config.Records
import RowCheck.Config.Sources
import RowCheck.Config.Url
import RowCheck.Connection
import RowCheck.Factory
import RowCheck.Failure
import RowCheck.Fault
import RowCheck.Json.Basic
import RowCheck.Json.Fault
import RowCheck.Json.Printer
import RowCheck.Json.Reader
import RowCheck.Main
import RowCheck.Number.Binary64
import RowCheck.Number.Extended
import RowCheck.Number.Layout
import RowCheck.Number.Power
import RowCheck.Number.Shortest
import RowCheck.Proofs.Assertion.Cycle
import RowCheck.Proofs.Assertion.Outcome
import RowCheck.Proofs.Assertion.Trace
import RowCheck.Proofs.Clone.Canonical
import RowCheck.Proofs.Clone.Decoded
import RowCheck.Proofs.Clone.Stopping
import RowCheck.Proofs.Clone.Tables
import RowCheck.Proofs.CommandLine.Printed
import RowCheck.Proofs.Config.Address
import RowCheck.Proofs.Config.AddressGrammar
import RowCheck.Proofs.Config.ConnectionString
import RowCheck.Proofs.Config.Percent
import RowCheck.Proofs.Config.Precedence
import RowCheck.Proofs.Except
import RowCheck.Proofs.Number.Binary64
import RowCheck.Proofs.Results.Canonical
import RowCheck.Proofs.Results.Nested
import RowCheck.Proofs.Server.Breakdown
import RowCheck.Proofs.Server.CalendarOutput
import RowCheck.Proofs.Server.Exchange
import RowCheck.Proofs.Server.Loss
import RowCheck.Proofs.Server.Modes
import RowCheck.Proofs.Server.Native
import RowCheck.Proofs.Server.Output
import RowCheck.Proofs.Server.Places
import RowCheck.Proofs.Server.Readable
import RowCheck.Proofs.Server.Translated
import RowCheck.Proofs.Server.Width
import RowCheck.Proofs.Sql.CopyTable
import RowCheck.Proofs.Sql.CopyText
import RowCheck.Proofs.Sql.Loadable
import RowCheck.Proofs.Sql.Loading
import RowCheck.Proofs.Sql.Lookup
import RowCheck.Proofs.Sql.NumberText
import RowCheck.Proofs.Sql.QuotedNames
import RowCheck.Proofs.Sql.Reread
import RowCheck.Proofs.Sql.Schemas
import RowCheck.Proofs.Sql.Storing
import RowCheck.Proofs.Sql.TableText
import RowCheck.Proofs.Sql.Token
import RowCheck.Proofs.Sql.Transaction
import RowCheck.Proofs.Text.Digits
import RowCheck.Proofs.Text.Joined
import RowCheck.Proofs.Wire.Bytes
import RowCheck.Proofs.Wire.Calendar
import RowCheck.Proofs.Wire.CalendarReading
import RowCheck.Proofs.Wire.Clock
import RowCheck.Proofs.Wire.ClockReading
import RowCheck.Proofs.Wire.Fraction
import RowCheck.Proofs.Wire.IntervalReading
import RowCheck.Proofs.Wire.Numeric
import RowCheck.Proofs.Wire.NumericReading
import RowCheck.Proofs.Wire.NumericShape
import RowCheck.Proofs.Wire.Truncated
import RowCheck.Results
import RowCheck.Server.Error
import RowCheck.Server.Execution
import RowCheck.Server.Script
import RowCheck.Server.Session
import RowCheck.Server.SqlState
import RowCheck.Server.Types
import RowCheck.Sql.Aggregation
import RowCheck.Sql.Binding
import RowCheck.Sql.Block
import RowCheck.Sql.Change
import RowCheck.Sql.Coding
import RowCheck.Sql.Connection
import RowCheck.Sql.Copy
import RowCheck.Sql.Database
import RowCheck.Sql.Definition
import RowCheck.Sql.Engine
import RowCheck.Sql.Error
import RowCheck.Sql.Evaluate
import RowCheck.Sql.Fixtures
import RowCheck.Sql.Formula
import RowCheck.Sql.Identifier
import RowCheck.Sql.NumberText
import RowCheck.Sql.Operation
import RowCheck.Sql.Parser
import RowCheck.Sql.Plan.Choice
import RowCheck.Sql.Plan.Estimate
import RowCheck.Sql.Plan.Loop
import RowCheck.Sql.Plan.Order
import RowCheck.Sql.Plan.Term
import RowCheck.Sql.Preparation
import RowCheck.Sql.Reduction.Counting
import RowCheck.Sql.Reduction.KnownValue
import RowCheck.Sql.Reduction.Merging
import RowCheck.Sql.Reduction.Narrowing
import RowCheck.Sql.Rows
import RowCheck.Sql.Run
import RowCheck.Sql.Scan
import RowCheck.Sql.Scope
import RowCheck.Sql.Sorting
import RowCheck.Sql.Syntax
import RowCheck.Sql.Token
import RowCheck.Sql.Value
import RowCheck.Text.Blank
import RowCheck.Text.Digits
import RowCheck.Text.Escaped
import RowCheck.Text.Quoted
import RowCheck.Text.Split
import RowCheck.Text.Utf8
import RowCheck.Toml.Basic
import RowCheck.Toml.Quoted
import RowCheck.Toml.Reader
import RowCheck.Toml.Scalar
import RowCheck.Wire.Bytes
import RowCheck.Wire.Calendar
import RowCheck.Wire.Clock
import RowCheck.Wire.Numeric
import RowCheck.Wire.Value
