import Eligibility.Calendar.Date
import Eligibility.Calendar.Moment
import Eligibility.Calendar.Reading
import Eligibility.Combination
import Eligibility.Comparison
import Eligibility.Criteria.Basic
import Eligibility.Criteria.Evaluation
import Eligibility.Criteria.Plan
import Eligibility.Decimal
import Eligibility.Decision
import Eligibility.Digest
import Eligibility.Double.Basic
import Eligibility.Double.Reading
import Eligibility.Double.Shortest
import Eligibility.Event
import Eligibility.Expression.Basic
import Eligibility.Expression.Fault
import Eligibility.Expression.Reader
import Eligibility.Expression.Token
import Eligibility.Failure
import Eligibility.Field
import Eligibility.Group.Basic
import Eligibility.Group.Cluster
import Eligibility.Group.Evaluation
import Eligibility.Insertion
import Eligibility.Installation
import Eligibility.Json.Basic
import Eligibility.Json.Reader
import Eligibility.Json.Writer
import Eligibility.Keyed
import Eligibility.Lenient
import Eligibility.Log.Context
import Eligibility.Log.Line
import Eligibility.Metrics
import Eligibility.Noted
import Eligibility.Operator
import Eligibility.Pattern.Basic
import Eligibility.Pattern.Reader
import Eligibility.Pattern.Search
import Eligibility.Quantity
import Eligibility.Record.Reader
import Eligibility.Record.Writer
import Eligibility.Report
import Eligibility.Rule.Basic
import Eligibility.Rule.Evaluation
import Eligibility.Score
import Eligibility.Service.Basic
import Eligibility.Service.Batch
import Eligibility.Service.Evaluation
import Eligibility.Service.Gather
import Eligibility.Service.Upkeep
import Eligibility.Settings.Basic
import Eligibility.Settings.Reading
import Eligibility.Step
import Eligibility.Store.Basic
import Eligibility.Store.Client
import Eligibility.Store.Memory
import Eligibility.Store.Shared
import Eligibility.Subject.Canonical
import Eligibility.Subject.Validation
import Eligibility.Text.Blank
import Eligibility.Text.Case
import Eligibility.Text.Digit
import Eligibility.Text.Identifier
import Eligibility.Text.Numeral
import Eligibility.Text.Printable
import Eligibility.Text.Quoted
import Eligibility.Text.Spans
import Eligibility.Text.Word
import Eligibility.Value.Basic
import Eligibility.Value.Equal
import Eligibility.Value.Instant
import Eligibility.Value.Loose
import Eligibility.Value.Number
import Eligibility.Value.Written
import Eligibility.Proofs.Double.ReadBack
import Eligibility.Proofs.Json.Number
import Eligibility.Proofs.Json.RoundTrip
import Eligibility.Proofs.Record.RoundTrip
import Eligibility.Proofs.Service.Dropping
import Eligibility.Proofs.Service.Faults
import Eligibility.Proofs.Service.Invalidation
import Eligibility.Proofs.Service.Keeps
import Eligibility.Proofs.Service.Key
import Eligibility.Proofs.Service.Overlap
import Eligibility.Proofs.Service.Run
import Eligibility.Proofs.Service.Transparency
import Eligibility.Proofs.Step
import Eligibility.Proofs.Store.Client
import Eligibility.Proofs.Store.Exchange
import Eligibility.Proofs.Store.Sweep
import Eligibility.Proofs.Store.Filed
import Eligibility.Proofs.Store.Memory
import Eligibility.Proofs.Store.Shared
import Eligibility.Proofs.Text.Digits
import Eligibility.Proofs.Expression.Grammar
import Eligibility.Proofs.Expression.Reading
import Eligibility.Proofs.Expression.Rendering
import Eligibility.Proofs.Trial
import Eligibility.Proofs.Criteria.Outcome
import Eligibility.Proofs.Criteria.Closed
import Eligibility.Proofs.Criteria.Skipping
import Eligibility.Proofs.Calendar.IsoText
import Eligibility.Proofs.Subject.Plain
import Eligibility.Proofs.Decimal.ReadBack
import Eligibility.Proofs.Text.Quoted
import Eligibility.Proofs.Calendar.Quoted
import Eligibility.Proofs.Text.Listed
import Eligibility.Proofs.Value.Quoted
import Eligibility.Proofs.Criteria.Fields
import Eligibility.Proofs.Subject.SameText
import Eligibility.Proofs.Value.Shown
import Eligibility.Proofs.Double.Order
import Eligibility.Proofs.Score.Order
import Eligibility.Proofs.Criteria.Returning
import Eligibility.Proofs.Rule.Outcome
import Eligibility.Proofs.Rule.Weight
import Eligibility.Proofs.Criteria.Weighing
import Eligibility.Proofs.Decision
import Eligibility.Proofs.Criteria.Raising
import Eligibility.Proofs.Store.Calls
import Eligibility.Proofs.Store.Tagged
import Eligibility.Proofs.Store.Timestamped
import Eligibility.Proofs.Criteria.Trace
import Eligibility.Proofs.Subject.JsonData
import Eligibility.Proofs.Store.Agreement
import Eligibility.Proofs.Store.Emptying
import Eligibility.Proofs.Service.Lasting
import Eligibility.Proofs.Service.Flight
import Eligibility.Proofs.Service.SingleFlight
import Eligibility.Proofs.Record.Readable
import Eligibility.Proofs.Score.Unrounded
import Eligibility.Proofs.Criteria.Reordering
import Eligibility.Proofs.Service.Parts
import Eligibility.Proofs.Service.Batch
import Eligibility.Proofs.Service.Again
import Eligibility.Proofs.Service.Tally
import Eligibility.Proofs.Service.Passage
import Eligibility.Proofs.Service.Reliable
import Eligibility.Proofs.Service.Watched
import Eligibility.Proofs.Service.Accounted
import Eligibility.Proofs.Service.Accounts
import Eligibility.Proofs.Service.Healing
import Eligibility.Proofs.Value.Members
import Eligibility.Proofs.Criteria.Unread
import Eligibility.Proofs.Criteria.Magnitude
import Eligibility.Proofs.Service.Families
import Eligibility.Proofs.Service.Failing
import Eligibility.Proofs.Service.WarmUp
import Eligibility.Proofs.Insertion
import Eligibility.Proofs.Decision.Greatest
import Eligibility.Proofs.Criteria.Planned
import Eligibility.Proofs.Comparison
import Eligibility.Proofs.Comparison.Complement
import Eligibility.Proofs.Value.Same
import Eligibility.Proofs.Value.Loose
import Eligibility.Proofs.Rule.Conditions
import Eligibility.Proofs.Group.Unmet
import Eligibility.Proofs.Group.Cluster
import Eligibility.Proofs.Comparison.Ordered
import Eligibility.Proofs.Comparison.Members
import Eligibility.Proofs.Comparison.Dated
import Eligibility.Proofs.Calendar.ReadBack
import Eligibility.Proofs.Comparison.Written
import Eligibility.Proofs.Score.Range
import Eligibility.Proofs.Combination
import Eligibility.Proofs.Combination.Rising
import Eligibility.Proofs.Rule.Consistent
import Eligibility.Proofs.Criteria.Consistent
import Eligibility.Proofs.Combination.ByExpression
import Eligibility.Proofs.Text.Integer
import Eligibility.Proofs.Field.Resolution
import Eligibility.Proofs.Subject.Limits
import Eligibility.Proofs.Expression.Cursor
import Eligibility.Proofs.Pattern.Greedy
import Eligibility.Proofs.Expression.Matching
import Eligibility.Proofs.Expression.Lossless
import Eligibility.Proofs.Record.FixedPoint
