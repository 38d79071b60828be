import TimeWindow.Binary64.Reading
import TimeWindow.Failure.Message
import TimeWindow.Guide
import TimeWindow.Moment.Building
import TimeWindow.Proofs.Calendar.DateTime
import TimeWindow.Proofs.Numeral.Digits
import TimeWindow.Proofs.Text.Strip
import TimeWindow.Session.Run
import TimeWindow.Value.Range
import TimeWindow.Proofs.Timestamp.Cutting
import TimeWindow.Proofs.Timestamp.Spelling
import TimeWindow.Proofs.Timestamp.Reading
import TimeWindow.Proofs.Numeral.Fraction
import TimeWindow.Proofs.Timestamp.Writing
import TimeWindow.Proofs.Timestamp.Canonical
import TimeWindow.Proofs.Zone.Offsets
import TimeWindow.Proofs.Zone.Seasons
import TimeWindow.Proofs.Moment.RoundTrip
import TimeWindow.Proofs.Json.Spelling
import TimeWindow.Proofs.Json.Number
import TimeWindow.Proofs.Json.Containers
import TimeWindow.Proofs.Json.Document
import TimeWindow.Proofs.Interval.Payload
import TimeWindow.Proofs.Json.Meaning
import TimeWindow.Proofs.Interval.Document
import TimeWindow.Proofs.Interval.Row
import TimeWindow.Proofs.Value.Written
import TimeWindow.Proofs.Failure.Writing
import TimeWindow.Proofs.Encoding.Detection
import TimeWindow.Proofs.Interval.Bytes
import TimeWindow.Proofs.Interval.Outcome
import TimeWindow.Proofs.Interval.RoundTrip
import TimeWindow.Proofs.Interval.Columns
import TimeWindow.Proofs.Interval.Overflow
import TimeWindow.Proofs.Zone.Changes
import TimeWindow.Proofs.Zone.Clock
import TimeWindow.Proofs.Zone.LocalTimes
import TimeWindow.Proofs.Moment.Showing
import TimeWindow.Proofs.Moment.StandardText
import TimeWindow.Proofs.Numeral.Decimal
import TimeWindow.Proofs.Timestamp.Failure
import TimeWindow.Proofs.Interval.Strings
import TimeWindow.Proofs.Duration.Reading
import TimeWindow.Proofs.Duration.Writing
import TimeWindow.Proofs.Interval.Elements
import TimeWindow.Proofs.Interval.Tables
import TimeWindow.Proofs.Moment.UniversalTime
import TimeWindow.Proofs.Moment.Difference
import TimeWindow.Proofs.Session.Run
import TimeWindow.Proofs.Timestamp.Order
import TimeWindow.Proofs.Interval.Span
import TimeWindow.Proofs.Interval.Views
import TimeWindow.Proofs.Timestamp.Distinct
import TimeWindow.Proofs.Interval.Text
import TimeWindow.Proofs.Numeral.Shortest
