import CallMeter.Files.Tree
import CallMeter.Main
import CallMeter.Proofs.Decimal.Digits
import CallMeter.Proofs.Decimal.Doubles
import CallMeter.Proofs.Decimal.Shortest
import CallMeter.Proofs.Decimal.WholeNumbers
import CallMeter.Proofs.Double.Arithmetic
import CallMeter.Proofs.Double.Error
import CallMeter.Proofs.Double.Order
import CallMeter.Proofs.Double.Parts
import CallMeter.Proofs.Double.Rounding
import CallMeter.Proofs.Double.Whole
import CallMeter.Proofs.Http.UsageRequest
import CallMeter.Proofs.Json.DoubleText
import CallMeter.Proofs.Json.Given
import CallMeter.Proofs.Json.Lexemes
import CallMeter.Proofs.Json.Members
import CallMeter.Proofs.Json.Plain
import CallMeter.Proofs.Json.Quoted
import CallMeter.Proofs.Json.ReadBack
import CallMeter.Proofs.Json.Rereading
import CallMeter.Proofs.Json.Scaling
import CallMeter.Proofs.Json.Spelled
import CallMeter.Proofs.Json.Tokens
import CallMeter.Proofs.Pricing.Fields
import CallMeter.Proofs.Pricing.Lookup
import CallMeter.Proofs.Pricing.TokenCost
import CallMeter.Proofs.Record.Counts
import CallMeter.Proofs.Store.Failures
import CallMeter.Proofs.Store.Interleaving
import CallMeter.Proofs.Store.Kept
import CallMeter.Proofs.Store.Keyset
import CallMeter.Proofs.Store.Logged
import CallMeter.Proofs.Store.Offset
import CallMeter.Proofs.Store.Overtaking
import CallMeter.Proofs.Store.Profiles
import CallMeter.Proofs.Store.Resolution
import CallMeter.Proofs.Store.Rows
import CallMeter.Proofs.Store.Scans
import CallMeter.Proofs.Store.Seeding
import CallMeter.Proofs.Text.Percent
import CallMeter.Proofs.Text.Utf8
import CallMeter.Proofs.Time.Calendar
import CallMeter.Proofs.Time.Counted
import CallMeter.Proofs.Time.Durations
import CallMeter.Proofs.Time.IsoText
import CallMeter.Proofs.Time.Timestamps
import CallMeter.Proofs.Usage.Aggregate
import CallMeter.Proofs.Usage.Answers
import CallMeter.Proofs.Usage.Billing
import CallMeter.Proofs.Usage.Dated
import CallMeter.Proofs.Usage.Days
import CallMeter.Proofs.Usage.Failures
import CallMeter.Proofs.Usage.Locality
import CallMeter.Proofs.Usage.Merged
import CallMeter.Proofs.Usage.Seeded
import CallMeter.Proofs.Usage.Spend
import CallMeter.Proofs.Usage.Summaries
import CallMeter.Proofs.Usage.Totals
import CallMeter.Proofs.Usage.WellFormed
import CallMeter.Proofs.Usage.Widening
import CallMeter.Proofs.Usage.Windows
import CallMeter.Proofs.Pricing.Overlaps
import CallMeter.Proofs.Double.Magnitude
import CallMeter.Proofs.Pricing.Costliest
import CallMeter.Proofs.Text.ByteOrder
import CallMeter.Proofs.Usage.RowOrder
import CallMeter.Proofs.Usage.OneUseCase
import CallMeter.Proofs.Record.Fields
import CallMeter.Proofs.Store.OffsetCursors
import CallMeter.Proofs.Store.TableCursors
