import TypedVars.Number.Notation
import TypedVars.Number.Literal
import TypedVars.Text.Blank
import TypedVars.Text.Quoted
import TypedVars.Text.Lowercase
import TypedVars.Text.Elapsed
import TypedVars.Text.Alphanumeric
import TypedVars.Json.Writer
import TypedVars.Json.Reader
import TypedVars.Value.Json
import TypedVars.Value.Edit
import TypedVars.Amount
import TypedVars.Backend.Storage
import TypedVars.Journal
import TypedVars.Lock.Roster
import TypedVars.Store.System
import TypedVars.Store.Opening
import TypedVars.Journal.Exposition
import TypedVars.Log.Line
import TypedVars.Config.Loading
import TypedVars.Proofs.Lock.Table
import TypedVars.Proofs.Lock.Timeline
import TypedVars.Proofs.Number.Integer
import TypedVars.Proofs.Number.Notation
import TypedVars.Proofs.Value
import TypedVars.Proofs.Kept
import TypedVars.Proofs.Store.Atomic
import TypedVars.Proofs.Store.Lines
import TypedVars.Proofs.Store.History
import TypedVars.Proofs.Store.Ledger
import TypedVars.Proofs.Store.Linear
import TypedVars.Proofs.Store.Progress
import TypedVars.Proofs.Store.Increments
import TypedVars.Proofs.Backend.Dict
import TypedVars.Proofs.Store.Reference
import TypedVars.Proofs.Store.Demand
import TypedVars.Proofs.Journal
import TypedVars.Proofs.Store.Reports
import TypedVars.Proofs.Store.Refinement
import TypedVars.Proofs.Store.Failure
import TypedVars.Proofs.Store.Outcome
import TypedVars.Proofs.Store.Schedule
import TypedVars.Proofs.Store.Completion
import TypedVars.Proofs.Text.ByteOrder
import TypedVars.Proofs.Store.Readers
import TypedVars.Proofs.Json.RoundTrip
import TypedVars.Proofs.Backend.RawMap
import TypedVars.Proofs.Backend.Calls
import TypedVars.Proofs.Backend.Document
import TypedVars.Proofs.Backend.Exposure
import TypedVars.Proofs.Lock.Register
import TypedVars.Proofs.Lock.Fairness
import TypedVars.Proofs.Lock.Refinement
import TypedVars.Proofs.Lock.FirstCome
import TypedVars.Proofs.Lock.Separation
import TypedVars.Proofs.Backend.Separate
import TypedVars.Proofs.Store.Separation
import TypedVars.Proofs.Store.Pace
import TypedVars.Proofs.Number.Nearest
import TypedVars.Proofs.Amount
import TypedVars.Proofs.Store.Addition
import TypedVars.Proofs.Json.Number
import TypedVars.Proofs.Store.Transfer
import TypedVars.Proofs.Store.Account
import TypedVars.Proofs.Store.Tally
import TypedVars.Proofs.Leading
import TypedVars.Proofs.Number.Order
import TypedVars.Proofs.Number.Whole
import TypedVars.Proofs.Carriers
import TypedVars.Proofs.Store.Coherence
import TypedVars.Proofs.Store.Resets
import TypedVars.Proofs.Text.Trim
import TypedVars.Proofs.Text.AnyCase
import TypedVars.Proofs.Number.Literal
import TypedVars.Proofs.Store.Decoding
import TypedVars.Proofs.Json.Grammar
import TypedVars.Proofs.Backend.Opening
import TypedVars.Proofs.Json.Readings
import TypedVars.Proofs.Config
import TypedVars.Proofs.Backend.Evolution
import TypedVars.Proofs.Backend.Upkeep
