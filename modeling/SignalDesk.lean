import SignalDesk.Main
import SignalDesk.Proofs.Desk.Delivery
import SignalDesk.Proofs.Desk.Refusals
import SignalDesk.Proofs.Desk.Restart
import SignalDesk.Proofs.Ledger.Books
import SignalDesk.Proofs.Market.Fallback
import SignalDesk.Proofs.Network.Order
import SignalDesk.Proofs.Run.Admission
import SignalDesk.Proofs.Run.Alone
import SignalDesk.Proofs.Run.Contest
import SignalDesk.Proofs.Run.Rehearsal
import SignalDesk.Proofs.Run.Settlement
import SignalDesk.Proofs.Signal.Outcome
import SignalDesk.Proofs.Strategy.Recency
import SignalDesk.Proofs.Sweep.Isolation
import SignalDesk.Proofs.Sweep.Repetition
import SignalDesk.Service.Routes
import SignalDesk.Statement.Tables
import SignalDesk.Proofs.Store.Course
import SignalDesk.Proofs.Desk.Chronicle
import SignalDesk.Proofs.Network.Interleaving
import SignalDesk.Proofs.Run.Attempts
import SignalDesk.Proofs.Run.Budget
import SignalDesk.Proofs.Sweep.Budget
import SignalDesk.Proofs.Number.Whole
import SignalDesk.Proofs.Network.Under
import SignalDesk.Proofs.Run.Freshness
import SignalDesk.Proofs.Store.Gates
import SignalDesk.Proofs.Time.Calendar
import SignalDesk.Proofs.Time.Written
import SignalDesk.Proofs.Desk.Gates
import SignalDesk.Proofs.Run.Waiting
import SignalDesk.Proofs.Activation.Overrides
import SignalDesk.Proofs.Service.Callers
import SignalDesk.Proofs.Desk.Intervals
import SignalDesk.Proofs.Run.Commutation
import SignalDesk.Proofs.Strategy.Checked
import SignalDesk.Proofs.Strategy.Rules
import SignalDesk.Proofs.Desk.Activations
import SignalDesk.Proofs.Signal.Crossings
import SignalDesk.Proofs.Strategy.LowerCase
import SignalDesk.Proofs.Strategy.Lines
import SignalDesk.Proofs.Strategy.Wrapped
import SignalDesk.Proofs.Indicator.Averages
import SignalDesk.Proofs.Indicator.Strength
import SignalDesk.Proofs.Signal.Mirror
import SignalDesk.Proofs.Signal.Levels
import SignalDesk.Proofs.Run.Replies
import SignalDesk.Proofs.Run.Opening
import SignalDesk.Proofs.Market.Consistency
import SignalDesk.Proofs.Exchange.Quantity
import SignalDesk.Proofs.Store.Balances
import SignalDesk.Proofs.Run.Purchases
import SignalDesk.Proofs.Store.Lookup
import SignalDesk.Proofs.Exchange.Legs
import SignalDesk.Proofs.Service.Writes
import SignalDesk.Proofs.Desk.Columns
import SignalDesk.Proofs.Activation.WrittenBack
import SignalDesk.Proofs.Sweep.Results
import SignalDesk.Proofs.Sweep.Loop
