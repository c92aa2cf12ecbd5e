import Crossover.Number.Scalar
import Crossover.Number.Notation
import Crossover.Number.Reading
import Crossover.Text.Blank
import Crossover.Text.Quoted
import Crossover.Time.Stamp
import Crossover.Time.Interval
import Crossover.Market.Rule
import Crossover.Trading.Budget
import Crossover.Trading.Simulated
import Crossover.Trading.Live
import Crossover.Session.Line
import Crossover.Session.Attendance
import Crossover.Session.Feed
import Crossover.Session.Run
import Crossover.Session.Work
import Crossover.Session.Folder
import Crossover.Session.Rehearsal
import Crossover.Json.Lexeme
import Crossover.Json.Record
import Crossover.Remote.Client
import Crossover.Settings.Validity
import Crossover.Main
import Crossover.Market.Kline
import Crossover.Log.Trading
import Crossover.Log.Feeding
import Crossover.Log.Filter
import Crossover.Text.Alphanumeric
import Crossover.Proofs.Session.Inevitable
import Crossover.Proofs.Session.Moves
import Crossover.Proofs.Session.Replayed
import Crossover.Proofs.Session.Ending
import Crossover.Proofs.Trading.Attempt
import Crossover.Proofs.Trading.Ledger
import Crossover.Proofs.Trading.Calls
import Crossover.Proofs.Trading.Keeping
import Crossover.Proofs.Trading.Stored
import Crossover.Proofs.Trading.Dealings
import Crossover.Proofs.Trading.ClosedOnce
import Crossover.Proofs.Trading.OnePosition
import Crossover.Proofs.Trading.Agreement
import Crossover.Proofs.Trading.Growth
import Crossover.Proofs.Trading.Reconciliation
import Crossover.Proofs.Trading.Stranded
import Crossover.Proofs.Market.Exponential
import Crossover.Proofs.Market.FromScratch
import Crossover.Proofs.Market.Smoothing
import Crossover.Proofs.Market.Readiness
import Crossover.Proofs.Market.Falling
import Crossover.Proofs.Market.Rolling
import Crossover.Proofs.Market.PriceUnit
import Crossover.Proofs.Trading.ExchangeCalls
import Crossover.Proofs.Trading.Restart
import Crossover.Proofs.Trading.Remembering
import Crossover.Proofs.Session.Lending
import Crossover.Proofs.Time.Calendar
import Crossover.Proofs.Time.Stamp
import Crossover.Proofs.Json.Reading
import Crossover.Proofs.Json.Numbers
import Crossover.Proofs.Json.Records
import Crossover.Proofs.Remote.RoundTrip
import Crossover.Proofs.Remote.Paging
import Crossover.Proofs.Session.Passing
import Crossover.Proofs.Session.Arrivals
import Crossover.Proofs.Session.Attending
import Crossover.Proofs.Session.IdleExit
import Crossover.Proofs.Trading.Dialogue
import Crossover.Proofs.Session.FirstFailure
import Crossover.Proofs.Session.Polling
import Crossover.Proofs.Time.Interval
import Crossover.Proofs.Settings.Validity
import Crossover.Proofs.Json.Grammar
import Crossover.Proofs.Json.Strings
import Crossover.Proofs.Json.NumberTexts
import Crossover.Proofs.Json.Exact
import Crossover.Proofs.Json.Values
import Crossover.Proofs.Market.Kline
import Crossover.Proofs.Number.Rounding
import Crossover.Proofs.Number.Finite
import Crossover.Proofs.Number.Range
import Crossover.Proofs.Number.Decimals
import Crossover.Proofs.Market.Finite
import Crossover.Proofs.Market.Following
import Crossover.Proofs.Command.Wiring
import Crossover.Proofs.Session.Delivering
