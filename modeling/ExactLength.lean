import ExactLength.Config.Parse
import ExactLength.Error.Passage
import ExactLength.Session.Polled
import ExactLength.Proofs.Stack.Completion
import ExactLength.Proofs.Stack.Accounting
import ExactLength.Proofs.Stack.Failure
import ExactLength.Proofs.Stack.Shutdown
import ExactLength.Proofs.Stack.Admission
import ExactLength.Proofs.Stack.Stream
import ExactLength.Proofs.Polled.Closing
import ExactLength.Proofs.Polled.Accounting
import ExactLength.Proofs.Polled.Patience
import ExactLength.Proofs.Stack.Closed
import ExactLength.Proofs.Stack.Flushing
import ExactLength.Proofs.Stack.Pipeline
import ExactLength.Proofs.Transfer.Agreement
import ExactLength.Proofs.Sink.Gathering
import ExactLength.Proofs.Stack.InTurn
import ExactLength.Proofs.Polled.Excess
import ExactLength.Proofs.Budget.Completion
import ExactLength.Proofs.Polled.ClosedAgain
import ExactLength.Proofs.Device.Frozen
import ExactLength.Proofs.Stack.LastData
import ExactLength.Proofs.Device.Retries
import ExactLength.Proofs.Config.Decimal
import ExactLength.Proofs.Error.RoundTrip
