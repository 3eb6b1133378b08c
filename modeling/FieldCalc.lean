import FieldCalc.Binary64.Bits
import FieldCalc.Desk.Widget
import FieldCalc.Display.Amount
import FieldCalc.Main
import FieldCalc.Proofs.Calculator.Replay
import FieldCalc.Proofs.Calculator.Typing
import FieldCalc.Proofs.Registry.Commit
import FieldCalc.Proofs.Registry.Consistency
import FieldCalc.Proofs.Field.Reopened
import FieldCalc.Proofs.Registry.Recency
import FieldCalc.Proofs.Web.Serving
import FieldCalc.Proofs.Web.Evaluation
import FieldCalc.Proofs.Session.Sharing
import FieldCalc.Proofs.Calculator.CurrentValue
import FieldCalc.Proofs.Expression.Overflow
import FieldCalc.Proofs.Registry.Batches
import FieldCalc.Proofs.Field.Agreement
import FieldCalc.Proofs.Decimal.Unique
import FieldCalc.Proofs.Display.Nearest
import FieldCalc.Proofs.Session.ShownAgain
import FieldCalc.Proofs.Field.Resubmitted
import FieldCalc.Proofs.Display.Clamped
import FieldCalc.Proofs.Calculator.Recalling
import FieldCalc.Proofs.Calculator.Erasing
import FieldCalc.Proofs.Calculator.Sealed
import FieldCalc.Proofs.Session.Cancelling
import FieldCalc.Proofs.Expression.Misnamed
import FieldCalc.Proofs.Calculator.Equals
import FieldCalc.Proofs.Calculator.Flags
import FieldCalc.Proofs.Calculator.SignKey
import FieldCalc.Proofs.Desk.Events
import FieldCalc.Proofs.Desk.Mirror
import FieldCalc.Proofs.Desk.Serving
