import Conveyor.Concurrent
import Conveyor.Decimal.Reading
import Conveyor.Main
import Conveyor.Description.Document
import Conveyor.Event.Document
import Conveyor.Proofs.Interpolation
import Conveyor.Proofs.Paths
import Conveyor.Proofs.Perform
import Conveyor.Proofs.Retrying
import Conveyor.Proofs.Table
import Conveyor.Proofs.Cycle
import Conveyor.Proofs.Validation
import Conveyor.Proofs.Agenda
import Conveyor.Proofs.Rank
import Conveyor.Proofs.Calls
import Conveyor.Proofs.Akin
import Conveyor.Proofs.Course
import Conveyor.Proofs.Outcome
import Conveyor.Proofs.Steadfast
import Conveyor.Proofs.Drive
import Conveyor.Proofs.Order
import Conveyor.Proofs.Ports
import Conveyor.Proofs.Completion
import Conveyor.Proofs.Items
import Conveyor.Proofs.Heeding
import Conveyor.Proofs.Settling
import Conveyor.Proofs.Cancellation
import Conveyor.Proofs.Echo
import Conveyor.Proofs.Notices
import Conveyor.Proofs.Prefix
import Conveyor.Proofs.Locality
import Conveyor.Proofs.Dataflow
import Conveyor.Proofs.Agreement
import Conveyor.Proofs.Hearing
import Conveyor.Proofs.Callbacks
import Conveyor.Proofs.Reach
import Conveyor.Proofs.Abandonment
import Conveyor.Proofs.Dealings
import Conveyor.Proofs.Purchase
import Conveyor.Proofs.Finite
import Conveyor.Proofs.Values
import Conveyor.Proofs.Reading
import Conveyor.Proofs.Base64
import Conveyor.Proofs.Documents
import Conveyor.Proofs.Quoting
import Conveyor.Proofs.Numerals
import Conveyor.Proofs.Spelling
import Conveyor.Proofs.Header
import Conveyor.Proofs.Rounds
import Conveyor.Proofs.Repayment
import Conveyor.Proofs.Containment
import Conveyor.Proofs.Reports
import Conveyor.Proofs.Drifting
import Conveyor.Proofs.Interleaving
import Conveyor.Proofs.Delimiters
import Conveyor.Proofs.Parameters
import Conveyor.Proofs.FarPorts
import Conveyor.Proofs.Magnitude
import Conveyor.Proofs.Backoff
import Conveyor.Proofs.Descriptions
import Conveyor.Proofs.Selection
import Conveyor.Proofs.Simultaneous
import Conveyor.Proofs.Scaling
import Conveyor.Proofs.Balance
