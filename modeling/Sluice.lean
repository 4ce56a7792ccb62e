import Sluice.Config.Json
import Sluice.Main
import Sluice.Mqtt.Bridge
import Sluice.Rehearsal.Stage
import Sluice.Scalar
import Sluice.Proofs.Broker.Handles
import Sluice.Proofs.Task.Moment
import Sluice.Proofs.Task.Terms
import Sluice.Proofs.Resources.Holdings
import Sluice.Proofs.Resources.Order
import Sluice.Proofs.Resources.Alone
import Sluice.Proofs.Task.Scene
import Sluice.Proofs.Task.Sound
import Sluice.Proofs.Router.Course
import Sluice.Proofs.Router.Gate
import Sluice.Proofs.Router.Publishing
import Sluice.Proofs.Resources.Discreet
import Sluice.Proofs.Router.Life
import Sluice.Proofs.Task.Progress
import Sluice.Proofs.Router.AllOrNothing
import Sluice.Proofs.Router.HighWaterMark
import Sluice.Proofs.Broker.Kinds
import Sluice.Proofs.Router.Topics
import Sluice.Proofs.Wire.Reading
import Sluice.Proofs.Wire.Envelopes
import Sluice.Proofs.Resources.Attempts
import Sluice.Proofs.Resources.Release
import Sluice.Proofs.Broker.History
import Sluice.Proofs.Broker.Accounting
import Sluice.Proofs.Broker.Transactions
import Sluice.Proofs.Wire.Payloads
import Sluice.Proofs.Wire.Scalars
import Sluice.Proofs.Encoding.Objects
import Sluice.Proofs.Json.Reading
import Sluice.Proofs.Json.Objects
import Sluice.Proofs.Json.Variants
import Sluice.Proofs.Config.RoundTrip
import Sluice.Proofs.Task.Ranks
import Sluice.Proofs.Task.Calls
import Sluice.Proofs.Router.Sendings
import Sluice.Proofs.Router.Scripts
import Sluice.Proofs.Router.CallOrder
import Sluice.Proofs.Task.Stillness
import Sluice.Proofs.Task.Shutdown
import Sluice.Proofs.Task.Lockless
import Sluice.Proofs.Task.Heeding
import Sluice.Proofs.Admission.Rests
import Sluice.Proofs.Router.Prospects
import Sluice.Proofs.Router.Reports
import Sluice.Proofs.Router.Aftermath
import Sluice.Proofs.Router.Closing
import Sluice.Proofs.Correlation.Paths
import Sluice.Proofs.Admission.Timing
import Sluice.Proofs.Router.Lateness
import Sluice.Proofs.Admission.Wakeups
import Sluice.Proofs.Admission.Browsers
import Sluice.Proofs.Admission.Signals
import Sluice.Proofs.Text.Trimming
import Sluice.Proofs.Correlation.Templates
import Sluice.Proofs.Correlation.Assignment
import Sluice.Proofs.Encoding.Maps
import Sluice.Proofs.Number.Widening
import Sluice.Proofs.Encoding.Getters
import Sluice.Proofs.Broker.Failures
import Sluice.Proofs.Broker.OpenHandles
import Sluice.Proofs.Broker.Inspections
import Sluice.Proofs.Keyed
import Sluice.Proofs.Wire.Cuts
import Sluice.Proofs.Wire.Forms
import Sluice.Proofs.Wire.EnvelopeForms
import Sluice.Proofs.Wire.Canonical
import Sluice.Proofs.Mqtt.Publishers
import Sluice.Proofs.Mqtt.Driving
import Sluice.Proofs.Config.Parameters
import Sluice.Proofs.Directory.PropertyLines
import Sluice.Proofs.Directory.Layouts
import Sluice.Proofs.Directory.Precedence
import Sluice.Proofs.Task.Undisturbed
import Sluice.Proofs.Resources.Willing
import Sluice.Proofs.Demo.Start
