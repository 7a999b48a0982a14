import KnxIp.Config.Text
import KnxIp.Frame.Status
import KnxIp.Link
import KnxIp.Session.Operation
import KnxIp.Simulation
import KnxIp.Proofs.Reading
import KnxIp.Proofs.Frame.Header
import KnxIp.Proofs.Frame.RoundTrip
import KnxIp.Proofs.Frame.Format
import KnxIp.Proofs.Frame.NormalForm
import KnxIp.Proofs.Frame.Buffers
import KnxIp.Proofs.Text.Numerals
import KnxIp.Proofs.Address.Spelling
import KnxIp.Proofs.Text.Trimming
import KnxIp.Proofs.Config.Lines
import KnxIp.Proofs.Config.Fields
import KnxIp.Proofs.Config.Settings
import KnxIp.Proofs.Config.Rewording
import KnxIp.Proofs.Config.Repeats
import KnxIp.Proofs.Cemi.Format
import KnxIp.Proofs.Cemi.RoundTrip
import KnxIp.Proofs.Cemi.NormalForm
import KnxIp.Proofs.Dpt.RoundTrip
import KnxIp.Proofs.Registry.Tables
import KnxIp.Proofs.Registry.Usage
import KnxIp.Proofs.Session.Counters
import KnxIp.Proofs.Session.Outstanding
import KnxIp.Proofs.Session.Heartbeats
import KnxIp.Proofs.Session.Failures
import KnxIp.Proofs.Session.Activity
import KnxIp.Proofs.Registry.Bindings
import KnxIp.Proofs.Registry.Reads
import KnxIp.Proofs.Registry.Updates
import KnxIp.Proofs.Client.Move
import KnxIp.Proofs.Client.Calls
import KnxIp.Proofs.Client.Sender
import KnxIp.Proofs.Client.Slots
import KnxIp.Proofs.Client.Quiet
import KnxIp.Proofs.Client.Mailboxes
import KnxIp.Proofs.Client.Inbox
import KnxIp.Proofs.Client.Hearing
import KnxIp.Proofs.Client.Values
import KnxIp.Proofs.Client.Routing
import KnxIp.Proofs.Host.History
import KnxIp.Proofs.Host.Ledger
import KnxIp.Proofs.Host.Wire
import KnxIp.Proofs.Host.Places
import KnxIp.Proofs.Host.Lifecycle
import KnxIp.Proofs.Host.Attempts
import KnxIp.Proofs.Host.Fates
import KnxIp.Proofs.Host.Sessions
import KnxIp.Proofs.Host.Origins
import KnxIp.Proofs.Host.Replies
import KnxIp.Proofs.Host.Verdicts
import KnxIp.Proofs.Host.Actions
import KnxIp.Proofs.Host.Holdings
import KnxIp.Proofs.Host.Devices
import KnxIp.Proofs.Host.Updates
import KnxIp.Proofs.Host.Shapes
import KnxIp.Proofs.Host.Strangers
import KnxIp.Proofs.Host.Undisturbed
import KnxIp.Proofs.Host.Interludes
import KnxIp.Proofs.Host.Deliveries
import KnxIp.Proofs.Host.Confirmations
import KnxIp.Proofs.Host.Meanwhile
import KnxIp.Proofs.Host.Dials
