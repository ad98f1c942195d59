import ProxyFleet.Address.Ip
import ProxyFleet.Address.Uri
import ProxyFleet.CommandLine
import ProxyFleet.Connection.Dial
import ProxyFleet.Event.Basic
import ProxyFleet.Event.Queue
import ProxyFleet.Event.WaitingRoom
import ProxyFleet.Failure
import ProxyFleet.Files.Basic
import ProxyFleet.Files.Tree
import ProxyFleet.Fleet.Backoff
import ProxyFleet.Fleet.Basic
import ProxyFleet.Fleet.Convergence
import ProxyFleet.Fleet.Duration
import ProxyFleet.Fleet.Report
import ProxyFleet.Fleet.Slot
import ProxyFleet.Json.Fault
import ProxyFleet.Json.Reader
import ProxyFleet.Json.Value
import ProxyFleet.Logging.Filter
import ProxyFleet.Logging.Line
import ProxyFleet.Logging.Message
import ProxyFleet.Main
import ProxyFleet.NameMap
import ProxyFleet.NameSet
import ProxyFleet.Node.Basic
import ProxyFleet.Node.Identity
import ProxyFleet.Number.Double
import ProxyFleet.Number.Shortest
import ProxyFleet.Proofs.Event.Delivery
import ProxyFleet.Proofs.Fleet.Backoff
import ProxyFleet.Proofs.Fleet.Convergence
import ProxyFleet.Proofs.Fleet.Growth
import ProxyFleet.Proofs.Fleet.Proxies
import ProxyFleet.Proofs.Fleet.Report
import ProxyFleet.Proofs.Fleet.Slot
import ProxyFleet.Proofs.Node.Identity
import ProxyFleet.Proofs.Node.Metadata
import ProxyFleet.Proofs.Number.Double
import ProxyFleet.Proofs.Resource.References
import ProxyFleet.Proofs.Resource.RoundTrip
import ProxyFleet.Proofs.Session.Acknowledgement
import ProxyFleet.Proofs.Session.Agreement
import ProxyFleet.Proofs.Session.Calling
import ProxyFleet.Proofs.Session.Closed
import ProxyFleet.Proofs.Session.Complete
import ProxyFleet.Proofs.Session.Course
import ProxyFleet.Proofs.Session.Derivation
import ProxyFleet.Proofs.Session.EmptyNames
import ProxyFleet.Proofs.Session.EndpointLeftover
import ProxyFleet.Proofs.Session.EndpointRelease
import ProxyFleet.Proofs.Session.History
import ProxyFleet.Proofs.Session.Incremental
import ProxyFleet.Proofs.Session.IncrementalAnswer
import ProxyFleet.Proofs.Session.Interleaving
import ProxyFleet.Proofs.Session.Introduction
import ProxyFleet.Proofs.Session.Keyed
import ProxyFleet.Proofs.Session.LateWatch
import ProxyFleet.Proofs.Session.Mirror
import ProxyFleet.Proofs.Session.Moments
import ProxyFleet.Proofs.Session.Parts
import ProxyFleet.Proofs.Session.Play
import ProxyFleet.Proofs.Session.Race
import ProxyFleet.Proofs.Session.Replay
import ProxyFleet.Proofs.Session.Reply
import ProxyFleet.Proofs.Session.Skipping
import ProxyFleet.Proofs.Session.Storage
import ProxyFleet.Proofs.Session.Traffic
import ProxyFleet.Proofs.Session.Underway
import ProxyFleet.Proofs.Session.UnknownRemoval
import ProxyFleet.Proofs.Settings.Environment
import ProxyFleet.Proofs.Store.Keyed
import ProxyFleet.Proofs.Store.Lookup
import ProxyFleet.Proofs.Watch.Change
import ProxyFleet.Proofs.Watch.Told
import ProxyFleet.Proofs.Watch.Wanted
import ProxyFleet.Proofs.Wire.RoundTrip
import ProxyFleet.Resource.Basic
import ProxyFleet.Resource.Cluster
import ProxyFleet.Resource.Comparison
import ProxyFleet.Resource.DecoderTable
import ProxyFleet.Resource.Dependencies
import ProxyFleet.Resource.Filter
import ProxyFleet.Resource.Listener
import ProxyFleet.Resource.Payload
import ProxyFleet.Resource.Route
import ProxyFleet.ResourceKind
import ProxyFleet.Session.Basic
import ProxyFleet.Session.Ledger
import ProxyFleet.Session.Message
import ProxyFleet.Session.Settle
import ProxyFleet.Settings.Basic
import ProxyFleet.Settings.Document
import ProxyFleet.Settings.Environment
import ProxyFleet.Settings.Pem
import ProxyFleet.Settings.Summary
import ProxyFleet.Settings.Tls
import ProxyFleet.Store.Basic
import ProxyFleet.Store.Difference
import ProxyFleet.Text.Alphanumeric
import ProxyFleet.Text.Blank
import ProxyFleet.Text.Letters
import ProxyFleet.Text.Lowercase
import ProxyFleet.Text.Order
import ProxyFleet.Text.Printable
import ProxyFleet.Text.Quoted
import ProxyFleet.Toml.Document
import ProxyFleet.Toml.Fault
import ProxyFleet.Toml.Moment
import ProxyFleet.Toml.Number
import ProxyFleet.Toml.Reader
import ProxyFleet.Toml.Span
import ProxyFleet.Toml.Text
import ProxyFleet.Toml.Tree
import ProxyFleet.Toml.Value
import ProxyFleet.Transport.Basic
import ProxyFleet.Transport.Exchange
import ProxyFleet.Transport.Outbound
import ProxyFleet.Validation
import ProxyFleet.Watch.Table
import ProxyFleet.Wire.Fault
import ProxyFleet.Wire.Key
import ProxyFleet.Wire.Schema
import ProxyFleet.Wire.Varint
