import Failover.Bundled.Announcer
import Failover.Bundled.Parameter
import Failover.Bundled.Run
import Failover.Bytes.Base64
import Failover.Bytes.Channel
import Failover.Bytes.Lines
import Failover.Bytes.Sha256
import Failover.Bytes.Stream
import Failover.CommandLine.Flags
import Failover.CommandLine.Run
import Failover.Config
import Failover.Config.Storage
import Failover.Connection
import Failover.Decimal.Double
import Failover.Decimal.Shortest
import Failover.Environment
import Failover.Fault
import Failover.Handshake.Line
import Failover.Handshake.Message
import Failover.Handshake.Negotiation
import Failover.Handshake.Reading
import Failover.Host.Act
import Failover.Host.Basic
import Failover.Host.Child
import Failover.Host.Files
import Failover.Host.Sandbox
import Failover.Http.Fetch
import Failover.Http.Message
import Failover.Http.Status
import Failover.Http.Url
import Failover.Json.Cursor
import Failover.Json.Fault
import Failover.Json.Number
import Failover.Json.Record
import Failover.Json.Skip
import Failover.Json.Text
import Failover.Main
import Failover.Manager.Attempt
import Failover.Manager.Basic
import Failover.Manager.Event
import Failover.Manager.Loop
import Failover.Manager.Probe
import Failover.Manager.Rotation
import Failover.Manager.Run
import Failover.Manager.Settings
import Failover.Named
import Failover.Net.IpAddress
import Failover.Net.Network
import Failover.Net.SocketAddress
import Failover.Proofs.Bundled.Failure
import Failover.Proofs.Bundled.Introduction
import Failover.Proofs.Bundled.Launch
import Failover.Proofs.Bytes.Base64
import Failover.Proofs.Bytes.Conversation
import Failover.Proofs.Bytes.Framing
import Failover.Proofs.Bytes.Link
import Failover.Proofs.Bytes.Passing
import Failover.Proofs.Config.Accepted
import Failover.Proofs.Config.Persistence
import Failover.Proofs.Connection.Identity
import Failover.Proofs.Connection.Sharing
import Failover.Proofs.Handshake.Grammar
import Failover.Proofs.Handshake.Layout
import Failover.Proofs.Handshake.Normal
import Failover.Proofs.Handshake.RoundTrip
import Failover.Proofs.Handshake.Stream
import Failover.Proofs.Handshake.Transcript
import Failover.Proofs.Json.Reading
import Failover.Proofs.Json.Record
import Failover.Proofs.Manager.Assurance
import Failover.Proofs.Manager.Broadcast
import Failover.Proofs.Manager.Bulletin
import Failover.Proofs.Manager.Changes
import Failover.Proofs.Manager.Chronicle
import Failover.Proofs.Manager.Course
import Failover.Proofs.Manager.Docket
import Failover.Proofs.Manager.Handover
import Failover.Proofs.Manager.Ledger
import Failover.Proofs.Manager.Modes
import Failover.Proofs.Manager.Orderly
import Failover.Proofs.Manager.Rotation
import Failover.Proofs.Manager.RoundRobin
import Failover.Proofs.Manager.Settling
import Failover.Proofs.Manager.SingleFlight
import Failover.Proofs.Manager.Standing
import Failover.Proofs.Manager.Steps
import Failover.Proofs.Manager.Trace
import Failover.Proofs.Manager.Turns
import Failover.Proofs.Service.Callers
import Failover.Proofs.Service.Catalogue
import Failover.Proofs.Service.Ending
import Failover.Proofs.Service.Genuine
import Failover.Proofs.Service.Heeding
import Failover.Proofs.Service.Isolation
import Failover.Proofs.Service.Knowledge
import Failover.Proofs.Service.Lifecycle
import Failover.Proofs.Service.Onward
import Failover.Proofs.Service.Passage
import Failover.Proofs.Service.Presence
import Failover.Proofs.Service.Progress
import Failover.Proofs.Service.Resolution
import Failover.Proofs.Service.Settlement
import Failover.Proofs.Service.Spelling
import Failover.Proofs.Service.Stopping
import Failover.Proofs.Socks.Agreement
import Failover.Proofs.Socks.Messages
import Failover.Proofs.Socks.Reading
import Failover.Proofs.Socks.Replies
import Failover.Proofs.Socks.Requests
import Failover.Proofs.Supervisor.Closing
import Failover.Proofs.Supervisor.Shutdown
import Failover.Proofs.Telemetry.Accounting
import Failover.Proofs.Telemetry.Books
import Failover.Proofs.Telemetry.Reports
import Failover.Proofs.Telemetry.Secret
import Failover.Proofs.Telemetry.Transparency
import Failover.Proofs.Text.Ascii
import Failover.Proofs.Text.Utf8
import Failover.Proofs.Transport.Setup
import Failover.Proofs.Yaml.Reading
import Failover.Record
import Failover.Service.Basic
import Failover.Service.Call
import Failover.Service.Fleet
import Failover.Service.Options
import Failover.Service.Owner
import Failover.Service.Run
import Failover.Shell.Run
import Failover.Shell.Script
import Failover.Shell.Word
import Failover.Socks.Address
import Failover.Socks.Client
import Failover.Socks.Relay
import Failover.Socks.Server
import Failover.Socks.Tunnel
import Failover.Supervisor
import Failover.Telemetry.Monitor
import Failover.Telemetry.Receiver
import Failover.Telemetry.Report
import Failover.Telemetry.Sample
import Failover.Telemetry.Watched
import Failover.Text.Blank
import Failover.Text.Printable
import Failover.Text.Quoted
import Failover.Text.Utf8
import Failover.Transport
import Failover.Transport.Carrier
import Failover.Yaml.Cursor
import Failover.Yaml.Node
import Failover.Yaml.Reading
import Failover.Yaml.Scalar
import Failover.Yaml.Token
import Failover.Yaml.Value
