import TunnelRelay.Address.Basic
import TunnelRelay.Address.Netmask
import TunnelRelay.Address.Parser
import TunnelRelay.Address.Printer
import TunnelRelay.Client.Argument
import TunnelRelay.Client.Basic
import TunnelRelay.Client.Callbacks
import TunnelRelay.Client.Handle
import TunnelRelay.CommandLine.Arguments
import TunnelRelay.CommandLine.Help
import TunnelRelay.CommandLine.Invocation
import TunnelRelay.CommandLine.Outcome
import TunnelRelay.Directive.Basic
import TunnelRelay.Directive.Parser
import TunnelRelay.Engine.Basic
import TunnelRelay.Engine.Bench
import TunnelRelay.Engine.Contract
import TunnelRelay.Engine.Event
import TunnelRelay.Engine.Loopback
import TunnelRelay.Engine.Scripted
import TunnelRelay.Fault
import TunnelRelay.Fleet.Basic
import TunnelRelay.Fleet.Bench
import TunnelRelay.Fleet.Directory
import TunnelRelay.Json.Preferences
import TunnelRelay.Json.Reader
import TunnelRelay.Main
import TunnelRelay.Packet.Bench
import TunnelRelay.Packet.Frame
import TunnelRelay.Packet.Pipe
import TunnelRelay.Preferences
import TunnelRelay.Profile.Normal
import TunnelRelay.Profile.Outline
import TunnelRelay.Profile.Redaction
import TunnelRelay.Selftest
import TunnelRelay.Session.Basic
import TunnelRelay.Session.Connecting
import TunnelRelay.Session.Hearing
import TunnelRelay.Session.Phase
import TunnelRelay.Session.Stopping
import TunnelRelay.Settings
import TunnelRelay.Text.Blank
import TunnelRelay.Text.Lines
import TunnelRelay.Text.Number
import TunnelRelay.Text.Quoted
import TunnelRelay.Tun.Bay
import TunnelRelay.Tun.Bench
import TunnelRelay.Tun.Device
import TunnelRelay.Tunnel.Attempt
import TunnelRelay.Tunnel.Basic
import TunnelRelay.Tunnel.Control
import TunnelRelay.Tunnel.Devices
import TunnelRelay.Tunnel.Relaying
import TunnelRelay.Proofs.Life.Steps
import TunnelRelay.Proofs.Life.Soundness
import TunnelRelay.Proofs.Life.Failure
import TunnelRelay.Proofs.Life.Rest
import TunnelRelay.Proofs.Life.Besides
import TunnelRelay.Proofs.Life.Stops
import TunnelRelay.Proofs.Life.Wording
import TunnelRelay.Proofs.Life.Agreement
import TunnelRelay.Proofs.Life.Release
import TunnelRelay.Proofs.Relay.Running
import TunnelRelay.Proofs.Relay.Wired
import TunnelRelay.Proofs.Relay.Dialed
import TunnelRelay.Proofs.Relay.Exchange
import TunnelRelay.Proofs.Life.Passes
import TunnelRelay.Proofs.Life.Calls
import TunnelRelay.Proofs.Relay.Pushed
import TunnelRelay.Proofs.Device.Course
import TunnelRelay.Proofs.Device.Lifetime
import TunnelRelay.Proofs.Device.Accounts
import TunnelRelay.Proofs.Device.Bays
import TunnelRelay.Proofs.Profile.Sections
import TunnelRelay.Proofs.Profile.NormalLines
import TunnelRelay.Proofs.Profile.Rereading
import TunnelRelay.Proofs.Profile.Mandatory
import TunnelRelay.Proofs.Profile.FixedPoint
import TunnelRelay.Proofs.Profile.Secrecy
import TunnelRelay.Proofs.Profile.Reader
import TunnelRelay.Proofs.Engine.Attempts
import TunnelRelay.Proofs.Packet.Delivery
import TunnelRelay.Proofs.Packet.Parts
import TunnelRelay.Proofs.Client.Memory
import TunnelRelay.Proofs.Life.Kept
import TunnelRelay.Proofs.Life.History
import TunnelRelay.Proofs.Life.Admission
import TunnelRelay.Proofs.Life.Devices
import TunnelRelay.Proofs.Client.Rejections
import TunnelRelay.Proofs.Fleet.Sweeping
import TunnelRelay.Proofs.Fleet.Turns
import TunnelRelay.Proofs.Fleet.Registry
import TunnelRelay.Proofs.Fleet.Descriptors
import TunnelRelay.Proofs.Selftest.Echoes
import TunnelRelay.Proofs.Selftest.Outcome
import TunnelRelay.Proofs.Address.Dotted
import TunnelRelay.Proofs.Settings.Masks
import TunnelRelay.Proofs.Settings.Meaning
import TunnelRelay.Proofs.Settings.Malformed
import TunnelRelay.Proofs.Directive.Writing
import TunnelRelay.Proofs.Profile.Redacted
import TunnelRelay.Proofs.Threads.Alone
import TunnelRelay.Proofs.Threads.Orderly
import TunnelRelay.Proofs.Life.Aftermath
