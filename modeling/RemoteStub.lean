import RemoteStub.Text
import RemoteStub.Text.Utf8
import RemoteStub.Text.Printable
import RemoteStub.Text.GraphemeExtend
import RemoteStub.Text.Quoted
import RemoteStub.Hex
import RemoteStub.Numeric
import RemoteStub.Frame
import RemoteStub.Packet
import RemoteStub.Receiver
import RemoteStub.Command
import RemoteStub.Command.Parse
import RemoteStub.Io
import RemoteStub.Address
import RemoteStub.Config
import RemoteStub.Error
import RemoteStub.PacketLog
import RemoteStub.PacketLog.Shared
import RemoteStub.Query
import RemoteStub.Target
import RemoteStub.Target.Document
import RemoteStub.Target.Scripted
import RemoteStub.Responder
import RemoteStub.Peer
import RemoteStub.Connection
import RemoteStub.Client
import RemoteStub.Host
import RemoteStub.Server
import RemoteStub.Bench
import RemoteStub.CommandLine.Arguments
import RemoteStub.CommandLine.Outcome
import RemoteStub.CommandLine.Send
import RemoteStub.CommandLine.Serve
import RemoteStub.Main
import RemoteStub.Proofs.Receiver.Cursor
import RemoteStub.Proofs.Receiver.Decoding
import RemoteStub.Proofs.Receiver.Schedule
import RemoteStub.Proofs.Connection.Events
import RemoteStub.Proofs.Connection.Pieces
import RemoteStub.Proofs.Client.Reading
import RemoteStub.Proofs.Receiver.Framing
import RemoteStub.Proofs.Text.Utf8
import RemoteStub.Proofs.Exchange
import RemoteStub.Proofs.Exchange.Parties
import RemoteStub.Proofs.Exchange.Phase
import RemoteStub.Proofs.Exchange.Invariant
import RemoteStub.Proofs.Exchange.Replies
import RemoteStub.Proofs.Connection.Session
import RemoteStub.Proofs.Connection.Acknowledgements
import RemoteStub.Proofs.Connection.Transmission
import RemoteStub.Proofs.Exchange.Sendings
import RemoteStub.Proofs.Exchange.Agreement
import RemoteStub.Proofs.Text.Fields
import RemoteStub.Proofs.Numeric
import RemoteStub.Proofs.Command.Fields
import RemoteStub.Proofs.Command.Grammar
import RemoteStub.Proofs.Command.Rendering
import RemoteStub.Proofs.Frame
import RemoteStub.Proofs.Transfer
import RemoteStub.Proofs.Server.History
import RemoteStub.Proofs.Server.Lifecycle
import RemoteStub.Proofs.Receiver.Corruption
import RemoteStub.Proofs.Receiver.Resumption
import RemoteStub.Proofs.Receiver.RoundTrip
import RemoteStub.Proofs.Exchange.Lockstep
import RemoteStub.Proofs.CommandLine.Transcript
import RemoteStub.Proofs.Receiver.Finality
import RemoteStub.Proofs.PacketLog.Matching
import RemoteStub.Proofs.Client.Steps
import RemoteStub.Proofs.Responder.Calls
import RemoteStub.Proofs.Responder.Defaults
import RemoteStub.Proofs.Responder.Overrides
import RemoteStub.Proofs.Server.Refusals
import RemoteStub.Proofs.Server.Welcome
import RemoteStub.Proofs.Hex
import RemoteStub.Proofs.PacketLog.Writing
import RemoteStub.Proofs.PacketLog.Lines
import RemoteStub.Proofs.PacketLog.Sharing
