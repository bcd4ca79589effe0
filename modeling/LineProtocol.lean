import LineProtocol.Client.Errand
import LineProtocol.Demonstration
import LineProtocol.Duplex
import LineProtocol.Exchange
import LineProtocol.Main
import LineProtocol.Server.Listener
import LineProtocol.Server.Script
import LineProtocol.Server.SocketServer
import LineProtocol.Proofs.Line.EscapeRoundTrip
import LineProtocol.Proofs.Text.Utf8RoundTrip
import LineProtocol.Proofs.Line.Framing
import LineProtocol.Proofs.Reading.ByteStream
import LineProtocol.Proofs.Reading.ChunkFree
import LineProtocol.Proofs.Reading.StreamRoundTrip
import LineProtocol.Proofs.Line.Sending
import LineProtocol.Proofs.Fault.Reporting
import LineProtocol.Proofs.Line.Channel
import LineProtocol.Proofs.Server.Stage
import LineProtocol.Proofs.Server.Replies
import LineProtocol.Proofs.Client.Answering
import LineProtocol.Proofs.Client.Hearing
import LineProtocol.Proofs.Exchange.InStep
import LineProtocol.Proofs.Exchange.Consultation
import LineProtocol.Proofs.Exchange.Transaction
import LineProtocol.Proofs.Line.Delivery
import LineProtocol.Proofs.Line.Refusal
import LineProtocol.Proofs.Line.WholeLines
import LineProtocol.Proofs.Line.Packing
import LineProtocol.Proofs.Line.Acceptance
import LineProtocol.Proofs.Fault.LongestMessage
import LineProtocol.Proofs.Server.Action
import LineProtocol.Proofs.Server.Chronicle
import LineProtocol.Proofs.Client.Forsaken
import LineProtocol.Proofs.Client.Rejected
import LineProtocol.Proofs.Exchange.Touch
import LineProtocol.Proofs.Exchange.Underway
import LineProtocol.Proofs.Exchange.Deadlock
import LineProtocol.Proofs.Exchange.Resets
import LineProtocol.Proofs.Exchange.OwnReply
import LineProtocol.Proofs.Exchange.Timeouts
import LineProtocol.Proofs.Server.Ending
import LineProtocol.Proofs.Server.Truncation
import LineProtocol.Proofs.Server.Inquiring
import LineProtocol.Proofs.Exchange.Relay
import LineProtocol.Proofs.Duplex.Reliable
import LineProtocol.Proofs.Server.Accepting
import LineProtocol.Proofs.Client.Course
import LineProtocol.Proofs.Demonstration.Remembering
import LineProtocol.Proofs.Demonstration.Replying
import LineProtocol.Proofs.Server.Isolation
import LineProtocol.Proofs.Exchange.Unnoticed
import LineProtocol.Proofs.Line.EscapedForm
import LineProtocol.Proofs.Reading.Unterminated
import LineProtocol.Proofs.Line.Spelling
import LineProtocol.Proofs.Exchange.Setting
import LineProtocol.Proofs.Server.Registration
import LineProtocol.Proofs.Server.Assistance
import LineProtocol.Proofs.Fault.Canonical
