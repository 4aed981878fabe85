import MediaGateway.Text.Blank
import MediaGateway.Text.Split
import MediaGateway.Text.Numeral
import MediaGateway.Text.Case
import MediaGateway.Text.Hex
import MediaGateway.Net.Address
import MediaGateway.Net.Address.Parser
import MediaGateway.Rtp.Octets
import MediaGateway.Rtp.Packet
import MediaGateway.Rtp.TelephoneEvent
import MediaGateway.Mode
import MediaGateway.ColorPolicy
import MediaGateway.Format
import MediaGateway.Format.Table
import MediaGateway.Format.Profile
import MediaGateway.Sdp.Error
import MediaGateway.Sdp.Attribute
import MediaGateway.Sdp.Description
import MediaGateway.Sdp.Printer
import MediaGateway.Sdp.Parser
import MediaGateway.Sdp.Builder
import MediaGateway.Negotiation
import MediaGateway.PortRange
import MediaGateway.Clock
import MediaGateway.Rtp.Sequence
import MediaGateway.JitterBuffer
import MediaGateway.Statistics
import MediaGateway.Metrics.Sample
import MediaGateway.Metrics
import MediaGateway.Metrics.Exposition
import MediaGateway.Scheduler
import MediaGateway.IdGenerator
import MediaGateway.Network
import MediaGateway.Rtp.Datagram
import MediaGateway.Session.Error
import MediaGateway.Session
import MediaGateway.Session.Media
import MediaGateway.Config
import MediaGateway.Connection.State
import MediaGateway.Connection.Error
import MediaGateway.Connection.Guard
import MediaGateway.Connection.Lifecycle
import MediaGateway.Connection.Link
import MediaGateway.Connection.Call
import MediaGateway.Connection
import MediaGateway.Gateway
import MediaGateway.Gateway.Operations
import MediaGateway.Gateway.Joining
import MediaGateway.Gateway.Calls
import MediaGateway.Gateway.Pool
import MediaGateway.Gateway.Ticking
import MediaGateway.Proofs.Result
import MediaGateway.Proofs.Text
import MediaGateway.Proofs.Net.Address
import MediaGateway.Proofs.Clock
import MediaGateway.Proofs.PortRange
import MediaGateway.Proofs.JitterBuffer.Run
import MediaGateway.Proofs.JitterBuffer.Accounting
import MediaGateway.Proofs.JitterBuffer.Unbounded
import MediaGateway.Proofs.JitterBuffer.Reordering
import MediaGateway.Proofs.JitterBuffer.Restart
import MediaGateway.Proofs.JitterBuffer.Times
import MediaGateway.Proofs.JitterBuffer.Rejection
import MediaGateway.Proofs.JitterBuffer.Estimate
import MediaGateway.Proofs.Statistics.Loss
import MediaGateway.Proofs.Format.Table
import MediaGateway.Proofs.Format.History
import MediaGateway.Proofs.Negotiation
import MediaGateway.Proofs.Rtp.Layout
import MediaGateway.Proofs.Rtp.Positions
import MediaGateway.Proofs.Rtp.Carriage
import MediaGateway.Proofs.Sdp.Lines
import MediaGateway.Proofs.Sdp.Value
import MediaGateway.Proofs.Sdp.RoundTrip
import MediaGateway.Proofs.Sdp.Building
import MediaGateway.Proofs.Sdp.Reading
import MediaGateway.Proofs.Sdp.NormalForm
import MediaGateway.Proofs.Sdp.Generated
import MediaGateway.Proofs.Sdp.Paragraphs
import MediaGateway.Proofs.Session.Setup
import MediaGateway.Proofs.Session.Answer
import MediaGateway.Proofs.Session.Exchange
import MediaGateway.Proofs.Session.Likeness
import MediaGateway.Proofs.Session.Run
import MediaGateway.Proofs.Session.Modes
import MediaGateway.Proofs.Session.DecodeMap
import MediaGateway.Proofs.Session.Bookkeeping
import MediaGateway.Proofs.Session.Reception
import MediaGateway.Proofs.Session.NewSource
import MediaGateway.Proofs.Session.Sending
import MediaGateway.Proofs.Session.SentTally
import MediaGateway.Proofs.Session.Atomicity
import MediaGateway.Proofs.Session.Destination
import MediaGateway.Proofs.Negotiation.Selection
import MediaGateway.Proofs.Negotiation.Displacement
import MediaGateway.Proofs.Negotiation.Advertising
import MediaGateway.Proofs.Negotiation.Resolution
import MediaGateway.Proofs.Connection.Lifecycle
import MediaGateway.Proofs.Connection.Call
import MediaGateway.Proofs.Connection.Sessions
import MediaGateway.Proofs.Connection.Ports
import MediaGateway.Proofs.Connection.Alignment
import MediaGateway.Proofs.Connection.Answer
import MediaGateway.Proofs.Connection.Modes
import MediaGateway.Proofs.Connection.Metering
import MediaGateway.Proofs.Connection.Exchange
import MediaGateway.Proofs.Connection.Independence
import MediaGateway.Proofs.Gateway.Run
import MediaGateway.Proofs.Gateway.CallView
import MediaGateway.Proofs.Gateway.Work
import MediaGateway.Proofs.Gateway.Stock
import MediaGateway.Proofs.Gateway.CallInvariant
import MediaGateway.Proofs.Gateway.Announcement
import MediaGateway.Proofs.Gateway.OfferAnswer
import MediaGateway.Proofs.Gateway.Agreement
import MediaGateway.Proofs.Gateway.Mirroring
import MediaGateway.Proofs.Gateway.Independence
import MediaGateway.Proofs.Gateway.Front
import MediaGateway.Proofs.Gateway.Lives
import MediaGateway.Proofs.Gateway.Counting
import MediaGateway.Proofs.Gateway.Timed
import MediaGateway.Proofs.Gateway.Heartbeat
import MediaGateway.Proofs.Gateway.Timeout
import MediaGateway.Proofs.Gateway.Transition
import MediaGateway.Proofs.Gateway.Pooling
import MediaGateway.Proofs.Gateway.Renewal
import MediaGateway.Proofs.Gateway.Recycling
import MediaGateway.Proofs.JitterBuffer.Order
import MediaGateway.Proofs.Gateway.Happening
import MediaGateway.Proofs.Gateway.Quiet
import MediaGateway.Proofs.Gateway.Effect
import MediaGateway.Proofs.Gateway.Standing
import MediaGateway.Proofs.Gateway.Links
import MediaGateway.Proofs.Gateway.Delivery
import MediaGateway.Proofs.Gateway.Mailbox
import MediaGateway.Proofs.Gateway.Chronicle
import MediaGateway.Proofs.Gateway.Listening
import MediaGateway.Proofs.Gateway.Failures
import MediaGateway.Proofs.Gateway.Muting
import MediaGateway.Proofs.Gateway.Outcomes
import MediaGateway.Proofs.Gateway.Hearing
import MediaGateway.Proofs.Scheduler.Observation
import MediaGateway.Proofs.Scheduler.History
import MediaGateway.Proofs.Gateway.Submissions
import MediaGateway.Proofs.Gateway.Coherence
import MediaGateway.Proofs.Gateway.Offers
import MediaGateway.Proofs.Gateway.Modes
import MediaGateway.Proofs.Gateway.Directions
import MediaGateway.Proofs.Gateway.Metrics
import MediaGateway.Proofs.Gateway.Ownership
import MediaGateway.Proofs.Gateway.Ledger
