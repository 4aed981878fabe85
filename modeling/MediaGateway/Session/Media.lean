import MediaGateway.Metrics
import MediaGateway.Rtp.TelephoneEvent
import MediaGateway.Session

/-!
# Media through a session

What arrives at the sockets of a session waits until the session is polled. A received packet is
queued by the jitter buffer and counted; a packet of another source than the one before begins a new
stream, about which nothing of the old one is kept. Frames are read when they are due. A payload
that is sent gets the next number and the timestamp of the present time at the rate of its format.
-/

namespace MediaGateway.MediaSession

/-- The session with the source of a packet as the other side, if it waits for it. -/
def latch (s : MediaSession) (source : SocketAddress) : MediaSession :=
  if s.ice.isSome && s.remoteRtp.isNone then { s with remoteRtp := some source } else s

/-- The session about to play packets of a source. -/
def follow (s : MediaSession) (ssrc : UInt32) : MediaSession :=
  if s.streamSsrc = some ssrc then s
  else if s.streamSsrc.isNone then { s with streamSsrc := some ssrc }
  else { s with streamSsrc := some ssrc, jitter := s.jitter.reset, statistics := {} }

/-- Queues a packet and counts it: as late if it was late, and all others that the jitter buffer
dropped on its account as discarded. -/
def record (s : MediaSession) (m : Metrics) (now : Nat) (p : Packet) : MediaSession × Metrics :=
  let meter := Meter.received ⟨s.statistics, m⟩ p.sequence p.payload.length
  let (outcome, jitter) := s.jitter.writeMapped now p
  let dropped := jitter.dropped - s.jitter.dropped
  let meter := if outcome = .late then meter.late.discarded (dropped - 1)
    else meter.discarded dropped
  ({ s with jitter, statistics := meter.statistics },
    { meter.metrics with jitter := meter.metrics.jitter.observe jitter.jitter })

/-- Takes a packet of media. -/
def receivePacket (s : MediaSession) (m : Metrics) (now : Nat) (p : Packet)
    (source : SocketAddress) : MediaSession × Metrics :=
  let s := s.latch source
  if s.mode.receives then (s.follow p.ssrc).record m now p else (s, m)

/-- Looks at all that arrived and counts the packets of media. It stops where the socket for media
broke; a broken socket for control packets is closed. -/
def processInbox (now : Nat) :
    List Arrival → MediaSession → Metrics → Except SessionError Nat × MediaSession × Metrics
  | [], s, m => (.ok 0, { s with transport := s.transport.map fun t => { t with inbox := [] } }, m)
  | .rtp p source :: rest, s, m =>
    let (s, m) := s.receivePacket m now p source
    match processInbox now rest s m with
    | (.ok n, s, m) => (.ok (n + 1), s, m)
    | (.error e, s, m) => (.error e, s, m)
  | .rtcp _ _ :: rest, s, m =>
    processInbox now rest { s with rtcpReceived := s.rtcpReceived + 1 } m
  | .rtpFailure reason :: rest, s, m =>
    (.error (.rtpFailure reason),
      { s with transport := s.transport.map fun t => { t with inbox := rest } }, m)
  | .rtcpFailure _ :: rest, s, m =>
    processInbox now rest { s with transport := s.transport.map fun t => { t with rtcp := none } } m

/-- Looks at all that arrived and says how many packets of media there were. -/
def poll (s : MediaSession) (m : Metrics) (now : Nat) :
    Except SessionError Nat × MediaSession × Metrics :=
  match processInbox now ((s.transport.map Transport.inbox).getD []) s m with
  | (.ok n, s, m) => (.ok n, s, { m with occupancy := s.jitter.queue.length })
  | (.error e, s, m) => (.error e, s, m)

/-- What a packet leaves is what the arrivals behind it find. -/
theorem processInbox_rtp (now : Nat) (p : Packet) (source : SocketAddress) (rest : List Arrival)
    (s : MediaSession) (m : Metrics) :
    (processInbox now (.rtp p source :: rest) s m).2 =
      (processInbox now rest (s.receivePacket m now p source).1
        (s.receivePacket m now p source).2).2 := by
  simp only [processInbox]
  split <;> simp_all

/-- Polling changes the session as looking at its arrivals does. -/
theorem poll_session (s : MediaSession) (m : Metrics) (now : Nat) :
    (s.poll m now).2.1 =
      (processInbox now ((s.transport.map Transport.inbox).getD []) s m).2.1 := by
  unfold poll
  split <;> simp_all

/-- Plays the next frame, if one is due and the session receives. -/
def readFrame (s : MediaSession) (now : Nat) : Option Frame × MediaSession :=
  if s.mode.receives then
    let (f, jitter) := s.jitter.read now
    (f, { s with jitter })
  else (none, s)

/-- Plays all frames that are due, if the session receives. -/
def drain (s : MediaSession) (now : Nat) : List Frame × MediaSession :=
  if s.mode.receives then
    let (fs, jitter) := s.jitter.drain now
    (fs, { s with jitter })
  else ([], s)

/-! ## Sending -/

/-- A packet on its way. -/
structure Outgoing where
  /-- The socket it is sent from. -/
  source : SocketAddress
  /-- Where it is sent. -/
  destination : SocketAddress
  /-- The packet. -/
  packet : Packet
deriving DecidableEq, Repr

/-- What is to be sent. -/
inductive Payload where
  /-- Audio or video. -/
  | media (data : List UInt8) (marker : Bool)
  /-- A report about a telephone event. -/
  | event (event : TelephoneEvent)
deriving DecidableEq, Repr

namespace Payload

/-- What kind of payload it is. -/
def kind : Payload → PayloadKind
  | media .. => .media
  | event _ => .telephoneEvent

/-- The bytes that are sent. -/
def data : Payload → List UInt8
  | media data _ => data
  | event e => e.encode

/-- Whether the packet is marked; of the reports about an event it is the first one. -/
def marker : Payload → Bool
  | media _ marker => marker
  | event e => e.duration == 0

end Payload

/-- The agreed format for a kind of payload. -/
def formatFor? (s : MediaSession) : PayloadKind → Option Format
  | .media => s.negotiated.media?
  | .telephoneEvent => s.negotiated.telephoneEvent?

/-- The timestamp of a format at wall time `now`, in milliseconds. -/
def timestampAt (s : MediaSession) (f : Format) (now : Nat) : UInt32 :=
  s.numbering.timestampBase + (MediaClock.unitsAt f.clockRate now).toUInt32

/-- The packet for a payload and where it goes, or nothing if the session does not send. -/
def outgoing (s : MediaSession) (overflow : Overflow) (now : Nat) (p : Payload) :
    Attempt (Except SessionError (Option Outgoing)) :=
  if !s.mode.sends then .ok (.ok none)
  else match s.transport with
    | none => .ok (.error (.notOpen s.media))
    | some t =>
      match s.remoteRtp with
      | none => .ok (.error (.noRemotePeer s.media))
      | some destination =>
        match s.formatFor? p.kind with
        | none => .ok (.error (.noFormat s.media p.kind))
        | some f =>
          if overflow.breaksOff now f.clockRate.toNat then .error Overflow.reason
          else .ok (.ok (some {
            source := t.rtp.address
            destination
            packet := .make f.payloadType s.numbering.sequence (s.timestampAt f now)
              s.numbering.ssrc p.data p.marker }))

/-- Sends a payload. A packet that the network refuses has used up its number, but is not counted
as sent. -/
def transmit (s : MediaSession) (m : Metrics) (network : Network) (now : Nat) (p : Payload)
    (overflow : Overflow := .stops) :
    Attempt (Except SessionError (Option Outgoing)) × MediaSession × Metrics :=
  match s.outgoing overflow now p with
  | .error reason => (.error reason, s, m)
  | .ok (.error e) => (.ok (.error e), s, m)
  | .ok (.ok none) => (.ok (.ok none), s, m)
  | .ok (.ok (some o)) =>
    let numbering := { s.numbering with sequence := s.numbering.sequence + 1 }
    match network.passage o.source o.destination o.packet.encode.length with
    | .refused cause => (.ok (.error (.transport cause)), { s with numbering }, m)
    | .lost | .delivered =>
      let meter := Meter.sent ⟨s.statistics, m⟩ p.data.length
      (.ok (.ok (some o)), { s with numbering, statistics := meter.statistics }, meter.metrics)

/-! ## Datagrams from outside -/

/-- The address of the socket for a channel. -/
def localAddress (s : MediaSession) : Channel → Option SocketAddress
  | .rtp => s.localRtp
  | .rtcp => s.localRtcp

/-- Datagrams that somebody sends to the socket of the session for a channel; the first one that
the network refuses ends it. Says how many of those that would have been understood were lost.
Without such a socket there is no result. -/
def sentFrom? (s : MediaSession) (network : Network) (channel : Channel) (source : SocketAddress)
    (datagrams : List (List UInt8)) : Option (Except NetworkError (MediaSession × Nat)) :=
  (s.localAddress channel).map fun address =>
    datagrams.foldlM (fun ((s, lost) : MediaSession × Nat) data =>
      match network.passage source address data.length, Arrival.ofDatagram? channel data source with
      | .refused e, _ => .error e
      | _, none => .ok (s, lost)
      | .lost, some _ => .ok (s, lost + 1)
      | .delivered, some a => .ok (s.deliver a, lost)) (s, 0)

end MediaGateway.MediaSession
