import MediaGateway.JitterBuffer
import MediaGateway.PortRange
import MediaGateway.Sdp.Builder
import MediaGateway.Session.Error
import MediaGateway.Rtp.Datagram
import MediaGateway.Statistics

/-!
# Media sessions

A session is one stream of one medium between the gateway and another side. It opens a socket for
media and, unless the two share a port, one for control packets; it agrees on formats; and it has a
mode that says whether it receives and sends.

This module holds the session and what prepares it for media. How media flows through it is in
`MediaGateway.Session.Media`.
-/

namespace MediaGateway

/-- How a session is set up. -/
structure SessionConfig where
  /-- The jitter buffer. -/
  jitter : JitterConfig
  /-- What the session can receive and send. -/
  formats : FormatTable
  /-- The certificate, if there is one. -/
  fingerprint : Option Sdp.Fingerprint
deriving DecidableEq, Repr

namespace SessionConfig

/-- The time between two reports about the statistics, in milliseconds. -/
def reportInterval : Nat := 5000

end SessionConfig

/-- Where the numbering of a stream begins. -/
structure Numbering where
  /-- The identifier of the source. -/
  ssrc : UInt32
  /-- The number of the next packet. -/
  sequence : UInt16
  /-- The timestamp at the origin of the wall clock. -/
  timestampBase : UInt32
deriving DecidableEq, Repr, Inhabited

/-- The sockets of a session. -/
structure Transport where
  /-- The socket for media. -/
  rtp : BoundSocket
  /-- The socket for control packets. -/
  rtcp : Option BoundSocket
  /-- What has arrived and was not looked at yet. -/
  inbox : List Arrival
deriving DecidableEq, Repr

namespace Transport

/-- The port to ask for when control packets get a socket of their own: the one after the media,
or any if the port of the media was also left to the host. -/
def rtcpPort (t : Transport) : UInt16 :=
  if t.rtp.requested.port = 0 then 0 else t.rtp.requested.port + 1

/-- The addresses that the sockets were bound to. -/
def addresses (t : Transport) : List SocketAddress :=
  t.rtp.requested :: (t.rtcp.map BoundSocket.requested).toList

end Transport

/-- One stream of one medium. -/
structure MediaSession where
  /-- The connection and the medium. -/
  seat : Seat
  /-- What the session can do. -/
  negotiator : Negotiator
  /-- The certificate, if there is one. -/
  fingerprint : Option Sdp.Fingerprint
  /-- The sockets, while the session is open. -/
  transport : Option Transport
  /-- In which directions media flows. -/
  mode : Mode
  /-- The numbering of the packets that are sent. -/
  numbering : Numbering
  /-- The source that the other side announced. -/
  remoteSsrc : Option UInt32
  /-- The source whose packets are played. -/
  streamSsrc : Option UInt32
  /-- Where media is sent. -/
  remoteRtp : Option SocketAddress
  /-- Where control packets would be sent. -/
  remoteRtcp : Option SocketAddress
  /-- Whether control packets share the port of the media. -/
  rtcpMux : Bool
  /-- The formats that were agreed on. -/
  negotiated : FormatTable
  /-- The credentials, once the session takes part in connectivity checks. -/
  ice : Option Sdp.IceCredentials
  /-- Whether the media is protected. -/
  dtls : Bool
  /-- The packets that wait to be played. -/
  jitter : JitterBuffer
  /-- What was received and sent. -/
  statistics : Statistics
  /-- The control packets received. -/
  rtcpReceived : Nat
deriving DecidableEq

namespace MediaSession

/-- A closed session. -/
def make (seat : Seat) (config : SessionConfig) (numbering : Numbering) : MediaSession where
  seat
  negotiator := .symmetric seat.media config.formats
  fingerprint := config.fingerprint
  transport := none
  mode := .inactive
  numbering
  remoteSsrc := none
  streamSsrc := none
  remoteRtp := none
  remoteRtcp := none
  rtcpMux := false
  negotiated := .empty
  ice := none
  dtls := false
  jitter := .make config.jitter (.make MediaClock.defaultRate)
  statistics := {}
  rtcpReceived := 0

/-- The medium. -/
def media (s : MediaSession) : MediaType := s.seat.media

/-- Whether the session has sockets. -/
def isOpen (s : MediaSession) : Bool := s.transport.isSome

/-- Whether media can flow: the session is open, there is a format for it, and the other side is
known or will be known with its first packet. -/
def isUsable (s : MediaSession) : Bool :=
  s.isOpen && s.negotiated.hasMedia && (s.remoteRtp.isSome || s.ice.isSome)

/-- Where the session receives media. -/
def localRtp (s : MediaSession) : Option SocketAddress :=
  s.transport.map fun t => t.rtp.address

/-- Where the session receives control packets, if not with the media. -/
def localRtcp (s : MediaSession) : Option SocketAddress :=
  (s.transport.bind Transport.rtcp).map BoundSocket.address

/-- The addresses that the session has bound. -/
def addresses (s : MediaSession) : List SocketAddress :=
  (s.transport.map Transport.addresses).getD []

/-! ## Sockets -/

/-- How many ports are tried after the first one. -/
def bindRetries : Nat := 9

/-- Binds a socket for media, trying one port after the other. -/
def bindRtp (h : Host) (seat : Seat) :
    Nat → PortRange → Except SessionError BoundSocket × PortRange
  | retries, ports =>
    let (port, ports) := ports.next
    match h.bind seat .rtp port with
    | .ok socket => (.ok socket, ports)
    | .error cause =>
      match retries with
      | 0 => (.error (.bind ⟨h.ip, port⟩ cause), ports)
      | retries + 1 => bindRtp h seat retries ports

/-- Opens the session on a port of the range; an open session stays where it is. -/
def openOn (s : MediaSession) (h : Host) (ports : PortRange) :
    Except SessionError SocketAddress × MediaSession × PortRange :=
  match s.transport with
  | some t => (.ok t.rtp.address, s, ports)
  | none =>
    match bindRtp h s.seat bindRetries ports with
    | (.ok rtp, ports) =>
      (.ok rtp.address, { s with transport := some { rtp, rtcp := none, inbox := [] } }, ports)
    | (.error e, ports) => (.error e, s, ports)

/-- Lets control packets share the port of the media, or gives them a socket of their own. -/
def configureRtcp (s : MediaSession) (h : Host) (mux : Bool) :
    Except SessionError Unit × MediaSession :=
  let s := { s with rtcpMux := mux }
  match s.transport with
  | none => (.error (.notOpen s.media), s)
  | some t =>
    if mux then (.ok (), { s with transport := some { t with rtcp := none } })
    else if t.rtcp.isSome then (.ok (), s)
    else
      let host := { h with ip := t.rtp.requested.ip }
      match host.bind s.seat .rtcp t.rtcpPort with
      | .ok socket => (.ok (), { s with transport := some { t with rtcp := some socket } })
      | .error cause => (.error (.bind ⟨t.rtp.requested.ip, t.rtcpPort⟩ cause), s)

/-- Something arrives at the sockets; without sockets it is lost. -/
def deliver (s : MediaSession) (a : Arrival) : MediaSession :=
  { s with transport := s.transport.map fun t => { t with inbox := t.inbox ++ [a] } }

/-! ## Agreeing with the other side -/

/-- The session with what was agreed on with the section of a description. The address of the
media is only taken over by a session that does not wait for the first packet. -/
def adopt (s : MediaSession) (formats : FormatTable) (rtp rtcp : Option SocketAddress)
    (m : Sdp.MediaSection) : MediaSession :=
  let clock := match formats.media? with
    | some f => s.jitter.clock.setRate f.clockRate
    | none => s.jitter.clock
  { s with
    remoteRtp := if s.ice.isNone then rtp else s.remoteRtp
    remoteRtcp := rtcp
    remoteSsrc := m.source.map Sdp.SourceAttribute.ssrc
    jitter := { s.jitter with clock, formats }
    negotiated := formats }

/-- What a section of the other side's description leads to: the formats to agree on, and where
media and control packets are to be sent. -/
def terms (s : MediaSession) (d : Sdp.Description) (m : Sdp.MediaSection) :
    Except NegotiationError (FormatTable × Option SocketAddress × Option SocketAddress) := do
  let formats ← s.negotiator.negotiate m
  let rtp ← (d.rtpAddress m).mapError .description
  let rtcp ← (d.rtcpAddress m).mapError .description
  if s.ice.isNone && rtp.isNone then throw (.noRemoteAddress s.media)
  return (formats, rtp, rtcp)

/-- Agrees on formats with a section of the other side's description and notes where the other
side is. A failure changes nothing. -/
def negotiate (s : MediaSession) (d : Sdp.Description) (m : Sdp.MediaSection) :
    Except NegotiationError FormatTable × MediaSession :=
  match s.terms d m with
  | .ok (formats, rtp, rtcp) => (.ok formats, s.adopt formats rtp rtcp m)
  | .error e => (.error e, s)

/-- Takes part in connectivity checks, with `fresh` credentials unless there are some: where the
other side is will be known with its first packet. -/
def enableIce (s : MediaSession) (fresh : Sdp.IceCredentials) : MediaSession :=
  { s with ice := some (s.ice.getD fresh), remoteRtp := none }

/-- Protects the media, which takes a certificate. -/
def enableDtls (s : MediaSession) : Except NegotiationError Unit × MediaSession :=
  if s.fingerprint.isNone then (.error .dtlsUnavailable, s)
  else (.ok (), { s with dtls := true })

/-- What the session contributes to a local description: in an offer all that it can do, in an
answer what was agreed on. -/
def localMedia (s : MediaSession) (offer : Bool) : Except SessionError Sdp.LocalMedia :=
  match s.transport with
  | none => .error (.notOpen s.media)
  | some t => .ok {
      media := s.media
      rtpAddress := t.rtp.address
      rtcpAddress := if s.rtcpMux then none else t.rtcp.map BoundSocket.address
      formats := if offer then s.negotiator.supported else s.negotiated
      mode := s.mode
      ssrc := s.numbering.ssrc
      ice := s.ice
      dtls := if s.dtls then s.fingerprint else none }

/-! ## Mode and end -/

/-- Sets the mode. A session that stops receiving forgets what waits to be played. -/
def updateMode (s : MediaSession) (mode : Mode) : MediaSession :=
  { s with
    mode
    jitter := if s.mode.receives && !mode.receives then s.jitter.reset else s.jitter }

/-- Gives up the sockets and all that was agreed on. The numbering goes on. -/
def close (s : MediaSession) : MediaSession :=
  { s with
    transport := none
    mode := .inactive
    remoteRtp := none
    remoteRtcp := none
    remoteSsrc := none
    streamSsrc := none
    rtcpMux := false
    negotiated := .empty
    ice := none
    dtls := false
    rtcpReceived := 0
    jitter := s.jitter.reset
    statistics := {} }

/-- Closes the session and starts another numbering. -/
def reset (s : MediaSession) (numbering : Numbering) : MediaSession :=
  { s.close with numbering }

end MediaSession

end MediaGateway
