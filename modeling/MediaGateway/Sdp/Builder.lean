import MediaGateway.Sdp.Description

/-!
# Making local descriptions

The gateway describes its side of an exchange with one section for each of its media sessions. An
offer lists what a session can do, an answer what was agreed. Sections that the gateway refuses are
repeated with port zero.
-/

namespace MediaGateway.Sdp

/-- The profile of plain media. -/
def rtpAvp : String := "RTP/AVP"

/-- The profile of protected media. -/
def rtpSavpf : String := "UDP/TLS/RTP/SAVPF"

/-- What one media session contributes to a description. -/
structure LocalMedia where
  /-- The medium. -/
  media : MediaType
  /-- Where the session receives media. -/
  rtpAddress : SocketAddress
  /-- Where it receives control packets, if that is a place of its own. -/
  rtcpAddress : Option SocketAddress
  /-- What it offers or agreed to. -/
  formats : FormatTable
  /-- Its mode. -/
  mode : Mode
  /-- The source of the packets it sends. -/
  ssrc : UInt32
  /-- Its credentials, if it takes part in connectivity checks. -/
  ice : Option IceCredentials
  /-- Its certificate, if the media is protected. -/
  dtls : Option Fingerprint
deriving DecidableEq, Repr

/-- Makes descriptions for one side. -/
structure Builder where
  /-- The address that media is bound to. -/
  localAddress : String
  /-- The address that is advertised instead, if there is one. -/
  externalAddress : Option String
deriving DecidableEq, Repr

namespace Builder

/-- The name of every session. -/
def sessionName : String := "Media Gateway"

/-- The length of the packets that are asked for, in milliseconds. -/
def packetTime : UInt32 := 20

/-- A builder; an empty external address counts as none. -/
def make (localAddress : String) (externalAddress : Option String) : Builder :=
  { localAddress, externalAddress := externalAddress.filter (· ≠ "") }

/-- The address to advertise for a local one. -/
def advertised (b : Builder) (address : String) : String :=
  b.externalAddress.getD address

/-- Whether an offer or answer lists a format. Of several telephone event formats an offer lists
only the one under the usual payload number. -/
def lists (offer : Bool) (f : Format) : Bool :=
  !(offer && f.isTelephoneEvent && f.payloadType != Format.telephoneEventPayload)

/-- The host candidates of a session. -/
def candidates (l : LocalMedia) : List Candidate :=
  Candidate.host 1 l.rtpAddress :: l.rtcpAddress.toList.map (Candidate.host 2)

/-- The section of a session, still without formats. -/
def frameSection (b : Builder) (offer : Bool) (cname : String) (l : LocalMedia) : MediaSection :=
  { MediaSection.make l.media l.rtpAddress.port (if l.dtls.isSome then rtpSavpf else rtpAvp) with
    connection := some (.make (b.advertised l.rtpAddress.ip.text))
    ptime := some packetTime
    rtcp := l.rtcpAddress.map fun s => ⟨s.port, none⟩
    rtcpMux := l.rtcpAddress.isNone
    ice := l.ice
    candidates := if l.ice.isSome then candidates l else []
    fingerprint := l.dtls
    setup := l.dtls.map fun _ => if offer then .actpass else .passive
    direction := some l.mode
    source := some ⟨l.ssrc, some cname⟩ }

/-- The section of a session. -/
def mediaSection (b : Builder) (offer : Bool) (cname : String) (l : LocalMedia) : MediaSection :=
  (l.formats.toList.filter (lists offer)).foldl MediaSection.addFormat
    (b.frameSection offer cname l)

/-- The description with one section for each session. -/
def build (b : Builder) (sessionId : String) (offer : Bool) (cname : String)
    (sessions : List LocalMedia) : Description :=
  let address := b.advertised b.localAddress
  { origin := .make sessionId address
    sessionName
    connection := some (.make address)
    iceLite := sessions.any fun l => l.ice.isSome
    media := sessions.map (b.mediaSection offer cname) }

/-- The section that refuses an offered one. -/
def rejection (m : MediaSection) : MediaSection :=
  { media := m.media, protocol := m.protocol, formats := m.formats }

/-- Adds the refusal of an offered section to an answer. -/
def reject (answer : Description) (m : MediaSection) : Description :=
  { answer with media := answer.media ++ [rejection m] }

end Builder

end MediaGateway.Sdp
