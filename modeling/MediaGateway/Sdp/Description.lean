import MediaGateway.Format.Table
import MediaGateway.Mode
import MediaGateway.Sdp.Attribute

/-!
# Session descriptions

A description has a session part and one section for each medium. The lines that the gateway acts
on have fields of their own; all other attributes are kept as they are, so that they survive being
read and written. Lines of the session part hold for every section that does not overrule them.
-/

namespace MediaGateway.Sdp

/-- Format parameters by payload number, in ascending order of the numbers. -/
structure ParameterMap where
  /-- The entries, with strictly ascending payload numbers. -/
  entries : List (UInt8 × String)
deriving DecidableEq, Repr, Inhabited

namespace ParameterMap

/-- The list with `text` entered for `payloadType`. -/
def insertInto (payloadType : UInt8) (text : String) :
    List (UInt8 × String) → List (UInt8 × String)
  | [] => [(payloadType, text)]
  | e :: rest =>
    if payloadType < e.1 then (payloadType, text) :: e :: rest
    else if payloadType = e.1 then (payloadType, text) :: rest
    else e :: insertInto payloadType text rest

/-- Enters the parameters of a payload number, replacing those it had. -/
def insert (m : ParameterMap) (payloadType : UInt8) (text : String) : ParameterMap :=
  ⟨insertInto payloadType text m.entries⟩

/-- The parameters of a payload number. -/
def get? (m : ParameterMap) (payloadType : UInt8) : Option String :=
  m.entries.lookup payloadType

end ParameterMap

/-- The section of a description about one medium. -/
structure MediaSection where
  /-- The media token as written. -/
  media : String := ""
  /-- The port where the media is expected; zero marks a refused section. -/
  port : UInt16 := 0
  /-- The transport profile. -/
  protocol : String := ""
  /-- The format tokens in order of preference, payload numbers for RTP media. -/
  formats : List String := []
  /-- The address where the media is expected. -/
  connection : Option ConnectionData := none
  /-- What payload numbers mean, one entry each, in the order in which they were written. -/
  rtpmaps : List Format := []
  /-- Parameters of payload numbers. -/
  fmtps : ParameterMap := ⟨[]⟩
  /-- The length of a packet in milliseconds. -/
  ptime : Option UInt32 := none
  /-- In which directions media is to flow. -/
  direction : Option Mode := none
  /-- Where control packets are expected. -/
  rtcp : Option RtcpAttribute := none
  /-- Whether control packets share the port of the media. -/
  rtcpMux : Bool := false
  /-- Credentials for connectivity checks. -/
  ice : Option IceCredentials := none
  /-- Addresses to check. -/
  candidates : List Candidate := []
  /-- The certificate that protects the media. -/
  fingerprint : Option Fingerprint := none
  /-- The side's role in setting up the protection. -/
  setup : Option SetupRole := none
  /-- The announced source. -/
  source : Option SourceAttribute := none
  /-- All other attributes. -/
  attributes : List Attribute := []
deriving DecidableEq, Repr, Inhabited

namespace MediaSection

/-- The section of a medium at a port. -/
def make (media : MediaType) (port : UInt16) (protocol : String) : MediaSection :=
  { media := media.token, port, protocol }

/-- The medium that the section is about. -/
def mediaType (m : MediaSection) : Option MediaType :=
  MediaType.ofToken? m.media

/-- The format tokens that are payload numbers. -/
def payloadTypes (m : MediaSection) : List UInt8 :=
  m.formats.filterMap fun f => Text.readUInt8? f.toList

/-- Adds a payload number with its meaning and, if it has any, its parameters. -/
def addFormat (m : MediaSection) (f : Format) : MediaSection :=
  { m with
    formats := m.formats ++ [toString f.payloadType.toNat]
    fmtps := match f.parameters with
      | some text => m.fmtps.insert f.payloadType text
      | none => m.fmtps
    rtpmaps := m.rtpmaps ++ [{ f with parameters := none }] }

/-- The meaning of a payload number as it was written, without parameters. -/
def mapping? (m : MediaSection) (payloadType : UInt8) : Option Format :=
  m.rtpmaps.find? fun f => f.payloadType = payloadType

/-- The meaning of a payload number with its parameters. -/
def format? (m : MediaSection) (payloadType : UInt8) : Option Format :=
  (m.mapping? payloadType).map fun f => { f with parameters := m.fmtps.get? payloadType }

/-- Whether the section is refused. -/
def isRejected (m : MediaSection) : Bool :=
  m.port == 0

/-- Whether the section takes part in connectivity checks. -/
def containsIce (m : MediaSection) : Bool :=
  m.ice.isSome || !m.candidates.isEmpty

end MediaSection

/-- A complete session description. -/
structure Description where
  /-- The protocol version. -/
  version : UInt8 := 0
  /-- Who made the description. -/
  origin : Origin
  /-- The name of the session. -/
  sessionName : String
  /-- Where media is expected unless a section says otherwise. -/
  connection : Option ConnectionData := none
  /-- Start and end of the session. -/
  timing : UInt64 × UInt64 := (0, 0)
  /-- Whether the side answers connectivity checks without starting any. -/
  iceLite : Bool := false
  /-- Credentials for connectivity checks. -/
  ice : Option IceCredentials := none
  /-- The certificate that protects the media. -/
  fingerprint : Option Fingerprint := none
  /-- The side's role in setting up the protection. -/
  setup : Option SetupRole := none
  /-- In which directions media is to flow unless a section says otherwise. -/
  direction : Option Mode := none
  /-- All other attributes of the session part. -/
  attributes : List Attribute := []
  /-- The sections in order. -/
  media : List MediaSection := []
deriving DecidableEq, Repr

namespace Description

/-- Whether a section counts when the description is asked about a medium: it is about the medium
and not refused. -/
def isOpenSection (kind : MediaType) (m : MediaSection) : Bool :=
  m.mediaType == some kind && !m.isRejected

/-- The first section about a medium that is not refused. -/
def sectionFor? (d : Description) (kind : MediaType) : Option MediaSection :=
  d.media.find? (isOpenSection kind)

/-- Whether the other side takes part in connectivity checks. -/
def containsIce (d : Description) : Bool :=
  d.iceLite || d.ice.isSome || d.media.any MediaSection.containsIce

/-- Whether the other side wants the media protected. -/
def containsDtls (d : Description) : Bool :=
  d.fingerprint.isSome || d.media.any fun m => m.fingerprint.isSome

/-- The connection data that hold for a section. -/
def effectiveConnection (d : Description) (m : MediaSection) : Option ConnectionData :=
  m.connection.or d.connection

/-- The direction that holds for a section; without any it is both ways. -/
def effectiveDirection (d : Description) (m : MediaSection) : Mode :=
  (m.direction.or d.direction).getD .sendRecv

/-- Where the media of a section is expected, if the description has an address at all. -/
def rtpAddress (d : Description) (m : MediaSection) : Except SdpError (Option SocketAddress) :=
  match d.effectiveConnection m with
  | some c => c.ip.map fun ip => some ⟨ip, m.port⟩
  | none => .ok none

/-- Where the control packets of a section are expected, given where its media is: at the same
place if they share a port, else at the port and address of the section's attribute, which may
leave the address out, else at the next port. -/
def rtcpAddressBeside (m : MediaSection) (rtp : SocketAddress) : Except SdpError SocketAddress :=
  if m.rtcpMux then .ok rtp
  else match m.rtcp with
    | some { port, address := some text } =>
      match IpAddress.ofText? text with
      | some ip => .ok ⟨ip, port⟩
      | none => .error (.address text)
    | some { port, address := none } => .ok ⟨rtp.ip, port⟩
    | none => .ok ⟨rtp.ip, rtp.port + 1⟩

/-- Where the control packets of a section are expected, if the description has an address at
all. -/
def rtcpAddress (d : Description) (m : MediaSection) : Except SdpError (Option SocketAddress) := do
  match ← d.rtpAddress m with
  | some rtp => return some (← rtcpAddressBeside m rtp)
  | none => return none

end Description

end MediaGateway.Sdp
