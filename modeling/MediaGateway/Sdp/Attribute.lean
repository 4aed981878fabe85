import MediaGateway.Net.Address.Parser
import MediaGateway.Sdp.Error
import MediaGateway.Text.Blank
import MediaGateway.Text.Split

/-!
# The small parts of a session description

The values that single lines carry: the origin, connection data, and those attributes that the
gateway acts on. Each has a text form; the two that appear with the same rules at both levels of a
description, fingerprint and set-up role, are also read here.
-/

namespace MediaGateway.Sdp

/-- The address type of a text: it is taken for version 6 exactly if it has a colon. -/
def addressType (address : String) : String :=
  if address.toList.contains ':' then "IP6" else "IP4"

/-- Who made a description. -/
structure Origin where
  /-- The user on the originating host. -/
  username : String
  /-- A number that names the session. -/
  sessionId : String
  /-- The version of this description of the session. -/
  sessionVersion : String
  /-- `IP4` or `IP6`. -/
  addressType : String
  /-- The originating host. -/
  address : String
deriving DecidableEq, Repr

/-- The origin of a first description made by no particular user. -/
def Origin.make (sessionId address : String) : Origin :=
  { username := "-", sessionId, sessionVersion := "1",
    addressType := Sdp.addressType address, address }

/-- Where media is expected. -/
structure ConnectionData where
  /-- `IP4` or `IP6`. -/
  addressType : String
  /-- The address, which need not be numeric. -/
  address : String
deriving DecidableEq, Repr

namespace ConnectionData

/-- Connection data with the address type that the text suggests. -/
def make (address : String) : ConnectionData :=
  { addressType := Sdp.addressType address, address }

/-- The numeric address. -/
def ip (c : ConnectionData) : Except SdpError IpAddress :=
  match IpAddress.ofText? c.address with
  | some ip => .ok ip
  | none => .error (.address c.address)

end ConnectionData

/-- What a side of a connectivity check authenticates itself with. -/
structure IceCredentials where
  /-- The user name fragment. -/
  ufrag : String
  /-- The password. -/
  pwd : String
deriving DecidableEq, Repr

/-- A transport address that a side may be reached at. -/
structure Candidate where
  /-- Groups candidates of like origin. -/
  foundation : String
  /-- 1 for RTP, 2 for RTCP. -/
  component : UInt8
  /-- The transport protocol in lower case. -/
  transport : String
  /-- The larger, the sooner tried. -/
  priority : UInt32
  /-- The address. -/
  address : String
  /-- The port. -/
  port : UInt16
  /-- How the address was found. -/
  kind : String
deriving DecidableEq, Repr

namespace Candidate

/-- The priority of a host candidate: the type preference 126 in the high byte, the local
preference 65535 in the two middle ones, and in the low one the complement of the component. The
parts are joined bit by bit, so that component 0, whose complement needs a ninth bit, gets the
priority that a complement of zero would give. -/
def hostPriority (component : UInt8) : UInt32 :=
  (126 : UInt32) <<< 24 ||| (65535 : UInt32) <<< 8 ||| (256 - component.toUInt32)

/-- The candidate for an address of the host itself. -/
def host (component : UInt8) (s : SocketAddress) : Candidate :=
  { foundation := "1", component, transport := "udp", priority := hostPriority component,
    address := s.ip.text, port := s.port, kind := "host" }

/-- The attribute value. -/
def text (c : Candidate) : String :=
  c.foundation ++ " " ++ toString c.component.toNat ++ " " ++ c.transport ++ " " ++
    toString c.priority.toNat ++ " " ++ c.address ++ " " ++ toString c.port.toNat ++ " typ " ++
    c.kind

end Candidate

/-- The fingerprint of the certificate that protects the media. -/
structure Fingerprint where
  /-- The hash function. -/
  hash : String
  /-- The hash value. -/
  value : String
deriving DecidableEq, Repr

namespace Fingerprint

/-- Reads an attribute value: the hash function, a space, the hash value. -/
def ofChars (cs : List Char) : Except SdpError Fingerprint :=
  match Text.cut ' ' (Text.trim cs) with
  | some (hash, value) => .ok ⟨String.ofList hash, String.ofList (Text.trim value)⟩
  | none => .error (.malformed 'a' ("fingerprint:" ++ String.ofList cs))

/-- The attribute value. -/
def text (f : Fingerprint) : String :=
  f.hash ++ " " ++ f.value

end Fingerprint

/-- Which side starts to set up the protection of the media. -/
inductive SetupRole where
  | active
  | passive
  | actpass
  | holdconn
deriving DecidableEq, Repr

namespace SetupRole

/-- The attribute value. -/
def token : SetupRole → String
  | active => "active"
  | passive => "passive"
  | actpass => "actpass"
  | holdconn => "holdconn"

/-- Reads an attribute value. -/
def ofChars (cs : List Char) : Except SdpError SetupRole :=
  let word := String.ofList (Text.trim cs)
  match [active, passive, actpass, holdconn].find? fun r => r.token == word with
  | some r => .ok r
  | none => .error (.malformed 'a' ("setup:" ++ word))

end SetupRole

/-- The source that a section announces. -/
structure SourceAttribute where
  /-- The identifier of the source. -/
  ssrc : UInt32
  /-- The canonical name of the source. -/
  cname : Option String
deriving DecidableEq, Repr

/-- Where the control packets of a section are expected. -/
structure RtcpAttribute where
  /-- The port. -/
  port : UInt16
  /-- The address, if it is another one than that of the media. -/
  address : Option String
deriving DecidableEq, Repr

/-- An attribute that is kept without being interpreted. -/
structure Attribute where
  /-- The name. -/
  name : String
  /-- What stands behind the first colon, if there is one. -/
  value : Option String
deriving DecidableEq, Repr

/-- The attribute as a line. -/
def Attribute.line (a : Attribute) : String :=
  match a.value with
  | some value => "a=" ++ a.name ++ ":" ++ value
  | none => "a=" ++ a.name

end MediaGateway.Sdp
