import MediaGateway.Text.Case

/-!
# Media types and payload formats

A format says how the payloads with a certain number are encoded. Two formats describe the same
encoding when name, clock rate and channel count agree; the payload number and the parameters are
each side's own business.
-/

namespace MediaGateway

/-- The media that a section of a session description is about. -/
inductive MediaType where
  | audio
  | video
  | application
deriving DecidableEq, Repr, Inhabited

namespace MediaType

/-- The token of a session description. -/
def token : MediaType → String
  | audio => "audio"
  | video => "video"
  | application => "application"

/-- The name in messages. -/
def display : MediaType → String
  | audio => "Audio"
  | video => "Video"
  | application => "Application"

/-- Reads a token of any ASCII case. -/
def ofToken? (s : String) : Option MediaType :=
  [audio, video, application].find? fun m => Text.sameUpToCase m.token s

/-- Reads a token of any ASCII case; the error is the message for the user. -/
def ofText (s : String) : Except String MediaType :=
  match ofToken? s with
  | some m => .ok m
  | none => .error ("unsupported media type: " ++ s)

end MediaType

/-- The encoding of the payloads of one payload number. -/
structure Format where
  /-- The payload number. -/
  payloadType : UInt8
  /-- The encoding name, such as `PCMU`. -/
  encoding : String
  /-- Timestamp units per second. -/
  clockRate : UInt32
  /-- The number of audio channels. -/
  channels : UInt8
  /-- The encoder's parameters, passed on as they are. -/
  parameters : Option String
deriving DecidableEq, Repr

namespace Format

/-- The lowest payload number that a session may assign itself. -/
def dynamicMin : UInt8 := 96

/-- The highest payload number. -/
def dynamicMax : UInt8 := 127

/-- The payload number under which telephone events are offered. -/
def telephoneEventPayload : UInt8 := 101

/-- The encoding name of telephone events. -/
def telephoneEvent : String := "telephone-event"

/-- A format with one channel and no parameters. -/
def make (payloadType : UInt8) (encoding : String) (clockRate : UInt32) : Format :=
  { payloadType, encoding, clockRate, channels := 1, parameters := none }

/-- The format with another channel count, at least one. -/
def withChannels (f : Format) (channels : UInt8) : Format :=
  { f with channels := max channels 1 }

/-- The format under another payload number. -/
def renumbered (f : Format) (payloadType : UInt8) : Format :=
  { f with payloadType }

/-- Whether the payloads are telephone events. -/
def isTelephoneEvent (f : Format) : Bool :=
  Text.sameUpToCase f.encoding telephoneEvent

/-- Whether the payload number is one that a session assigns itself. -/
def isDynamic (f : Format) : Bool :=
  dynamicMin ≤ f.payloadType && f.payloadType ≤ dynamicMax

/-- Whether the two formats describe the same encoding. -/
def sameEncoding (f g : Format) : Bool :=
  Text.sameUpToCase f.encoding g.encoding && f.clockRate == g.clockRate && f.channels == g.channels

/-- The format as an attribute value: number, name, rate and, unless it is one, channel count. -/
def text (f : Format) : String :=
  toString f.payloadType.toNat ++ " " ++ f.encoding ++ "/" ++ toString f.clockRate.toNat ++
    if 1 < f.channels then "/" ++ toString f.channels.toNat else ""

end Format

end MediaGateway
