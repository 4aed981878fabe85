import MediaGateway.Format.Table

/-!
# The audio and video profile

The profile fixes the meaning of some payload numbers once and for all, so that a description need
not explain them. The numbers from 96 on are not fixed; the entries here are the ones that the
gateway offers.
-/

namespace MediaGateway.Profile

/-- Telephone events as the gateway offers them. -/
def telephoneEvent : Format :=
  .make Format.telephoneEventPayload Format.telephoneEvent 8000

/-- The audio formats of the profile. -/
def audio : FormatTable :=
  .ofList [.make 0 "PCMU" 8000, .make 3 "GSM" 8000, .make 8 "PCMA" 8000, .make 9 "G722" 8000,
    .make 18 "G729" 8000, .make 97 "iLBC" 8000, telephoneEvent]

/-- The video formats of the profile. -/
def video : FormatTable :=
  .ofList [.make 34 "H263" 90000, .make 96 "H264" 90000, .make 100 "VP8" 90000]

/-- The formats of the profile for a media type. -/
def formats : MediaType → FormatTable
  | .audio => audio
  | .video => video
  | .application => .empty

/-- The meaning of a payload number that needs no explanation. -/
def staticFormat? (media : MediaType) (payloadType : UInt8) : Option Format :=
  if payloadType < Format.dynamicMin then (formats media).find? payloadType else none

/-- The entry with an encoding name, in any ASCII case, and a clock rate. -/
def byName? (media : MediaType) (encoding : String) (clockRate : UInt32) : Option Format :=
  (formats media).toList.find? fun f =>
    Text.sameUpToCase f.encoding encoding && f.clockRate == clockRate

end MediaGateway.Profile
