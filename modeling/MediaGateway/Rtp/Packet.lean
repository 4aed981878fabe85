import MediaGateway.Rtp.Octets

/-!
# RTP packets

A packet carries a stretch of media with the numbers that put it in its place: a sequence number,
a timestamp and the identifier of its source. On the wire it is a fixed header of twelve bytes and
the payload:

```text
|V=2|P|X|  CC   |M|     PT      |       sequence number         |
|                           timestamp                           |
|           synchronization source (SSRC) identifier            |
|                           payload...                          |
```

Reading also accepts what writing never produces: a list of `CC` contributing sources, an extension
header and padding. They are checked against the length of the datagram and left out of the packet.
-/

namespace MediaGateway

/-- Why a datagram is not a packet, or a payload not a telephone event. -/
inductive PacketError where
  /-- The data end within the fixed part. -/
  | tooShort (length : Nat)
  /-- The version field is not 2. -/
  | invalidVersion (version : UInt8)
  /-- The source list or the extension header ends behind the data. -/
  | truncated (needed available : Nat)
  /-- The padding length is zero or exceeds the payload. -/
  | invalidPadding (length : UInt8)
deriving DecidableEq, Repr

/-- The wording of a packet error. -/
def PacketError.message : PacketError → String
  | tooShort n => "packet too small: " ++ toString n ++ " bytes"
  | invalidVersion v => "invalid RTP version: " ++ toString v.toNat
  | truncated needed available =>
    "header overruns packet: need " ++ toString needed ++ " bytes, have " ++ toString available
  | invalidPadding n => "invalid padding length " ++ toString n.toNat

/-- One RTP packet. -/
structure Packet where
  /-- Set on the first packet of a talk spurt or at the end of a telephone event. -/
  marker : Bool
  /-- The payload type, seven bits wide on the wire. -/
  payloadType : UInt8
  /-- One more than that of the packet sent before, wrapping at 65536. -/
  sequence : UInt16
  /-- The sampling instant in units of the media clock. -/
  timestamp : UInt32
  /-- The source that numbers its packets. -/
  ssrc : UInt32
  /-- The media. -/
  payload : List UInt8
deriving DecidableEq, Repr

namespace Packet

/-- The length of the fixed header in bytes. -/
def headerLength : Nat := 12

/-- A packet with a payload type cut to its seven bits. -/
def make (payloadType : UInt8) (sequence : UInt16) (timestamp ssrc : UInt32)
    (payload : List UInt8) (marker : Bool) : Packet :=
  { marker, payloadType := payloadType &&& 0x7F, sequence, timestamp, ssrc, payload }

/-- The second byte of the header: marker bit and payload type. -/
def markerByte (p : Packet) : UInt8 :=
  (if p.marker then 0x80 else 0) ||| (p.payloadType &&& 0x7F)

/-- The wire form of a packet. -/
def encode (p : Packet) : List UInt8 :=
  0x80 :: p.markerByte :: (Octets.ofUInt16 p.sequence ++ Octets.ofUInt32 p.timestamp ++
    Octets.ofUInt32 p.ssrc ++ p.payload)

/-- What the bits of a first header byte announce. -/
structure Flags where
  /-- The protocol version. -/
  version : UInt8
  /-- Whether the payload ends in padding. -/
  padded : Bool
  /-- Whether an extension header follows the source list. -/
  extended : Bool
  /-- The number of contributing sources. -/
  sources : Nat

/-- The bits of a first header byte. -/
def flags (b : UInt8) : Flags where
  version := b >>> 6
  padded := b &&& 0x20 != 0
  extended := b &&& 0x10 != 0
  sources := (b &&& 0x0F).toNat

/-- What follows `count` bytes of an optional header part, or the error that `needed` bytes in all
are missing from the `available` ones. -/
def skip (count needed available : Nat) (body : List UInt8) : Except PacketError (List UInt8) :=
  if body.length < count then .error (.truncated needed available) else .ok (body.drop count)

/-- Skips the source list and the extension header that `f` announces. `body` is what follows the
fixed header of a datagram of `available` bytes. The source list alone is not checked when an
extension header follows it: then the check is that the extension's own header is complete. -/
def skipOptional (f : Flags) (available : Nat) (body : List UInt8) :
    Except PacketError (List UInt8) :=
  let offset := headerLength + 4 * f.sources
  if f.extended then
    match body.drop (4 * f.sources) with
    | _ :: _ :: high :: low :: rest =>
      let words := (Octets.toUInt16 high low).toNat
      skip (4 * words) (offset + 4 + 4 * words) available rest
    | _ => .error (.truncated (offset + 4) available)
  else skip (4 * f.sources) offset available body

/-- The payload without its padding, whose length `pad` is the last byte of the datagram. -/
def unpad (pad : UInt8) (payload : List UInt8) : Except PacketError (List UInt8) :=
  if pad = 0 ∨ payload.length < pad.toNat then .error (.invalidPadding pad)
  else .ok (payload.take (payload.length - pad.toNat))

/-- Reads a datagram. -/
def decode (data : List UInt8) : Except PacketError Packet :=
  match data with
  | b0 :: b1 :: s0 :: s1 :: t0 :: t1 :: t2 :: t3 :: i0 :: i1 :: i2 :: i3 :: body => do
    let f := flags b0
    if f.version ≠ 2 then throw (.invalidVersion f.version)
    let rest ← skipOptional f data.length body
    let payload ← if f.padded then unpad (data.getLastD 0) rest else pure rest
    return {
      marker := b1 &&& 0x80 != 0
      payloadType := b1 &&& 0x7F
      sequence := Octets.toUInt16 s0 s1
      timestamp := Octets.toUInt32 t0 t1 t2 t3
      ssrc := Octets.toUInt32 i0 i1 i2 i3
      payload }
  | _ => .error (.tooShort data.length)

/-- Whether a datagram that arrives where RTP and RTCP share a socket belongs to RTCP: its second
byte is one of the RTCP packet types. -/
def isRtcp : List UInt8 → Bool
  | _ :: b :: _ => 192 ≤ b && b ≤ 223
  | _ => false

end Packet

end MediaGateway
