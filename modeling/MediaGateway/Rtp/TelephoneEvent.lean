import MediaGateway.Rtp.Packet

/-!
# Telephone events

Keypad digits travel inside an RTP stream as payloads of four bytes: the event code, a byte with
the end flag and the volume, and the duration so far.

```text
|     event     |E|R| volume    |          duration             |
```
-/

namespace MediaGateway

/-- One report about a telephone event. -/
structure TelephoneEvent where
  /-- The event code: 0 to 9 for the digits, then `*`, `#` and `A` to `D`. -/
  event : UInt8
  /-- Set on the last reports of an event. -/
  ended : Bool
  /-- The power level in -dBm0, six bits wide on the wire. -/
  volume : UInt8
  /-- How long the event has lasted, in timestamp units. -/
  duration : UInt16
deriving DecidableEq, Repr

namespace TelephoneEvent

/-- A report with the volume cut to its six bits. -/
def make (event : UInt8) (ended : Bool) (volume : UInt8) (duration : UInt16) : TelephoneEvent :=
  { event, ended, volume := volume &&& 0x3F, duration }

/-- The payload that carries a report. -/
def encode (e : TelephoneEvent) : List UInt8 :=
  e.event :: ((if e.ended then 0x80 else 0) ||| (e.volume &&& 0x3F)) :: Octets.ofUInt16 e.duration

/-- Reads the report at the beginning of a payload. -/
def decode : List UInt8 → Except PacketError TelephoneEvent
  | event :: b :: d0 :: d1 :: _ =>
    .ok { event, ended := b &&& 0x80 != 0, volume := b &&& 0x3F, duration := Octets.toUInt16 d0 d1 }
  | payload => .error (.tooShort payload.length)

/-- The key that an event code stands for. -/
def symbol (e : TelephoneEvent) : Option Char :=
  ['0', '1', '2', '3', '4', '5', '6', '7', '8', '9', '*', '#', 'A', 'B', 'C', 'D'][e.event.toNat]?

end TelephoneEvent

end MediaGateway
