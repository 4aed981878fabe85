/-!
# Clocks

A wall clock counts nanoseconds from an arbitrary origin. A media clock turns its milliseconds into
timestamp units at a sampling rate, and can be anchored so that it reads in the numbering of the
other side of a stream: then "now" reads as the timestamp of the packet it was anchored to.

All arithmetic is integral. Both conversions round down, and both multiply words of 64 bits. At rates
up to a million no time that the wall clock can show makes a product that is too large for a word.
-/

namespace MediaGateway

/-- A wall clock that moves when it is told to. -/
structure WallClock where
  /-- Nanoseconds since the origin, modulo the size of the word. -/
  nanos : UInt64
deriving DecidableEq, Repr

namespace WallClock

/-- A clock at its origin. -/
def start : WallClock := ⟨0⟩

/-- Full milliseconds since the origin. -/
def millis (w : WallClock) : Nat :=
  w.nanos.toNat / 1000000

/-- Moves the clock by nanoseconds. -/
def tick (w : WallClock) (nanos : UInt64) : WallClock :=
  ⟨w.nanos + nanos⟩

/-- Moves the clock by milliseconds. -/
def advance (w : WallClock) (millis : Nat) : WallClock :=
  w.tick (UInt64.ofNat (millis * 1000000))

end WallClock

/-- What becomes of a product that is too large for a word of 64 bits. How a program is built decides
about it. -/
inductive Overflow where
  /-- The call that multiplies breaks off. -/
  | stops
  /-- The product is taken modulo the size of the word. -/
  | wraps
deriving DecidableEq, Repr

/-- What comes of a call that may break off; it says why it did. -/
abbrev Attempt (α : Type) : Type := Except String α

namespace Overflow

/-- Whether a call breaks off that multiplies two words. -/
def breaksOff (o : Overflow) (a b : Nat) : Bool :=
  o == stops && UInt64.size ≤ a * b

/-- What a call says that breaks off. -/
def reason : String := "attempt to multiply with overflow"

end Overflow

/-- A clock that counts in timestamp units. -/
structure MediaClock where
  /-- Timestamp units per second. -/
  rate : UInt32
  /-- What to add to the converted wall time. -/
  drift : Int
  /-- Whether the clock is anchored. -/
  synchronized : Bool
  /-- The clock runs. -/
  rate_pos : 0 < rate.toNat
deriving DecidableEq

namespace MediaClock

/-- The rate of narrow-band audio. -/
def defaultRate : UInt32 := 8000

/-- A clock that is not anchored. A rate of zero counts as one. -/
def make (rate : UInt32) : MediaClock :=
  if h : 0 < rate.toNat then ⟨rate, 0, false, h⟩ else ⟨1, 0, false, by decide⟩

/-- The clock at another rate; zero leaves it as it is. -/
def setRate (c : MediaClock) (rate : UInt32) : MediaClock :=
  if h : 0 < rate.toNat then { c with rate, rate_pos := h } else c

/-- Milliseconds as timestamp units at a rate. -/
def unitsAt (rate : UInt32) (millis : Nat) : UInt64 :=
  UInt64.ofNat millis * rate.toUInt64 / 1000

/-- Milliseconds as timestamp units. -/
def toUnits (c : MediaClock) (millis : Nat) : Nat :=
  (unitsAt c.rate millis).toNat

/-- Timestamp units as milliseconds. -/
def toMillis (c : MediaClock) (units : Nat) : Nat :=
  (UInt64.ofNat units * 1000 / c.rate.toUInt64).toNat

/-- What the clock reads at wall time `now`, in milliseconds. -/
def read (c : MediaClock) (now : Nat) : Int :=
  c.toUnits now + c.drift

/-- Anchors the clock: at wall time `now` it reads `timestamp`. -/
def synchronize (c : MediaClock) (now : Nat) (timestamp : UInt32) : MediaClock :=
  { c with drift := timestamp.toNat - c.toUnits now, synchronized := true }

/-- Takes the anchor away. -/
def reset (c : MediaClock) : MediaClock :=
  { c with drift := 0, synchronized := false }

end MediaClock

end MediaGateway
