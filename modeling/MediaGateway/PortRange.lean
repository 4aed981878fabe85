/-!
# Ports for media

Media is received on even ports, so that control packets can use the odd port above. The even ports
of a range are handed out in turn. Nothing is recorded about their use: whoever cannot use a port
asks for the next one.
-/

namespace MediaGateway

/-- A range of ports with a place in it. -/
structure PortRange where
  /-- The first port. -/
  low : UInt16
  /-- The number of ports, counting every other one from `low`. -/
  slots : Nat
  /-- How many ports have been handed out, modulo the size of the word. -/
  cursor : UInt32
deriving DecidableEq, Repr

namespace PortRange

/-- The first port of the range used when none is configured. -/
def defaultLow : UInt16 := 61000

/-- The last port of the range used when none is configured. -/
def defaultHigh : UInt16 := 62000

/-- The next even number; the largest word, which has none, stays as it is. -/
def roundUp (port : UInt16) : UInt16 :=
  if port % 2 = 1 ∧ port < 65535 then port + 1 else port

/-- The even ports from `low` to `high`. A range that would be empty has its first port. -/
def make (low high : UInt16) : PortRange :=
  let low := roundUp low
  let high := max high low
  { low, slots := (high - low).toNat / 2 + 1, cursor := 0 }

/-- The port in a slot. -/
def port (r : PortRange) (slot : Nat) : UInt16 :=
  r.low + UInt16.ofNat (2 * slot)

/-- The last port. -/
def high (r : PortRange) : UInt16 :=
  r.port (r.slots - 1)

/-- The port that is handed out next. -/
def peek (r : PortRange) : UInt16 :=
  r.port (r.cursor.toNat % r.slots)

/-- Hands out a port. -/
def next (r : PortRange) : UInt16 × PortRange :=
  (r.peek, { r with cursor := r.cursor + 1 })

end PortRange

end MediaGateway
