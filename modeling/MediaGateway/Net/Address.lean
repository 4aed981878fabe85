import MediaGateway.Text.Numeral

/-!
# Network addresses

An address of the internet protocol, version 4 or 6, and a socket address, which adds a port.

The text of a version 6 address is the canonical one: lower-case groups without leading zeros, the
first longest run of two or more zero groups written `::`, and an address that embeds a version 4
address (`::ffff:a.b.c.d`) written with the dotted form at its end.
-/

namespace MediaGateway

/-- An address of a network interface. -/
inductive IpAddress where
  /-- Version 4: four bytes, most significant first. -/
  | v4 (a b c d : UInt8)
  /-- Version 6: eight groups of 16 bits, most significant first. -/
  | v6 (a b c d e f g h : UInt16)
deriving DecidableEq, Repr

/-- Where a datagram comes from or goes to. -/
structure SocketAddress where
  /-- The interface. -/
  ip : IpAddress
  /-- The port on it. -/
  port : UInt16
deriving DecidableEq, Repr

namespace IpAddress

/-- The address of the host itself, `127.0.0.1`. -/
def loopback : IpAddress := .v4 127 0 0 1

/-- The unspecified address of version 4, `0.0.0.0`. -/
def unspecifiedV4 : IpAddress := .v4 0 0 0 0

/-- The unspecified address of version 6, `::`. -/
def unspecifiedV6 : IpAddress := .v6 0 0 0 0 0 0 0 0

/-- Whether the address belongs to version 6 of the protocol. -/
def isV6 : IpAddress → Bool
  | v4 .. => false
  | v6 .. => true

/-- Whether the first six groups are those of an address that embeds one of version 4. -/
def embedsV4 (groups : List UInt16) : Bool :=
  groups == [0, 0, 0, 0, 0, 0xFFFF]

/-- The address of version 4 that an address of version 6 embeds. -/
def embedded? : IpAddress → Option IpAddress
  | v4 .. => none
  | v6 a b c d e f g h =>
    if embedsV4 [a, b, c, d, e, f] then
      some (.v4 (g >>> 8).toUInt8 g.toUInt8 (h >>> 8).toUInt8 h.toUInt8)
    else none

/-- Whether the address is that of a group of receivers, in version 6. -/
def isGroupV6 : IpAddress → Bool
  | v4 .. => false
  | v6 a .. => a >>> 8 == 0xFF

/-- Whether the address of version 6 means something only together with an interface: it is valid
on a single link, or it is that of a group which does not reach beyond the host or the link. -/
def needsInterface : IpAddress → Bool
  | v4 .. => false
  | v6 a .. =>
    a &&& 0xFFC0 == 0xFE80 || (a >>> 8 == 0xFF && (a &&& 0xF == 1 || a &&& 0xF == 2))

/-- Four bytes in decimal, divided by points. -/
def dotted (a b c d : UInt8) : String :=
  toString a.toNat ++ "." ++ toString b.toNat ++ "." ++ toString c.toNat ++ "." ++ toString d.toNat

/-- Groups in hexadecimal, divided by colons. -/
def colonSeparated (groups : List UInt16) : String :=
  String.intercalate ":" (groups.map fun g => Text.hexadecimal g.toNat)

/-- How many zero groups stand at the beginning. -/
def leadingZeros (groups : List UInt16) : Nat :=
  (groups.takeWhile (· == 0)).length

/-- Start and length of the first longest run of zero groups. -/
def longestZeroRun : List UInt16 → Nat × Nat
  | [] => (0, 0)
  | g :: groups =>
    let here := leadingZeros (g :: groups)
    let later := longestZeroRun groups
    if later.2 ≤ here then (0, here) else (later.1 + 1, later.2)

/-- The text of the groups with their first longest run of zeros, if it has at least two groups,
written as two colons. -/
def compressed (groups : List UInt16) : String :=
  let run := longestZeroRun groups
  if 1 < run.2 then
    colonSeparated (groups.take run.1) ++ "::" ++ colonSeparated (groups.drop (run.1 + run.2))
  else colonSeparated groups

/-- The canonical text of an address. -/
def text : IpAddress → String
  | v4 a b c d => dotted a b c d
  | v6 a b c d e f g h =>
    if embedsV4 [a, b, c, d, e, f] then
      "::ffff:" ++ dotted (g >>> 8).toUInt8 g.toUInt8 (h >>> 8).toUInt8 h.toUInt8
    else compressed [a, b, c, d, e, f, g, h]

end IpAddress

/-- The text of a socket address: the address in brackets if it is of version 6, and the port after
a colon. -/
def SocketAddress.text (s : SocketAddress) : String :=
  (if s.ip.isV6 then "[" ++ s.ip.text ++ "]" else s.ip.text) ++ ":" ++ toString s.port.toNat

end MediaGateway
