import MediaGateway.Net.Address
import MediaGateway.Text.Hex

/-!
# Reading network addresses

The accepted texts are strict. A byte of a version 4 address has at most three digits and no
superfluous leading zero. A version 6 address has groups of one to four hexadecimal digits, at most
one `::`, which stands for at least one zero group, and may end in a dotted version 4 address that
stands for its last two groups; before the `::` no dotted address is allowed.
-/

namespace MediaGateway

namespace IpAddress

/-- Reads the decimal byte at the beginning of a text. -/
def readByte? (cs : List Char) : Option (UInt8 × List Char) :=
  let digits := cs.takeWhile Char.isDigit
  let value := Nat.ofDigitChars 10 digits 0
  if digits.isEmpty || 3 < digits.length || (1 < digits.length && digits.head? == some '0') ||
      255 < value then none
  else some (UInt8.ofNat value, cs.drop digits.length)

/-- Reads a byte after a point. -/
def readNextByte? : List Char → Option (UInt8 × List Char)
  | '.' :: cs => readByte? cs
  | _ => none

/-- Reads the dotted address at the beginning of a text. -/
def readDotted? (cs : List Char) : Option ((UInt8 × UInt8 × UInt8 × UInt8) × List Char) := do
  let (a, cs) ← readByte? cs
  let (b, cs) ← readNextByte? cs
  let (c, cs) ← readNextByte? cs
  let (d, cs) ← readNextByte? cs
  return ((a, b, c, d), cs)

/-- Reads the group of one to four hexadecimal digits at the beginning of a text. -/
def readGroup? (cs : List Char) : Option (UInt16 × List Char) :=
  let digits := cs.takeWhile fun c => (Hex.digit? c).isSome
  if digits.isEmpty || 4 < digits.length then none
  else
    let value := digits.foldl (fun acc c => 16 * acc + (Hex.digit? c).getD 0) 0
    some (UInt16.ofNat value, cs.drop digits.length)

/-- Two bytes as one group. -/
def groupOfBytes (high low : UInt8) : UInt16 :=
  high.toUInt16 <<< 8 ||| low.toUInt16

/-- What `readGroups` found. -/
structure Groups where
  /-- The groups, in order. -/
  groups : List UInt16
  /-- Whether the last two were written as a dotted address. -/
  endsDotted : Bool
  /-- The text behind them. -/
  rest : List Char

/-- Reads up to `limit` groups divided by colons, the first of them behind a colon unless `first`.
A dotted address counts as two groups and ends the reading. -/
def readGroups : (limit : Nat) → (first : Bool) → List Char → Groups
  | 0, _, cs => ⟨[], false, cs⟩
  | limit + 1, first, cs =>
    let body : Option (List Char) := match first, cs with
      | true, _ => some cs
      | false, ':' :: rest => some rest
      | false, _ => none
    match if 0 < limit then body.bind readDotted? else none with
    | some ((a, b, c, d), rest) => ⟨[groupOfBytes a b, groupOfBytes c d], true, rest⟩
    | none =>
      match body.bind readGroup? with
      | some (g, rest) =>
        let more := readGroups limit false rest
        ⟨g :: more.groups, more.endsDotted, more.rest⟩
      | none => ⟨[], false, cs⟩

/-- The address with the given groups, if there are eight of them. -/
def ofGroups? : List UInt16 → Option IpAddress
  | [a, b, c, d, e, f, g, h] => some (.v6 a b c d e f g h)
  | _ => none

/-- Reads a version 6 address that makes up the whole text. -/
def ofV6Chars? (cs : List Char) : Option IpAddress :=
  let head := readGroups 8 true cs
  if head.groups.length = 8 then
    if head.rest.isEmpty then ofGroups? head.groups else none
  else if head.endsDotted then none
  else match head.rest with
    | ':' :: ':' :: rest =>
      let tail := readGroups (7 - head.groups.length) true rest
      if tail.rest.isEmpty then
        ofGroups? (head.groups ++
          List.replicate (8 - head.groups.length - tail.groups.length) 0 ++ tail.groups)
      else none
    | _ => none

/-- Reads a version 4 address that makes up the whole text. -/
def ofV4Chars? (cs : List Char) : Option IpAddress :=
  match readDotted? cs with
  | some ((a, b, c, d), []) => some (.v4 a b c d)
  | _ => none

/-- Reads an address of either version. -/
def ofText? (s : String) : Option IpAddress :=
  (ofV4Chars? s.toList).or (ofV6Chars? s.toList)

end IpAddress

namespace SocketAddress

/-- Reads a port behind a colon that ends the text. -/
def readPort? : List Char → Option UInt16
  | ':' :: cs =>
    if !cs.isEmpty && cs.all Char.isDigit then Text.readUInt16? cs else none
  | _ => none

/-- Whether a text is empty or the number of a zone, of 32 bits, behind a percent sign. -/
def isZone : List Char → Bool
  | [] => true
  | '%' :: cs => !cs.isEmpty && cs.all Char.isDigit && Nat.ofDigitChars 10 cs 0 ≤ 0xFFFFFFFF
  | _ => false

/-- Reads `address:port`, with a version 6 address in brackets. That address may carry the number
of a zone, which has a meaning on its own host only and is not kept. -/
def ofText? (s : String) : Option SocketAddress :=
  match s.toList with
  | '[' :: cs => do
    let inside := cs.takeWhile (· ≠ ']')
    let address := inside.takeWhile (· ≠ '%')
    guard (isZone (inside.drop address.length))
    let ip ← IpAddress.ofV6Chars? address
    let port ← readPort? (cs.drop (inside.length + 1))
    return ⟨ip, port⟩
  | cs => do
    let ((a, b, c, d), rest) ← IpAddress.readDotted? cs
    let port ← readPort? rest
    return ⟨.v4 a b c d, port⟩

end SocketAddress

end MediaGateway
