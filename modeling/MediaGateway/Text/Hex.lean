/-!
# Hexadecimal text

Bytes are written as two lower-case hexadecimal digits each. Reading takes digits of either case.
-/

namespace MediaGateway.Hex

/-- The two digits of a byte. -/
def digits (b : UInt8) : List Char :=
  [Nat.digitChar (b.toNat / 16), Nat.digitChar (b.toNat % 16)]

/-- The text of bytes. -/
def encode (bs : List UInt8) : String :=
  String.ofList (bs.flatMap digits)

/-- The value of a hexadecimal digit, of either case. -/
def digit? (c : Char) : Option Nat :=
  if c.isDigit then some (c.toNat - '0'.toNat)
  else if 'a' ≤ c ∧ c ≤ 'f' then some (c.toNat - 'a'.toNat + 10)
  else if 'A' ≤ c ∧ c ≤ 'F' then some (c.toNat - 'A'.toNat + 10)
  else none

/-- Reads pairs of digits; there must be nothing else. -/
def decodeChars? : List Char → Option (List UInt8)
  | [] => some []
  | [_] => none
  | a :: b :: rest => do
    let high ← digit? a
    let low ← digit? b
    return UInt8.ofNat (16 * high + low) :: (← decodeChars? rest)

/-- Reads the text of bytes. -/
def decode? (s : String) : Option (List UInt8) :=
  decodeChars? s.toList

/-- A word of 64 bits as sixteen digits, the most significant first. -/
def ofUInt64 (w : UInt64) : String :=
  encode ((List.range 8).map fun i => (w >>> (56 - 8 * UInt64.ofNat i)).toUInt8)

end MediaGateway.Hex
