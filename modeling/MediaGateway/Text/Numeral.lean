/-!
# Unsigned numerals

A number is read from decimal digits, at least one of them, after at most one plus sign; there is
no minus sign and no blank. Leading zeros are allowed, so the value and not the length decides
whether the number fits the word it is read into.
-/

namespace MediaGateway.Text

/-- The number written by `cs`. -/
def readNat? (cs : List Char) : Option Nat :=
  let digits := match cs with
    | '+' :: rest => rest
    | _ => cs
  if !digits.isEmpty && digits.all Char.isDigit then some (Nat.ofDigitChars 10 digits 0) else none

/-- The number written by `cs`, if it is less than `bound`. -/
def readBelow? (bound : Nat) (cs : List Char) : Option Nat :=
  (readNat? cs).filter (· < bound)

/-- The byte written by `cs`. -/
def readUInt8? (cs : List Char) : Option UInt8 :=
  (readBelow? UInt8.size cs).map UInt8.ofNat

/-- The 16-bit word written by `cs`. -/
def readUInt16? (cs : List Char) : Option UInt16 :=
  (readBelow? UInt16.size cs).map UInt16.ofNat

/-- The 32-bit word written by `cs`. -/
def readUInt32? (cs : List Char) : Option UInt32 :=
  (readBelow? UInt32.size cs).map UInt32.ofNat

/-- The 64-bit word written by `cs`. -/
def readUInt64? (cs : List Char) : Option UInt64 :=
  (readBelow? UInt64.size cs).map UInt64.ofNat

/-- The lower-case hexadecimal digits of `n`, without leading zeros. -/
def hexadecimal (n : Nat) : String :=
  String.ofList (Nat.toDigits 16 n)

end MediaGateway.Text
