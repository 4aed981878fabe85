/-!
# Samples

A sample of a metric is a real number with 53 significant bits. All samples of the gateway are
integers, so they are kept as such; an integer with more bits is rounded to the nearest one that
fits, with ties to the even one.

A sample is written without an exponent and with as few significant digits as identify it: the
shortest decimal number that is rounded to the sample, and of those with equally many digits the
nearest one. The places behind these digits are zeros.
-/

namespace MediaGateway.Sample

/-- The distance of the representable numbers around `n`. -/
def spacing (n : Nat) : Nat :=
  1 <<< (n.log2 + 1 - 53)

/-- The representable number nearest to `n`; of two equally near ones the even multiple of the
spacing. -/
def nearestNat (n : Nat) : Nat :=
  let unit := spacing n
  let below := n / unit
  let rest := n % unit
  if unit < 2 * rest ∨ unit = 2 * rest ∧ below % 2 = 1 then (below + 1) * unit else below * unit

/-- The representable number nearest to `n`. -/
def nearest : Int → Int
  | .ofNat n => nearestNat n
  | .negSucc n => -nearestNat (n + 1)

/-- The multiple of `grid` next to `n` that is rounded to `n`, if there is one; of two the nearer
one. -/
def onGrid? (n grid : Nat) : Option Nat :=
  let below := n / grid * grid
  let above := below + grid
  if nearestNat below = n then
    some (if nearestNat above = n ∧ above - n < n - below then above else below)
  else if nearestNat above = n then some above
  else none

/-- The shortest decimal number that is rounded to the representable number `n`. -/
def shortest (n : Nat) : Nat :=
  ((List.range (n.log2 + 1)).reverse.findSome? fun zeros => onGrid? n (Nat.pow 10 zeros)).getD n

/-- The text of a sample. -/
def text (x : Int) : String :=
  let digits := toString (shortest (nearestNat x.natAbs))
  if x < 0 then "-" ++ digits else digits

end MediaGateway.Sample
