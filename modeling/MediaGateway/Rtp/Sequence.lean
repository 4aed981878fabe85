/-!
# Distance between sequence numbers

Sequence numbers wrap at 65536, so which of two numbers comes first is decided by the shorter way
round. The distance is positive if the first number lies ahead of the second. At the one distance
where both ways are equally long, 32768, each number counts as behind the other.
-/

namespace MediaGateway.Sequence

/-- How far `a` lies ahead of `b`, from -32768 to 32767. -/
def distance (a b : UInt16) : Int :=
  Int.bmod (a.toNat - b.toNat) 65536

theorem distance_self (a : UInt16) : distance a a = 0 := by
  simp [distance]

end MediaGateway.Sequence
