/-!
# Comparison up to ASCII case

Encoding names and media tokens are compared without regard to the case of the ASCII letters; all
other characters have to agree exactly.
-/

namespace MediaGateway.Text

/-- The two texts differ at most in the case of ASCII letters. -/
def sameUpToCase (a b : String) : Bool :=
  a.toLower == b.toLower

@[simp] theorem sameUpToCase_iff {a b : String} : sameUpToCase a b ↔ a.toLower = b.toLower := by
  simp [sameUpToCase]

end MediaGateway.Text
