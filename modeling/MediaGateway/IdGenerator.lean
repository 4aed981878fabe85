/-!
# Connection numbers

Connections are numbered from one. Zero is never used, also after all words have been.
-/

namespace MediaGateway

/-- Hands out numbers. -/
structure IdGenerator where
  /-- The word that is used next, unless it is zero. -/
  next : UInt32
deriving DecidableEq, Repr

namespace IdGenerator

/-- The generator that begins with one. -/
def start : IdGenerator := ⟨1⟩

/-- Hands out the next number other than zero. -/
def draw (g : IdGenerator) : UInt32 × IdGenerator :=
  if g.next = 0 then (1, ⟨2⟩) else (g.next, ⟨g.next + 1⟩)

/-- The first `n` numbers. -/
def take : Nat → IdGenerator → List UInt32
  | 0, _ => []
  | n + 1, g => g.draw.1 :: take n g.draw.2

end IdGenerator

end MediaGateway
