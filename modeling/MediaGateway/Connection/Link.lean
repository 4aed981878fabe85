import MediaGateway.JitterBuffer

/-!
# Links between connections of one gateway

Two connections of one gateway are linked in pairs. Each has an inbox for the frames that its peer
sends to it; when it is full, the oldest frame gives way.
-/

namespace MediaGateway

/-- One side of a link. -/
structure Link where
  /-- The connection on the other side, by its place in the gateway. -/
  peer : Option Nat := none
  /-- The frames that were not read yet, oldest first. -/
  inbox : List Frame := []
deriving DecidableEq, Repr

namespace Link

/-- How many frames an inbox holds. -/
def capacity : Nat := 64

/-- Adds a frame; the oldest one gives way if the inbox is full. -/
def deliver (l : Link) (f : Frame) : Link :=
  { l with inbox := (if capacity ≤ l.inbox.length then l.inbox.drop 1 else l.inbox) ++ [f] }

/-- Reads the oldest frame. -/
def receive (l : Link) : Option Frame × Link :=
  (l.inbox.head?, { l with inbox := l.inbox.drop 1 })

/-- Forgets the frames that were not read. -/
def clear (l : Link) : Link :=
  { l with inbox := [] }

end Link

end MediaGateway
