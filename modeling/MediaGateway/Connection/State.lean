/-!
# The states of a connection

A connection without resources is in `NULL`. Binding it takes it to `HALF_OPEN`, where it waits for
the other side, and opening it to `OPEN`, where media flows. It returns to `NULL` from either by
being closed or by failing. Closing and failing an idle connection is allowed and does nothing, so
that whoever cleans up need not ask first.
-/

namespace MediaGateway

/-- Where a connection is in its life. -/
inductive ConnectionState where
  /-- Idle, without resources. -/
  | null
  /-- Bound, while the other side is not yet known. -/
  | halfOpen
  /-- Connected to the other side. -/
  | opened
deriving DecidableEq, Repr, Inhabited

namespace ConnectionState

/-- The name of a state in messages. -/
def display : ConnectionState → String
  | null => "NULL"
  | halfOpen => "HALF_OPEN"
  | opened => "OPEN"

/-- The name of a state in diagnostic texts. -/
def debugName : ConnectionState → String
  | null => "Null"
  | halfOpen => "HalfOpen"
  | opened => "Open"

/-- Whether the connection holds resources. -/
def isBound (s : ConnectionState) : Bool :=
  s != null

end ConnectionState

/-- What moves a connection from one state to another. -/
inductive StateEvent where
  | binding
  | opening
  | closing
  | failing
deriving DecidableEq, Repr

/-- Why an operation is not allowed. -/
inductive Refusal where
  /-- The connection is bound. -/
  | alreadyBound
  /-- The connection is not bound. -/
  | notBound
  /-- The connection is open. -/
  | alreadyOpen
  /-- A connection would be its own other side. -/
  | joinedToItself
  /-- There is no offer that could be answered. -/
  | noLocalOffer
deriving DecidableEq, Repr

/-- The wording of a refusal. -/
def Refusal.message : Refusal → String
  | alreadyBound => "Connection already bound"
  | notBound => "Connection not bound yet"
  | alreadyOpen => "Connection opened already"
  | joinedToItself => "Cannot join a connection to itself"
  | noLocalOffer => "No local offer generated"

/-- What an event does in a state. -/
inductive Transition where
  /-- It leads to a state. -/
  | next (state : ConnectionState)
  /-- It does nothing. -/
  | ignore
  /-- It is not allowed. -/
  | illegal (reason : Refusal)
deriving DecidableEq, Repr

/-- The transition table. -/
def ConnectionState.on : ConnectionState → StateEvent → Transition
  | null, .binding => .next halfOpen
  | halfOpen, .binding => .illegal .alreadyBound
  | opened, .binding => .illegal .alreadyBound
  | null, .opening => .illegal .notBound
  | halfOpen, .opening => .next opened
  | opened, .opening => .illegal .alreadyOpen
  | null, .closing => .ignore
  | halfOpen, .closing => .next null
  | opened, .closing => .next null
  | null, .failing => .ignore
  | halfOpen, .failing => .next null
  | opened, .failing => .next null

/-- For how many seconds a connection may stay in a state; zero stands for any time. -/
structure Timeouts where
  /-- The time to find the other side. -/
  halfOpen : UInt32
  /-- The time without media. -/
  opened : UInt32
deriving DecidableEq, Repr

namespace Timeouts

/-- Half a minute to find the other side, five minutes without media. -/
def default : Timeouts := ⟨30, 300⟩

/-- The seconds for a state. -/
def seconds (t : Timeouts) : ConnectionState → UInt32
  | .null => 0
  | .halfOpen => t.halfOpen
  | .opened => t.opened

/-- The number of heartbeats that a connection lives in a state: one more than fit into the time,
or zero if the time is not limited. -/
def ttl (t : Timeouts) (s : ConnectionState) (resolution : UInt32) : Nat :=
  if t.seconds s = 0 then 0 else (t.seconds s).toNat * resolution.toNat + 1

end Timeouts

end MediaGateway
