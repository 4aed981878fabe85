import MediaGateway.Connection.State
import MediaGateway.Mode

/-!
# The life of a connection

What the state machine knows about a connection, whatever kind of media leg it is. A state with a
limited time counts heartbeats down. The heartbeat is armed while there is something to count, and
every time it is armed or disarmed a new epoch begins; a heartbeat that was submitted in an earlier
epoch has no effect. The generation counts how often the connection was bound, so that work begun in
one binding can be told from work of the next.
-/

namespace MediaGateway

/-- The state of a connection and what is counted in it. -/
structure Lifecycle where
  /-- Where the connection is. -/
  state : ConnectionState := .null
  /-- In which directions media may flow. -/
  mode : Mode := .inactive
  /-- The heartbeats left, zero if they are not counted. -/
  ttl : Nat := 0
  /-- How often the heartbeat was armed or disarmed. -/
  epoch : Nat := 0
  /-- Whether heartbeats are counted. -/
  armed : Bool := false
  /-- How often the connection was bound. -/
  generation : Nat := 0
deriving DecidableEq, Repr, Inhabited

namespace Lifecycle

/-- Arms or disarms the heartbeat according to the heartbeats left, and says for which epoch
heartbeats have to be submitted, if it was armed now. -/
def rearm (l : Lifecycle) : Lifecycle × Option Nat :=
  if l.ttl = 0 then
    (if l.armed then { l with epoch := l.epoch + 1, armed := false } else l, none)
  else if l.armed then (l, none)
  else ({ l with epoch := l.epoch + 1, armed := true }, some (l.epoch + 1))

/-- Enters a state with its full time. -/
def enter (l : Lifecycle) (t : Timeouts) (resolution : UInt32) (state : ConnectionState) :
    Lifecycle × Option Nat :=
  { l with state, ttl := t.ttl state resolution }.rearm

/-- The full time of the state again, if the connection is bound. -/
def refresh (l : Lifecycle) (t : Timeouts) (resolution : UInt32) : Lifecycle :=
  if l.state.isBound then { l with ttl := t.ttl l.state resolution } else l

/-- Whether the connection is bound and was not bound again since a generation. -/
def isCurrent (l : Lifecycle) (generation : Nat) : Bool :=
  l.generation == generation && l.state.isBound

/-- What a heartbeat means. -/
inductive Beat where
  /-- It belongs to an earlier epoch. -/
  | stale
  /-- There are heartbeats left. -/
  | alive
  /-- It was the last one. -/
  | expired
deriving DecidableEq, Repr

/-- A heartbeat of an epoch. -/
def beat (l : Lifecycle) (epoch : Nat) : Beat × Lifecycle :=
  if !l.armed || l.epoch != epoch then (.stale, l)
  else (if 1 < l.ttl then .alive else .expired, { l with ttl := l.ttl - 1 })

end Lifecycle

end MediaGateway
