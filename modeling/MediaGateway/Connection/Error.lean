import MediaGateway.Connection.State
import MediaGateway.Session.Error

/-!
# Failures of connection operations

The wording is what call control is told.
-/

namespace MediaGateway

/-- What is done to a connection. -/
inductive Operation where
  | event (event : StateEvent)
  | setMode
  | join
  | generateOffer
  | processOffer
  | processAnswer
deriving DecidableEq, Repr

/-- The name of an event in messages. -/
def StateEvent.display : StateEvent → String
  | binding => "bind"
  | opening => "open"
  | closing => "close"
  | failing => "fail"

/-- The name of an operation in messages. -/
def Operation.display : Operation → String
  | event e => e.display
  | setMode => "set mode"
  | join => "join"
  | generateOffer => "generate offer"
  | processOffer => "process offer"
  | processAnswer => "process answer"

/-- The points at which a connection calls the code behind it. -/
inductive Hook where
  | created
  | opened
  | closed
  | failed
  | applyMode
deriving DecidableEq, Repr

/-- The name of a hook. -/
def Hook.display : Hook → String
  | created => "on_created"
  | opened => "on_opened"
  | closed => "on_closed"
  | failed => "on_failed"
  | applyMode => "apply_mode"

/-- A connection number as call control writes it, in hexadecimal. -/
def hexId (id : UInt32) : String :=
  Text.hexadecimal id.toNat

/-- Why an operation on a connection failed. -/
inductive ConnectionError where
  /-- The operation is not allowed in the state. -/
  | illegalState (operation : Operation) (state : ConnectionState) (reason : Refusal)
  /-- A hook refused. -/
  | hook (hook : Hook) (reason : String)
  /-- A media session failed, or the two sides came to no agreement. -/
  | session (error : SessionError)
  /-- The connection was closed while the operation was under way. -/
  | closed (id : UInt32)
  /-- There is no connection on the other side. -/
  | noPeer (id : UInt32)
  /-- The connection is not idle. -/
  | inUse (id : UInt32) (state : ConnectionState)
  /-- The code behind a hook broke off. -/
  | panicked (reason : String)
deriving DecidableEq, Repr

namespace ConnectionError

/-- The wording of the failure. -/
def message : ConnectionError → String
  | illegalState operation state reason =>
    "cannot " ++ operation.display ++ " connection in state " ++ state.display ++ ": " ++
      reason.message
  | hook h reason => h.display ++ " hook failed: " ++ reason
  | session e => e.message
  | closed id => "connection " ++ hexId id ++ " was closed during the operation"
  | noPeer id => "connection " ++ hexId id ++ " has no peer"
  | inUse id state => "connection " ++ hexId id ++ " is still " ++ state.display
  | panicked reason => reason

/-- Whether the two sides came to no agreement. -/
def isNegotiation : ConnectionError → Bool
  | session e => e.isNegotiation
  | _ => false

end ConnectionError

end MediaGateway
