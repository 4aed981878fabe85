import MediaGateway.Connection.Call
import MediaGateway.Connection.Error
import MediaGateway.Connection.Guard
import MediaGateway.Connection.Lifecycle
import MediaGateway.Connection.Link

/-!
# Connections

A connection is one media leg with a life. What its transitions do to media depends on the leg: a
call to another side, a link to another connection of the gateway, or a leg whose hooks belong to
someone else. Others can watch a connection: listeners are told about every transition, the endpoint
that owns it about modes and about its end, and the failure listener if it fails.

Connections, endpoints and references are named by their places in the gateway.
-/

namespace MediaGateway

/-- The types of connections. -/
inductive ConnectionType where
  /-- A call to another side. -/
  | rtp
  /-- A leg within the gateway. -/
  | internal
deriving DecidableEq, Repr

/-- The name of a type in messages. -/
def ConnectionType.display : ConnectionType → String
  | rtp => "RTP"
  | internal => "LOCAL"

/-- The name of a type in diagnostic texts. -/
def ConnectionType.debugName : ConnectionType → String
  | rtp => "Rtp"
  | internal => "Local"

/-- How the hooks of a leg end that belongs to someone else. -/
structure Hooks where
  /-- Called to bind. -/
  created : Outcome := .done
  /-- Called to open. -/
  opened : Outcome := .done
  /-- Called when closed. -/
  closed : Outcome := .done
  /-- Called when failed. -/
  failed : Outcome := .done
  /-- Called to change the mode. -/
  applyMode : Outcome := .done
deriving DecidableEq, Repr

namespace Hooks

/-- How a hook ends. -/
def outcome (hs : Hooks) : Hook → Outcome
  | .created => hs.created
  | .opened => hs.opened
  | .closed => hs.closed
  | .failed => hs.failed
  | .applyMode => hs.applyMode

/-- The hooks with another end of one of them. -/
def withOutcome (hs : Hooks) (h : Hook) (o : Outcome) : Hooks :=
  match h with
  | .created => { hs with created := o }
  | .opened => { hs with opened := o }
  | .closed => { hs with closed := o }
  | .failed => { hs with failed := o }
  | .applyMode => { hs with applyMode := o }

end Hooks

/-- A call of a hook. -/
inductive HookCall where
  | created
  | opened
  | closed
  | failed
  | applyMode (mode : Mode)
deriving DecidableEq, Repr

/-- The hook that is called. -/
def HookCall.hook : HookCall → Hook
  | created => .created
  | opened => .opened
  | closed => .closed
  | failed => .failed
  | applyMode _ => .applyMode

/-- The media behind a connection. -/
inductive Leg where
  | call (call : Call)
  | link (link : Link)
  | foreign (hooks : Hooks)
deriving DecidableEq

/-- The type of a connection with a leg. -/
def Leg.type : Leg → ConnectionType
  | call _ => .rtp
  | link _ => .internal
  | foreign _ => .internal

/-- What a listener does when it is told about a transition. -/
inductive Reaction where
  /-- Its own business. -/
  | finish (outcome : Outcome)
  /-- It closes a connection that is referred to. -/
  | close (reference : Nat)
  /-- It fails a connection that is referred to. -/
  | fail (reference : Nat)
  /-- It binds a connection that is referred to. -/
  | bind (reference : Nat)
deriving DecidableEq, Repr

/-- How being told ends for a listener. What comes of an operation that it starts, it keeps to itself. -/
def Reaction.outcome : Reaction → Outcome
  | finish o => o
  | close _ | fail _ | bind _ => .done

/-- Someone who is told about every transition of a connection. -/
structure Listener where
  /-- Tells listeners of one name apart. -/
  key : Nat
  /-- The name. -/
  name : String
  /-- The state whose entry it reacts to, or none if it reacts to every transition. -/
  trigger : Option ConnectionState
  /-- What it does then. -/
  reaction : Reaction
deriving DecidableEq, Repr

/-- Whether a listener reacts to a state being entered. -/
def Listener.reactsTo (l : Listener) (state : ConnectionState) : Bool :=
  match l.trigger with
  | some trigger => trigger == state
  | none => true

/-- Someone who is told that a connection failed. -/
structure FailureListener where
  /-- The name. -/
  name : String
  /-- How being told ends. -/
  outcome : Outcome
deriving DecidableEq, Repr

/-- Someone who owns connections. -/
structure Endpoint where
  /-- The name. -/
  name : String
  /-- How being told something ends. -/
  outcome : Outcome
  /-- Whether the endpoint still exists. -/
  alive : Bool := true
deriving DecidableEq, Repr

/-- One media leg. -/
structure Connection where
  /-- The number. -/
  id : UInt32
  /-- The media. -/
  leg : Leg
  /-- What the state machine knows. -/
  life : Lifecycle := {}
  /-- Who owns the connection. -/
  endpoint : Option Nat := none
  /-- Who is told about transitions, in the order in which they came. -/
  listeners : List Listener := []
  /-- Who is told if the connection fails; it is told once. -/
  failureListener : Option FailureListener := none
deriving DecidableEq

namespace Connection

/-- The type. -/
def type (c : Connection) : ConnectionType := c.leg.type

/-- The call behind the connection. -/
def call? (c : Connection) : Option Call :=
  match c.leg with
  | .call call => some call
  | _ => none

/-- The link behind the connection. -/
def link? (c : Connection) : Option Link :=
  match c.leg with
  | .link link => some link
  | _ => none

/-- Whether the hooks belong to someone else. -/
def isForeign (c : Connection) : Bool :=
  match c.leg with
  | .foreign _ => true
  | _ => false

/-- The connection without anyone who watches it. -/
def detach (c : Connection) : Connection :=
  { c with listeners := [], failureListener := none, endpoint := none }

/-- The connection without a listener. -/
def removeListener (c : Connection) (key : Nat) : Connection :=
  { c with listeners := c.listeners.filter (·.key ≠ key) }

/-- Looks up what an event does to the connection, or why it is not allowed. -/
def check (c : Connection) (event : StateEvent) :
    Except ConnectionError (Option ConnectionState) :=
  match c.life.state.on event with
  | .next state => .ok (some state)
  | .ignore => .ok none
  | .illegal reason => .error (.illegalState (.event event) c.life.state reason)

/-- Whether an operation may start that leads to the connection being open; if so, the generation
of its binding. -/
def beginNegotiation (c : Connection) (operation : Operation) : Except ConnectionError Nat :=
  match c.life.state.on .opening with
  | .next _ => .ok c.life.generation
  | .ignore => .error (.closed c.id)
  | .illegal reason => .error (.illegalState operation c.life.state reason)

/-- The connection in a line: number, type, state, mode and heartbeats left. -/
def summary (c : Connection) : String :=
  hexId c.id ++ " " ++ c.type.display ++ " " ++ c.life.state.display ++ " " ++
    c.life.mode.display ++ " " ++ toString c.life.ttl

/-- The connection in a diagnostic text. -/
def debugText (c : Connection) : String :=
  "Connection \x7b id: \"" ++ hexId c.id ++ "\", type: " ++ c.type.debugName ++ ", state: " ++
    c.life.state.debugName ++ ", mode: " ++ c.life.mode.debugName ++ ", ttl: " ++
    toString c.life.ttl ++ " \x7d"

end Connection

end MediaGateway
