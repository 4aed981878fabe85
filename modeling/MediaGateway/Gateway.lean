import MediaGateway.Config
import MediaGateway.Connection
import MediaGateway.IdGenerator

/-!
# The gateway

The gateway holds all connections with what they share: the ports, the scheduler, the clock and the
metrics. A connection lives as long as somebody refers to it: a caller, or the pool of idle
connections that it waits in. Nothing else keeps it alive, neither a link to it nor a task about it.

Here are the state of the gateway and the small steps of which its operations are made.
-/

namespace MediaGateway

/-- What the gateway takes from outside: the network, and whatever is chosen at random. -/
structure Environment where
  /-- What the host allows. -/
  network : Network
  /-- A numbering for the packets of a session. -/
  numbering : Seat → Numbering
  /-- A canonical name for the source of a connection's packets. -/
  cname : UInt32 → String
  /-- Credentials for a session. -/
  credentials : Seat → Sdp.IceCredentials
  /-- A number for a description. -/
  descriptionId : String
  /-- What becomes of a timestamp whose product is too large for a word. -/
  overflow : Overflow := .stops

/-- The tasks that the gateway submits to its scheduler. -/
inductive Task where
  /-- Play what is due on a connection. -/
  | media (handle : Nat)
  /-- Count a heartbeat of a connection down, in an epoch. -/
  | heartbeat (handle epoch : Nat)
deriving DecidableEq, Repr

/-- What others notice of the gateway's work. -/
inductive Event where
  /-- A hook of a foreign leg was called. -/
  | hookCalled (call : HookCall)
  /-- A listener was told about a transition. -/
  | transition (listener : String) (id : UInt32) (old new : ConnectionState)
  /-- An endpoint was told about a mode. -/
  | modeUpdated (endpoint : String) (old new : Mode)
  /-- An endpoint was told that it owns a connection no longer. -/
  | released (endpoint : String) (id : UInt32) (type : ConnectionType)
  /-- A failure listener was told. -/
  | failed (listener : String)
deriving DecidableEq, Repr

/-- The event as a line of a protocol. -/
def Event.text : Event → String
  | hookCalled (.applyMode mode) => "hook " ++ Hook.applyMode.display ++ " " ++ mode.display
  | hookCalled call => "hook " ++ call.hook.display
  | transition listener id old new =>
    "listener " ++ listener ++ " conn " ++ toString id.toNat ++ ": " ++ old.display ++ " -> " ++
      new.display
  | modeUpdated endpoint old new =>
    "endpoint " ++ endpoint ++ " mode " ++ old.display ++ " -> " ++ new.display
  | released endpoint id type =>
    "endpoint " ++ endpoint ++ " release " ++ hexId id ++ " " ++ type.display
  | failed listener => "failure " ++ listener

/-- Where the frames of a call go. -/
structure Sink where
  /-- Whether somebody still listens. -/
  attached : Bool := true
  /-- The frames that came and were not fetched yet. -/
  frames : List (MediaType × Frame) := []
deriving DecidableEq, Repr

/-- All connections with what they share. -/
structure Gateway where
  /-- The configuration. -/
  config : GatewayConfig
  /-- What is taken from outside. -/
  environment : Environment
  /-- The wall clock. -/
  wall : WallClock
  /-- The ports for media. -/
  ports : PortRange
  /-- The numbers of connections. -/
  ids : IdGenerator
  /-- The tasks that wait. -/
  scheduler : Scheduler Task
  /-- The connections by their places; a connection that is gone leaves its place empty. -/
  connections : List (Option Connection)
  /-- What callers refer to; a reference that was given up leaves its place empty. -/
  references : List (Option Nat)
  /-- The idle calls, the last one first. -/
  rtpPool : List Nat
  /-- The idle links, the last one first. -/
  internalPool : List Nat
  /-- The endpoints. -/
  endpoints : List Endpoint
  /-- The sinks of calls. -/
  sinks : List Sink
  /-- What all connections have done. -/
  metrics : Metrics
  /-- What others have noticed, the latest last. -/
  log : List Event

namespace Gateway

/-- A gateway without connections. -/
def make (config : GatewayConfig) (environment : Environment) : Gateway where
  config
  environment
  wall := .start
  ports := .make config.portLow config.portHigh
  ids := .start
  scheduler := .make config.resolution
  connections := []
  references := []
  rtpPool := []
  internalPool := []
  endpoints := []
  sinks := []
  metrics := {}
  log := []

/-! ## Connections and references -/

/-- The connection at a place. -/
def get? (g : Gateway) (handle : Nat) : Option Connection :=
  (g.connections[handle]?).join

/-- Changes the connection at a place, if there is one. -/
def modify (g : Gateway) (handle : Nat) (f : Connection → Connection) : Gateway :=
  { g with connections := g.connections.modify handle (Option.map f) }

/-- Puts a connection back into its place. -/
def put (g : Gateway) (handle : Nat) (c : Connection) : Gateway :=
  g.modify handle fun _ => c

/-- The place of the connection that a reference names. -/
def resolve? (g : Gateway) (reference : Nat) : Option Nat :=
  (g.references[reference]?).join

/-- Whether somebody keeps a connection alive. -/
def isHeld (g : Gateway) (handle : Nat) : Bool :=
  some handle ∈ g.references || handle ∈ g.rtpPool || handle ∈ g.internalPool

/-- The endpoint that owns a connection, if it still exists. -/
def endpointOf? (g : Gateway) (c : Connection) : Option Endpoint :=
  (c.endpoint.bind (g.endpoints[·]?)).filter Endpoint.alive

/-- Present time in milliseconds. -/
def now (g : Gateway) : Nat := g.wall.millis

/-- Adds to what others have noticed. -/
def note (g : Gateway) (e : Event) : Gateway :=
  { g with log := g.log ++ [e] }

/-- Forgets what others have noticed so far. -/
def clearLog (g : Gateway) : Gateway :=
  { g with log := [] }

/-! ## Entering a state -/

/-- Adjusts the number of open connections to a transition. -/
def countOpen (g : Gateway) (old new : ConnectionState) : Gateway :=
  let change : Int := if new = .opened then 1 else if old = .opened then -1 else 0
  { g with metrics := { g.metrics with
      openConnections := g.metrics.openConnections + change } }

/-- Submits heartbeats of a connection if a new epoch began. -/
def submitHeartbeat (g : Gateway) (handle : Nat) : Option Nat → Gateway
  | some epoch => { g with scheduler := g.scheduler.submit .heartbeat (.heartbeat handle epoch) }
  | none => g

/-- Moves a connection into a state, with its full time, and submits heartbeats if they have to be
counted from now on. -/
def enter (g : Gateway) (handle : Nat) (state : ConnectionState) : Gateway :=
  match g.get? handle with
  | none => g
  | some c =>
    let (life, epoch?) := c.life.enter g.config.timeouts g.scheduler.resolution state
    ((g.put handle { c with life }).submitHeartbeat handle epoch?).countOpen c.life.state state

/-! ## Hooks -/

/-- Changes the link behind a connection. -/
def modifyLink (g : Gateway) (handle : Nat) (f : Link → Link) : Gateway :=
  g.modify handle fun c =>
    match c.leg with
    | .link l => { c with leg := .link (f l) }
    | _ => c

/-- Changes the call behind a connection. -/
def modifyCall (g : Gateway) (handle : Nat) (f : Call → Call) : Gateway :=
  g.modify handle fun c =>
    match c.leg with
    | .call call => { c with leg := .call (f call) }
    | _ => c

/-- Takes the link between a connection and its peer away on both sides. -/
def unlink (g : Gateway) (handle : Nat) : Gateway :=
  match ((g.get? handle).bind Connection.link?).bind Link.peer with
  | none => g
  | some peer =>
    (g.modifyLink handle fun l => { l with peer := none }).modifyLink peer
      fun l => { l with peer := none }

/-- What a hook does to a link: binding starts afresh, the end takes the link and the inbox away,
and without receiving there is nothing to read. -/
def hookLink (g : Gateway) (handle : Nat) : HookCall → Gateway
  | .created => g.modifyLink handle fun _ => {}
  | .opened => g
  | .closed => (g.unlink handle).modifyLink handle Link.clear
  | .failed => (g.unlink handle).modifyLink handle Link.clear
  | .applyMode mode => if mode.receives then g else g.modifyLink handle Link.clear

/-- What a hook does to a call: binding starts afresh, the end closes the sessions, and a mode goes
to all sessions. -/
def hookCall (g : Gateway) (handle : Nat) (id : UInt32) : HookCall → Gateway
  | .created =>
    g.modifyCall handle fun c => c.renew g.environment.numbering (g.environment.cname id)
  | .opened => g
  | .closed => g.modifyCall handle Call.close
  | .failed => g.modifyCall handle Call.close
  | .applyMode mode => g.modifyCall handle fun c => c.updateMode mode

/-- Calls a hook of a connection. -/
def callHook (g : Gateway) (handle : Nat) (c : Connection) (h : HookCall) : Outcome × Gateway :=
  match c.leg with
  | .call _ => (.done, g.hookCall handle c.id h)
  | .link _ => (.done, g.hookLink handle h)
  | .foreign hooks => (hooks.outcome h.hook, g.note (.hookCalled h))

/-! ## Diagnostic texts -/

/-- The gateway in a diagnostic text. -/
def debugText (g : Gateway) : String :=
  "ConnectionFactory \x7b rtp_pooled: " ++ toString g.rtpPool.length ++ ", local_pooled: " ++
    toString g.internalPool.length ++ ", scheduler: Scheduler \x7b media_tasks: " ++
    toString g.scheduler.media.length ++ ", heartbeat_tasks: " ++
    toString g.scheduler.heartbeat.length ++ ", media_period: " ++
    toString Scheduler.mediaPeriod ++ "ms, heartbeat_resolution: " ++
    toString g.scheduler.resolution.toNat ++ " \x7d \x7d"

end Gateway

end MediaGateway
