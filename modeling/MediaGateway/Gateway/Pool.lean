import MediaGateway.Gateway.Operations

/-!
# Building and recycling connections

Idle connections can be given back. They wait in a pool, one for each type and of a limited size,
and are handed out again before new ones are built, the one that was given back last first. Nobody
who watched a connection before watches it after that.
-/

namespace MediaGateway.Gateway

/-- Adds a connection and says where. -/
def addConnection (g : Gateway) (c : Connection) : Nat × Gateway :=
  (g.connections.length, { g with connections := g.connections ++ [some c] })

/-- Hands out a reference to a connection and says where it is. -/
def refer (g : Gateway) (handle : Nat) : Nat × Gateway :=
  (g.references.length, { g with references := g.references ++ [some handle] })

/-- A call with fresh sessions. -/
def newCall (g : Gateway) (id : UInt32) : Call :=
  let session (media : MediaType) (config : SessionConfig) : MediaSession :=
    .make ⟨id, media⟩ config (g.environment.numbering ⟨id, media⟩)
  { audio := session .audio ⟨g.config.jitter, g.config.audio, g.config.fingerprint⟩
    video := (g.config.session? .video).map (session .video)
    builder := .make g.config.bindAddress.text g.config.externalAddress
    exchange := { cname := g.environment.cname id } }

/-- Builds a connection. The media of a call is played from now on. -/
def build (g : Gateway) (type : ConnectionType) : Nat × Gateway :=
  let (id, ids) := g.ids.draw
  let g := { g with
    ids
    metrics := { g.metrics with created := g.metrics.created + 1 } }
  match type with
  | .rtp =>
    let (handle, g) := g.addConnection { id, leg := .call (g.newCall id) }
    (handle, { g with scheduler := g.scheduler.submit .media (.media handle) })
  | .internal => g.addConnection { id, leg := .link {} }

/-- The idle connections of a type. -/
def pool (g : Gateway) : ConnectionType → List Nat
  | .rtp => g.rtpPool
  | .internal => g.internalPool

/-- The gateway with other idle connections of a type. -/
def withPool (g : Gateway) (type : ConnectionType) (handles : List Nat) : Gateway :=
  match type with
  | .rtp => { g with rtpPool := handles }
  | .internal => { g with internalPool := handles }

/-- An idle connection of a type, out of the pool or new, by its place. -/
def obtain (g : Gateway) (type : ConnectionType) : Nat × Gateway :=
  match g.pool type with
  | handle :: rest => (handle, g.withPool type rest)
  | [] => g.build type

/-- Sets how a hook of a foreign leg ends from now on. -/
def setHook (g : Gateway) (handle : Nat) (h : Hook) (o : Outcome) : Gateway :=
  g.modify handle fun c =>
    match c.leg with
    | .foreign hooks => { c with leg := .foreign (hooks.withOutcome h o) }
    | _ => c

/-- Hands out an idle connection of a type: the place of the reference to it. -/
def create (g : Gateway) (type : ConnectionType) : Nat × Gateway :=
  let (handle, g) := g.obtain type
  g.refer handle

/-- Adds a connection whose hooks belong to someone else, with a number of its own, and hands out a
reference to it. -/
def adopt (g : Gateway) (id : UInt32) (hooks : Hooks) : Nat × Gateway :=
  let (handle, g) := g.addConnection { id, leg := .foreign hooks }
  g.refer handle

/-- Gives an idle connection back. Those who watch it are taken off; if the pool is full, it does
not get in. A connection that was not built here stays as it is. -/
def recycle (g : Gateway) (handle : Nat) : Except ConnectionError Unit × Gateway :=
  match g.get? handle with
  | none => (.ok (), g)
  | some c =>
    if c.isForeign then (.ok (), g)
    else if c.life.state ≠ .null then (.error (.inUse c.id c.life.state), g)
    else
      let g := g.modify handle Connection.detach
      if (g.pool c.type).length < g.config.poolSize then
        (.ok (), g.withPool c.type (handle :: g.pool c.type))
      else (.ok (), g)

/-- Ends the life of a connection that nobody keeps alive. -/
def reap (g : Gateway) (handle : Nat) : Gateway :=
  if g.isHeld handle then g else { g with connections := g.connections.set handle none }

/-- Gives up a reference. -/
def giveUp (g : Gateway) (reference : Nat) : Gateway :=
  match g.resolve? reference with
  | none => g
  | some handle => { g with references := g.references.set reference none }.reap handle

/-! ## Those who watch -/

/-- Lets a listener watch a connection. -/
def addListener (g : Gateway) (handle : Nat) (l : Listener) : Gateway :=
  g.modify handle fun c => { c with listeners := c.listeners ++ [l] }

/-- Takes a listener off a connection. Says whether it was there. -/
def removeListener (g : Gateway) (handle key : Nat) : Bool × Gateway :=
  (((g.get? handle).map Connection.listeners).getD [] |>.any (·.key = key),
    g.modify handle fun c => c.removeListener key)

/-- Lets a failure listener watch a connection, in the place of the one before. -/
def setFailureListener (g : Gateway) (handle : Nat) (l : FailureListener) : Gateway :=
  g.modify handle fun c => { c with failureListener := some l }

/-- Ends the life of the endpoint with a name. -/
def dropEndpoint (g : Gateway) (name : String) : Gateway :=
  { g with endpoints := g.endpoints.map fun e =>
      if e.name = name then { e with alive := false } else e }

/-- The endpoint at a place owns a connection from now on. -/
def setEndpoint (g : Gateway) (handle place : Nat) : Gateway :=
  g.modify handle fun c => { c with endpoint := some place }

/-- A new endpoint owns a connection from now on. It takes the place of the one with its name. -/
def attachEndpoint (g : Gateway) (handle : Nat) (e : Endpoint) : Gateway :=
  let g := g.dropEndpoint e.name
  { g.setEndpoint handle g.endpoints.length with endpoints := g.endpoints ++ [e] }

end MediaGateway.Gateway
