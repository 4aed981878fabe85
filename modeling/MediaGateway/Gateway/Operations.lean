import MediaGateway.Gateway

/-!
# Operations on a connection

An operation on a connection first changes the gateway and then announces what it did: to the
listeners of the connection, to the endpoint that owns it and to the failure listener. Nothing that
these do has an effect on the operation. But listeners may start operations of their own, on this
or another connection, and those are announced before the announcement goes on.

`Gateway.announce` takes the depth to which operations may be started by listeners of operations
that were started by listeners, and so on; what lies deeper is not announced.
-/

namespace MediaGateway

/-- What is to be announced about a connection. -/
structure Announcement where
  /-- The place of the connection. -/
  handle : Nat
  /-- The number of the connection. -/
  id : UInt32
  /-- The type of the connection. -/
  type : ConnectionType
  /-- The transition that was made. -/
  change : Option (ConnectionState × ConnectionState) := none
  /-- The mode before and after. -/
  mode : Option (Mode × Mode) := none
  /-- The endpoint that is told about the mode and the end. -/
  endpoint : Option Endpoint := none
  /-- Whether the endpoint owns the connection no longer. -/
  release : Bool := false
  /-- Who is told about a failure. -/
  failure : Option FailureListener := none

namespace Gateway

/-- The result of the part of an operation that comes before the announcement. -/
abbrev Started : Type := Except ConnectionError (Option Announcement) × Gateway

/-- A way to announce. -/
abbrev Announcer : Type := Announcement → Gateway → Gateway

/-- Goes on if a hook has done its work. -/
def afterHook (h : Hook) (next : Gateway → Started) : Outcome × Gateway → Started
  | (.done, g) => next g
  | (.refused reason, g) => (.error (.hook h reason), g)
  | (.panicked reason, g) => (.error (.panicked reason), g)

/-! ## What comes before the announcement -/

/-- Binds a connection, unless its hook refuses. -/
def startBind (g : Gateway) (handle : Nat) : Started :=
  match g.get? handle with
  | none => (.ok none, g)
  | some c =>
    match c.check .binding with
    | .error e => (.error e, g)
    | .ok none => (.ok none, g)
    | .ok (some state) =>
      (g.callHook handle c .created) |> afterHook .created fun g =>
        let g := g.modify handle fun c =>
          { c with life := { c.life with generation := c.life.generation + 1 } }
        (.ok (some { handle, id := c.id, type := c.type, change := some (c.life.state, state) }),
          g.enter handle state)

/-- Opens a connection, unless its hook refuses. If a generation is given, the connection has to
be in the binding of that generation. -/
def startOpen (g : Gateway) (handle : Nat) (generation : Option Nat) : Started :=
  match g.get? handle with
  | none => (.ok none, g)
  | some c =>
    if generation.any fun n => !c.life.isCurrent n then (.error (.closed c.id), g)
    else match c.check .opening with
      | .error e => (.error e, g)
      | .ok none => (.ok none, g)
      | .ok (some state) =>
        (g.callHook handle c .opened) |> afterHook .opened fun g =>
          (.ok (some { handle, id := c.id, type := c.type, change := some (c.life.state, state) }),
            g.enter handle state)

/-- Takes a bound connection back to `NULL`, whatever its hook says. The endpoint and the failure
listener are taken off it. -/
def teardown (g : Gateway) (handle : Nat) (c : Connection) (failed : Bool) :
    Announcement × Gateway :=
  let (_, g) := dispatchGuarded (g.callHook handle c (if failed then .failed else .closed))
  let g := g.modify handle fun c => { c with life := { c.life with mode := .inactive } }
  let g := g.enter handle .null
  let g := g.modify handle fun c => { c with endpoint := none, failureListener := none }
  let g := if failed then
      { g with metrics := { g.metrics with failures := g.metrics.failures + 1 } }
    else g
  ({ handle, id := c.id, type := c.type
     change := some (c.life.state, .null)
     mode := if c.life.mode = .inactive then none else some (c.life.mode, .inactive)
     endpoint := g.endpointOf? c
     release := true
     failure := if failed then c.failureListener else none }, g)

/-- Closes a connection. -/
def startClose (g : Gateway) (handle : Nat) : Started :=
  match g.get? handle with
  | none => (.ok none, g)
  | some c =>
    match c.check .closing with
    | .error e => (.error e, g)
    | .ok none => (.ok none, g)
    | .ok (some _) =>
      let (a, g) := g.teardown handle c false
      (.ok (some a), g)

/-- Fails a connection, if it is bound. -/
def startFail (g : Gateway) (handle : Nat) : Started :=
  match g.get? handle with
  | none => (.ok none, g)
  | some c =>
    if c.life.state.isBound then
      let (a, g) := g.teardown handle c true
      (.ok (some a), g)
    else (.ok none, g)

/-- Sets the mode of a bound connection, unless its hook refuses. -/
def startMode (g : Gateway) (handle : Nat) (mode : Mode) : Started :=
  match g.get? handle with
  | none => (.ok none, g)
  | some c =>
    if !c.life.state.isBound then (.error (.illegalState .setMode c.life.state .notBound), g)
    else if c.life.mode = mode then (.ok none, g)
    else
      (g.callHook handle c (.applyMode mode)) |> afterHook .applyMode fun g =>
        let g := g.modify handle fun c => { c with life := { c.life with mode } }
        (.ok (some { handle, id := c.id, type := c.type, mode := some (c.life.mode, mode)
                     endpoint := g.endpointOf? c }), g)

/-! ## The announcement -/

/-- Announces what an operation did. -/
def conclude (tell : Announcer) : Started → Except ConnectionError Unit × Gateway
  | (.error e, g) => (.error e, g)
  | (.ok none, g) => (.ok (), g)
  | (.ok (some a), g) => (.ok (), tell a g)

/-- What a listener does. -/
def react (tell : Announcer) (g : Gateway) : Reaction → Gateway
  | .finish _ => g
  | .close reference =>
    match g.resolve? reference with
    | some handle => (conclude tell (g.startClose handle)).2
    | none => g
  | .fail reference =>
    match g.resolve? reference with
    | some handle => (conclude tell (g.startFail handle)).2
    | none => g
  | .bind reference =>
    match g.resolve? reference with
    | some handle => (conclude tell (g.startBind handle)).2
    | none => g

/-- Tells one listener about a transition. -/
def tellListener (tell : Announcer) (id : UInt32) (change : ConnectionState × ConnectionState)
    (g : Gateway) (l : Listener) : Gateway :=
  let g := g.note (.transition l.name id change.1 change.2)
  if l.reactsTo change.2 then (dispatchGuarded (l.reaction.outcome, g.react tell l.reaction)).2
  else g

/-- Tells the listeners of a connection about its transition, each in turn. -/
def tellListeners (tell : Announcer) (a : Announcement) (g : Gateway) : Gateway :=
  match a.change with
  | none => g
  | some change =>
    let listeners := ((g.get? a.handle).map Connection.listeners).getD []
    listeners.foldl (tellListener tell a.id change) g

/-- Tells the endpoint about the mode and the end of a connection. -/
def tellEndpoint (a : Announcement) (g : Gateway) : Gateway :=
  match a.endpoint with
  | none => g
  | some e =>
    let g := match a.mode with
      | some (old, new) => (dispatchGuarded (e.outcome, g.note (.modeUpdated e.name old new))).2
      | none => g
    if a.release then (dispatchGuarded (e.outcome, g.note (.released e.name a.id a.type))).2 else g

/-- Tells the failure listener. -/
def tellFailure (a : Announcement) (g : Gateway) : Gateway :=
  match a.failure with
  | none => g
  | some l => (dispatchGuarded (l.outcome, g.note (.failed l.name))).2

/-- Announces what an operation did. -/
def announce : Nat → Announcer
  | 0 => fun _ g => g
  | depth + 1 => fun a g => tellFailure a (tellEndpoint a (tellListeners (announce depth) a g))

/-- How deep operations may be nested that listeners start. -/
def maxDepth : Nat := 1000

/-- Announces what an operation did that no listener started. -/
def announceAll : Announcer := announce maxDepth

/-! ## The operations -/

/-- Binds a connection. -/
def bindConnection (g : Gateway) (handle : Nat) : Except ConnectionError Unit × Gateway :=
  conclude announceAll (g.startBind handle)

/-- Opens a connection, in the binding of a generation if one is given. -/
def openConnection (g : Gateway) (handle : Nat) (generation : Option Nat := none) :
    Except ConnectionError Unit × Gateway :=
  conclude announceAll (g.startOpen handle generation)

/-- Closes a connection. -/
def closeConnection (g : Gateway) (handle : Nat) : Except ConnectionError Unit × Gateway :=
  conclude announceAll (g.startClose handle)

/-- Fails a connection. -/
def failConnection (g : Gateway) (handle : Nat) : Gateway :=
  (conclude announceAll (g.startFail handle)).2

/-- Sets the mode of a connection. -/
def setMode (g : Gateway) (handle : Nat) (mode : Mode) : Except ConnectionError Unit × Gateway :=
  conclude announceAll (g.startMode handle mode)

/-- Gives a connection the full time of its state again. -/
def refresh (g : Gateway) (handle : Nat) : Gateway :=
  g.modify handle fun c =>
    { c with life := c.life.refresh g.config.timeouts g.scheduler.resolution }

/-- A heartbeat of a connection in an epoch; the last one fails it. Says whether there are more to
come. -/
def heartbeat (g : Gateway) (handle epoch : Nat) : Bool × Gateway :=
  match g.get? handle with
  | none => (false, g)
  | some c =>
    match c.life.beat epoch with
    | (.stale, _) => (false, g)
    | (.alive, life) => (true, g.put handle { c with life })
    | (.expired, life) =>
      let c := { c with life }
      let (a, g) := (g.put handle c).teardown handle c true
      (false, announceAll a g)

end Gateway

end MediaGateway
