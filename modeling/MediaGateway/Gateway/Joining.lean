import MediaGateway.Gateway.Operations

/-!
# Joining connections of one gateway

Two bound connections with links are joined by linking them to each other and opening both. If one
of them does not open, the link is taken away again, and a first one that did open fails. Frames go
into the inbox of the peer if this side sends and the peer receives; a frame that arrives gives the
peer its full time again.
-/

namespace MediaGateway.Gateway

/-- Links two connections to each other. -/
def link (g : Gateway) (a b : Nat) : Gateway :=
  (g.modifyLink a fun l => { l with peer := some b }).modifyLink b
    fun l => { l with peer := some a }

/-- Opens two linked connections, in the bindings of two generations. -/
def openLinked (g : Gateway) (a b generationA generationB : Nat) :
    Except ConnectionError Unit × Gateway :=
  match g.openConnection a (some generationA) with
  | (.error e, g) => (.error e, g.unlink a)
  | (.ok _, g) =>
    match g.openConnection b (some generationB) with
    | (.error e, g) => (.error e, (g.failConnection a).unlink b)
    | (.ok _, g) => (.ok (), g)

/-- Joins two connections. -/
def join (g : Gateway) (a b : Nat) : Except ConnectionError Unit × Gateway :=
  match g.get? a, g.get? b with
  | some ca, some cb =>
    if a = b then (.error (.illegalState .join ca.life.state .joinedToItself), g)
    else
      match ca.beginNegotiation .join, cb.beginNegotiation .join with
      | .error e, _ => (.error e, g)
      | .ok _, .error e => (.error e, g)
      | .ok generationA, .ok generationB => (g.link a b).openLinked a b generationA generationB
  | _, _ => (.ok (), g)

/-- The place of the connection that a connection is linked to, and the connection, while it
lives. -/
def peer? (g : Gateway) (c : Connection) : Option (Nat × Connection) :=
  (c.link?.bind Link.peer).bind fun peer => (g.get? peer).map fun p => (peer, p)

/-- Sends a frame to the peer of a connection. Says whether it was delivered. -/
def send (g : Gateway) (handle : Nat) (f : Frame) : Except ConnectionError Bool × Gateway :=
  match g.get? handle with
  | none => (.ok false, g)
  | some c =>
    match g.peer? c with
    | none => (.error (.noPeer c.id), g)
    | some (peer, p) =>
      if c.life.mode.sends && p.life.mode.receives then
        (.ok true, (g.modifyLink peer fun l => l.deliver f).refresh peer)
      else (.ok false, g)

/-- Reads the oldest frame that came to a connection. -/
def receive (g : Gateway) (handle : Nat) : Option Frame × Gateway :=
  (((g.get? handle).bind Connection.link?).bind fun l => l.receive.1,
    g.modifyLink handle fun l => l.receive.2)

end MediaGateway.Gateway
