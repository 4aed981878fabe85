import MediaGateway.Gateway.Operations

/-!
# Calls of the gateway

Offers and answers take a bound call to another side. A step that is not allowed changes nothing.
A step that goes wrong in any other way fails the connection. The connection is opened by answering
an offer and by taking the answer to an own offer.

Media of a call is polled, played and sent. Received media gives the connection its full time again;
a broken socket fails it.
-/

namespace MediaGateway.Gateway

/-! ## Offers and answers -/

/-- The addresses that calls other than the one at a place have bound. -/
def addressesOfOthers (g : Gateway) (handle : Nat) : List SocketAddress :=
  g.connections.zipIdx.flatMap fun (c?, place) =>
    if place = handle then [] else ((c?.bind Connection.call?).map Call.addresses).getD []

/-- What the call at a place finds around it. -/
def surroundings (g : Gateway) (handle : Nat) : Surroundings where
  host :=
    { network := g.environment.network
      ip := g.config.bindAddress
      taken := g.addressesOfOthers handle }
  credentials := g.environment.credentials
  descriptionId := g.environment.descriptionId

/-- Fails a connection because of an error of its sessions. -/
def failStep (g : Gateway) (handle : Nat) (e : SessionError) : ConnectionError × Gateway :=
  let g := if e.isNegotiation then
      { g with metrics := { g.metrics with
          negotiationFailures := g.metrics.negotiationFailures + 1 } }
    else g
  (.session e, g.failConnection handle)

/-- The connection at a place with the call behind it, if an operation may start that leads to the
connection being open; then also the generation of the binding. -/
def beginCall (g : Gateway) (handle : Nat) (operation : Operation) :
    Except ConnectionError (Connection × Call × Nat) :=
  match g.get? handle with
  | none => .error (.closed 0)
  | some c =>
    match c.beginNegotiation operation, c.call? with
    | .error e, _ => .error e
    | .ok _, none => .error (.closed c.id)
    | .ok generation, some call => .ok (c, call, generation)

/-- Puts a call back after its sessions were opened. -/
def putCall (g : Gateway) (handle : Nat) (call : Call) (ports : PortRange) : Gateway :=
  { g.modifyCall handle fun _ => call with ports }

/-- Makes an offer, for a browser if that is wanted. In one binding there is one offer. -/
def generateOffer (g : Gateway) (handle : Nat) (browser : Bool) :
    Except ConnectionError Sdp.Description × Gateway :=
  match g.beginCall handle .generateOffer with
  | .error e => (.error e, g)
  | .ok (_, call, _) =>
    match call.exchange.localDescription.filter fun _ => call.exchange.outbound with
    | some offer => (.ok offer, g)
    | none =>
      match call.makeOffer (g.surroundings handle) g.ports browser with
      | (.ok offer, call, ports) => (.ok offer, g.putCall handle call ports)
      | (.error e, call, ports) =>
        let (e, g) := (g.putCall handle call ports).failStep handle e
        (.error e, g)

/-- Answers an offer and opens the connection. -/
def processOffer (g : Gateway) (handle : Nat) (text : String) :
    Except ConnectionError Sdp.Description × Gateway :=
  match g.beginCall handle .processOffer with
  | .error e => (.error e, g)
  | .ok (_, call, generation) =>
    match call.answerOffer (g.surroundings handle) g.ports text with
    | (.error e, call, ports) =>
      let (e, g) := (g.putCall handle call ports).failStep handle e
      (.error e, g)
    | (.ok answer, call, ports) =>
      let (r, g) := (g.putCall handle call ports).openConnection handle (some generation)
      (r.map fun _ => answer, g)

/-- Takes the answer to an offer that was made and opens the connection. -/
def processAnswer (g : Gateway) (handle : Nat) (text : String) :
    Except ConnectionError Unit × Gateway :=
  match g.beginCall handle .processAnswer with
  | .error e => (.error e, g)
  | .ok (c, call, generation) =>
    if !call.exchange.outbound then
      (.error (.illegalState .processAnswer c.life.state .noLocalOffer), g)
    else
      match call.applyAnswer (g.surroundings handle) text with
      | (.error e, call) =>
        let (e, g) := (g.putCall handle call g.ports).failStep handle e
        (.error e, g)
      | (.ok _, call) => (g.putCall handle call g.ports).openConnection handle (some generation)

/-! ## Media -/

/-- Takes what arrived for a call. Says how many packets of media there were. -/
def pollMedia (g : Gateway) (handle : Nat) : Except ConnectionError Nat × Gateway :=
  match g.get? handle with
  | none => (.ok 0, g)
  | some c =>
    match c.call? with
    | none => (.ok 0, g)
    | some call =>
      if !c.life.state.isBound then (.ok 0, g)
      else
        match call.poll g.metrics g.now with
        | (.error e, call, metrics) =>
          let g := { g.modifyCall handle fun _ => call with metrics }
          (.error (.session e), g.failConnection handle)
        | (.ok n, call, metrics) =>
          let g := { g.modifyCall handle fun _ => call with metrics }
          (.ok n, if 0 < n then g.refresh handle else g)

/-- Hands frames to a sink, if somebody still listens there. -/
def fillSink (g : Gateway) (sink : Option Nat) (frames : List (MediaType × Frame)) : Gateway :=
  match sink with
  | none => g
  | some place =>
    { g with sinks := g.sinks.modify place fun s =>
        if s.attached then { s with frames := s.frames ++ frames } else s }

/-- Takes what arrived for a call and plays all frames that are due. Says how many there were. -/
def pump (g : Gateway) (handle : Nat) : Except ConnectionError Nat × Gateway :=
  match g.pollMedia handle with
  | (.error e, g) => (.error e, g)
  | (.ok _, g) =>
    match (g.get? handle).bind Connection.call? with
    | none => (.ok 0, g)
    | some call =>
      let (frames, call) := call.play g.now
      (.ok frames.length, (g.modifyCall handle fun _ => call).fillSink call.sink frames)

/-- Lets the frames of a call go to a new sink, whose place is returned. -/
def installSink (g : Gateway) (handle : Nat) : Nat × Gateway :=
  let place := g.sinks.length
  (place, { g.modifyCall handle fun c => { c with sink := some place } with
    sinks := g.sinks ++ [{}] })

/-- Fetches the frames that came to a sink. -/
def fetchFrames (g : Gateway) (sink : Nat) : List (MediaType × Frame) × Gateway :=
  ((g.sinks[sink]?.map Sink.frames).getD [],
    { g with sinks := g.sinks.modify sink fun s => { s with frames := [] } })

/-- Nobody listens to a sink any longer. -/
def dropSink (g : Gateway) (sink : Nat) : Gateway :=
  { g with sinks := g.sinks.modify sink fun s => { s with attached := false } }

/-- Something arrives at the socket of a session. -/
def arrive (g : Gateway) (handle : Nat) (media : MediaType) (a : Arrival) : Gateway :=
  g.modifyCall handle fun c =>
    match c.session? media with
    | some s => c.withSession (s.deliver a)
    | none => c

/-- The place and medium of the session that receives media at an address. -/
def listenerAt? (g : Gateway) (address : SocketAddress) : Option (Nat × MediaType) :=
  g.connections.zipIdx.findSome? fun (c?, place) =>
    ((c?.bind Connection.call?).map Call.sessions).getD [] |>.findSome? fun s =>
      if s.localRtp = some address then some (place, s.media) else none

/-- Carries a packet to the session of this gateway that it is for, if there is one. -/
def carry (g : Gateway) (o : MediaSession.Outgoing) : Gateway :=
  match g.listenerAt? o.destination, Arrival.ofDatagram? .rtp o.packet.encode o.source with
  | some (handle, media), some a => g.arrive handle media a
  | _, _ => g

/-- Sends a payload with a session of the call at a place. -/
def transmit (g : Gateway) (handle : Nat) (s : MediaSession) (p : MediaSession.Payload) :
    Attempt (Except SessionError (Option MediaSession.Outgoing)) × Gateway :=
  let (r, s, metrics) := s.transmit g.metrics g.environment.network g.now p g.environment.overflow
  let g := { g.modifyCall handle fun c => c.withSession s with metrics }
  match r with
  | .ok (.ok (some o)) => (.ok (.ok (some o)), g.carry o)
  | r => (r, g)

end MediaGateway.Gateway
