import MediaGateway.Sdp.Parser
import MediaGateway.Sdp.Printer
import MediaGateway.Session.Media

/-!
# Calls

A call is a media leg to another side that is negotiated with session descriptions: an audio
session, a video session if the gateway has video, and the descriptions that were exchanged.

The side that calls makes an offer, in which it lists all it can do, and later reads the answer. The
side that is called reads the offer and makes an answer with one section for each offered one, in
the same order. Audio is a must. Video that cannot be agreed on is left out, and so is everything
else.
-/

namespace MediaGateway

/-- What the two sides of a call have told each other. -/
structure Exchange where
  /-- The canonical name of the source of the packets that are sent. -/
  cname : String
  /-- Whether this side made the offer. -/
  outbound : Bool := false
  /-- What this side has said last. -/
  localDescription : Option Sdp.Description := none
  /-- What the other side has said last. -/
  remoteDescription : Option Sdp.Description := none
deriving DecidableEq, Repr

/-- A leg to another side. -/
structure Call where
  /-- The audio session. -/
  audio : MediaSession
  /-- The video session, if the gateway has video. -/
  video : Option MediaSession
  /-- What makes the descriptions of this side. -/
  builder : Sdp.Builder
  /-- What the two sides have told each other. -/
  exchange : Exchange
  /-- Where frames go that are played. -/
  sink : Option Nat := none
deriving DecidableEq

/-- What a call finds around it when it opens its sessions. -/
structure Surroundings where
  /-- The interface for its sockets, with the addresses that others use. -/
  host : Host
  /-- Fresh credentials for a session. -/
  credentials : Seat → Sdp.IceCredentials
  /-- The number of the next description. -/
  descriptionId : String

namespace MediaSession

/-- Opens the session and sets up its control packets. -/
def prepare (s : MediaSession) (w : Surroundings) (ports : PortRange) (mux : Bool) :
    Except SessionError Unit × MediaSession × PortRange :=
  match s.openOn w.host ports with
  | (.error e, s, ports) => (.error e, s, ports)
  | (.ok _, s, ports) =>
    let (r, s) := s.configureRtcp w.host mux
    (r, s, ports)

/-- Protects the media if that is wanted. -/
def protectIf (s : MediaSession) (wanted : Bool) : Except SessionError Unit × MediaSession :=
  if wanted then
    let (r, s) := s.enableDtls
    (r.mapError .negotiation, s)
  else (.ok (), s)

/-- Takes part in connectivity checks if that is wanted. -/
def checkIf (s : MediaSession) (w : Surroundings) (wanted : Bool) : MediaSession :=
  if wanted then s.enableIce (w.credentials s.seat) else s

/-- Gets ready to be offered; for a browser with connectivity checks and protection. -/
def prepareOffer (s : MediaSession) (w : Surroundings) (ports : PortRange) (browser : Bool) :
    Except SessionError Sdp.LocalMedia × MediaSession × PortRange :=
  match s.prepare w ports browser with
  | (.error e, s, ports) => (.error e, s, ports)
  | (.ok _, s, ports) =>
    match (s.checkIf w browser).protectIf browser with
    | (.error e, s) => (.error e, s, ports)
    | (.ok _, s) => (s.localMedia true, s, ports)

/-- Gets ready to answer a section of an offer, with connectivity checks and protection if the
offer has them. -/
def prepareAnswer (s : MediaSession) (w : Surroundings) (ports : PortRange)
    (d : Sdp.Description) (m : Sdp.MediaSection) :
    Except SessionError Sdp.LocalMedia × MediaSession × PortRange :=
  match s.prepare w ports m.rtcpMux with
  | (.error e, s, ports) => (.error e, s, ports)
  | (.ok _, s, ports) =>
    match (s.checkIf w d.containsIce).protectIf d.containsDtls with
    | (.error e, s) => (.error e, s, ports)
    | (.ok _, s) =>
      match s.negotiate d m with
      | (.error e, s) => (.error (.negotiation e), s, ports)
      | (.ok _, s) => (s.localMedia false, s, ports)

/-- Takes the section of an answer for an offered session. -/
def connect (s : MediaSession) (w : Surroundings) (d : Sdp.Description) (m : Sdp.MediaSection) :
    Except SessionError Unit × MediaSession :=
  match s.configureRtcp w.host m.rtcpMux with
  | (.error e, s) => (.error e, s)
  | (.ok _, s) =>
    match s.negotiate d m with
    | (.error e, s) => (.error (.negotiation e), s)
    | (.ok _, s) => (.ok (), s)

end MediaSession

namespace Call

/-- The sessions, audio first. -/
def sessions (c : Call) : List MediaSession :=
  c.audio :: c.video.toList

/-- The session of a medium. -/
def session? (c : Call) : MediaType → Option MediaSession
  | .audio => some c.audio
  | .video => c.video
  | .application => none

/-- The call with another session of the same medium. -/
def withSession (c : Call) (s : MediaSession) : Call :=
  match s.media with
  | .audio => { c with audio := s }
  | .video => { c with video := c.video.map fun _ => s }
  | .application => c

/-- The call with every session changed. -/
def mapSessions (c : Call) (f : MediaSession → MediaSession) : Call :=
  { c with audio := f c.audio, video := c.video.map f }

/-- The addresses that the sessions have bound. -/
def addresses (c : Call) : List SocketAddress :=
  c.sessions.flatMap MediaSession.addresses

/-- The surroundings of one session of the call, which may not use the addresses of the other. -/
def around (c : Call) (w : Surroundings) : Surroundings :=
  { w with host := { w.host with taken := c.addresses ++ w.host.taken } }

/-- The call with fresh sessions for a new binding. -/
def renew (c : Call) (numbering : Seat → Numbering) (cname : String) : Call :=
  { c.mapSessions (fun s => s.reset (numbering s.seat)) with exchange := { cname } }

/-- The call with its sessions closed. -/
def close (c : Call) : Call :=
  c.mapSessions MediaSession.close

/-- The call with another mode. -/
def updateMode (c : Call) (mode : Mode) : Call :=
  c.mapSessions fun s => s.updateMode mode

/-! ## Making an offer -/

/-- Gets sessions ready to be offered, one after the other. -/
def offerSessions (w : Surroundings) (browser : Bool) :
    List MediaSession → Call → PortRange →
      Except SessionError (List Sdp.LocalMedia) × Call × PortRange
  | [], c, ports => (.ok [], c, ports)
  | s :: rest, c, ports =>
    match s.prepareOffer (c.around w) ports browser with
    | (.error e, s, ports) => (.error e, c.withSession s, ports)
    | (.ok l, s, ports) =>
      match offerSessions w browser rest (c.withSession s) ports with
      | (.ok ls, c, ports) => (.ok (l :: ls), c, ports)
      | (.error e, c, ports) => (.error e, c, ports)

/-- Opens all sessions and makes an offer of them. -/
def makeOffer (c : Call) (w : Surroundings) (ports : PortRange) (browser : Bool) :
    Except SessionError Sdp.Description × Call × PortRange :=
  let c := { c with exchange := { c.exchange with outbound := true } }
  match offerSessions w browser c.sessions c ports with
  | (.error e, c, ports) => (.error e, c, ports)
  | (.ok locals, c, ports) =>
    let offer := c.builder.build w.descriptionId true c.exchange.cname locals
    (.ok offer,
      { c with exchange := { c.exchange with
          localDescription := some offer, remoteDescription := none } }, ports)

/-! ## Answering an offer -/

/-- The medium that a section of an offer is answered for: its own one, unless the section is
refused or there was a section for the medium before. -/
def answeredMedium? (answered : List MediaType) (m : Sdp.MediaSection) : Option MediaType :=
  if m.isRejected then none else m.mediaType.filter (· ∉ answered)

/-- What is gathered of an answer while the sections of the offer are gone through. Sections are
referred to by their places in the offer. -/
structure Answering where
  /-- The sections that are accepted, with what the sessions contribute to them. -/
  accepted : List (Nat × Sdp.LocalMedia) := []
  /-- The sections that are refused. -/
  refused : List Nat := []

namespace Answering

/-- With one more section accepted. -/
def accept (a : Answering) (place : Nat) (l : Sdp.LocalMedia) : Answering :=
  { a with accepted := a.accepted ++ [(place, l)] }

/-- With one more section refused. -/
def refuse (a : Answering) (place : Nat) : Answering :=
  { a with refused := a.refused ++ [place] }

/-- The places in the order in which an answer is first made: those of the refused sections come
last. -/
def order (a : Answering) : List Nat :=
  a.accepted.map Prod.fst ++ a.refused

end Answering

/-- Goes through the sections of an offer from a place on. A session other than audio that comes to no
agreement is closed and its section refused. -/
def answerFrom (w : Surroundings) (d : Sdp.Description) :
    List Sdp.MediaSection → Nat → List MediaType → Answering → Call → PortRange →
      Except SessionError Answering × Call × PortRange
  | [], _, _, a, c, ports => (.ok a, c, ports)
  | m :: rest, place, answered, a, c, ports =>
    let medium? := answeredMedium? answered m
    let answered := medium?.toList ++ answered
    match medium?.bind c.session? with
    | none => answerFrom w d rest (place + 1) answered (a.refuse place) c ports
    | some s =>
      match s.prepareAnswer (c.around w) ports d m with
      | (.ok l, s, ports) =>
        answerFrom w d rest (place + 1) answered (a.accept place l) (c.withSession s) ports
      | (.error e, s, ports) =>
        if s.media ≠ .audio ∧ e.isNegotiation then
          answerFrom w d rest (place + 1) answered (a.refuse place) (c.withSession s.close) ports
        else (.error e, c.withSession s, ports)

/-- Inserts something before all that has no lower place. -/
def insertPlaced {α : Type} (x : Nat × α) : List (Nat × α) → List (Nat × α)
  | [] => [x]
  | y :: rest => if x.1 ≤ y.1 then x :: y :: rest else y :: insertPlaced x rest

/-- Sorts by places; what has the same place keeps its order. -/
def sortPlaced {α : Type} (xs : List (Nat × α)) : List (Nat × α) :=
  xs.foldr insertPlaced []

/-- The answer to an offer, given what was gathered of it. It is built of the accepted sections, the
refusals are added, and then the sections are put in the order of the offer. -/
def assembleAnswer (c : Call) (w : Surroundings) (d : Sdp.Description) (a : Answering) :
    Sdp.Description :=
  let built := c.builder.build w.descriptionId false c.exchange.cname (a.accepted.map Prod.snd)
  let answer := (a.refused.filterMap (d.media[·]?)).foldl Sdp.Builder.reject built
  { answer with media := (sortPlaced (a.order.zip answer.media)).map Prod.snd }

/-- Reads a description that must have an audio section. -/
def readRemote (text : String) :
    Except SessionError (Sdp.Description × Sdp.MediaSection) :=
  match Sdp.Description.ofText text with
  | .error e => .error (.negotiation (.description e))
  | .ok d =>
    match d.sectionFor? .audio with
    | none => .error (.negotiation (.missingMedia .audio))
    | some m => .ok (d, m)

/-- Reads an offer, opens the sessions that it asks for and makes an answer. -/
def answerOffer (c : Call) (w : Surroundings) (ports : PortRange) (text : String) :
    Except SessionError Sdp.Description × Call × PortRange :=
  match readRemote text with
  | .error e => (.error e, c, ports)
  | .ok (d, _) =>
    let c := { c with exchange := { c.exchange with outbound := false } }
    match answerFrom w d d.media 0 [] {} c ports with
    | (.error e, c, ports) => (.error e, c, ports)
    | (.ok a, c, ports) =>
      let answer := c.assembleAnswer w d a
      (.ok answer,
        { c with exchange := { c.exchange with
            localDescription := some answer, remoteDescription := some d } }, ports)

/-! ## Reading an answer -/

/-- Takes the video section of an answer. Video that comes to no agreement is closed. -/
def connectVideo (c : Call) (w : Surroundings) (d : Sdp.Description) :
    Except SessionError Unit × Call :=
  match c.video with
  | none => (.ok (), c)
  | some s =>
    match d.sectionFor? .video with
    | none => (.ok (), c.withSession s.close)
    | some m =>
      match s.connect (c.around w) d m with
      | (.ok _, s) => (.ok (), c.withSession s)
      | (.error e, s) =>
        if e.isNegotiation then (.ok (), c.withSession s.close) else (.error e, c.withSession s)

/-- Reads the answer to an offer that was made. -/
def applyAnswer (c : Call) (w : Surroundings) (text : String) : Except SessionError Unit × Call :=
  match readRemote text with
  | .error e => (.error e, c)
  | .ok (d, m) =>
    match c.audio.connect (c.around w) d m with
    | (.error e, s) => (.error e, c.withSession s)
    | (.ok _, s) =>
      match (c.withSession s).connectVideo w d with
      | (.error e, c) => (.error e, c)
      | (.ok _, c) =>
        (.ok (), { c with exchange := { c.exchange with remoteDescription := some d } })

/-! ## Media -/

/-- Polls those sessions that are open, one after the other, and counts the packets of media; a
session that fails ends it. -/
def pollSessions (now : Nat) :
    List MediaSession → Call → Metrics → Except SessionError Nat × Call × Metrics
  | [], c, m => (.ok 0, c, m)
  | s :: rest, c, m =>
    if s.isOpen then
      match s.poll m now with
      | (.error e, s, m) => (.error e, c.withSession s, m)
      | (.ok n, s, m) =>
        match pollSessions now rest (c.withSession s) m with
        | (.ok k, c, m) => (.ok (n + k), c, m)
        | (.error e, c, m) => (.error e, c, m)
    else pollSessions now rest c m

/-- Polls the sessions. -/
def poll (c : Call) (m : Metrics) (now : Nat) : Except SessionError Nat × Call × Metrics :=
  pollSessions now c.sessions c m

/-- Plays all frames that are due, those of the audio session first. -/
def play (c : Call) (now : Nat) : List (MediaType × Frame) × Call :=
  let frames := c.sessions.flatMap fun s => (s.drain now).1.map fun f => (s.media, f)
  (frames, c.mapSessions fun s => (s.drain now).2)

end Call

end MediaGateway
