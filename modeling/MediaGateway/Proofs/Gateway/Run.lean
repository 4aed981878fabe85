import MediaGateway.Gateway.Joining
import MediaGateway.Gateway.Pool
import MediaGateway.Gateway.Ticking
import Mathlib.Logic.Relation

/-!
# Runs of a gateway

A run is a list of actions, in any order. By a `Restock` connections come, wait to be handed out
again, or go. By a `Setting` those around a connection say who watches it, how its hooks end and
where its frames go. In all other actions the gateway works. It may do several things one after the
other, and listeners may do more in between. What it does in one piece comes in three layers: a
`Change` leaves the time of connections alone, a `Move` may also give one its full time again, and a
`Turn` may also be part of a tick. Operations on connections make changes only, all work but ticks
makes moves only, and all work makes turns only. Outside of exchanges of descriptions these are
plain (`PlainChange`, `PlainMove`, `PlainTurn`). Apart from these, the environment may change. So what
every piece and every new environment preserves holds after every run (`run_induction`).
-/

namespace MediaGateway

/-- What can be done to a gateway, and what can happen around it. -/
inductive Action where
  | create (type : ConnectionType)
  | adopt (id : UInt32) (hooks : Hooks)
  | recycle (handle : Nat)
  | giveUp (reference : Nat)
  | setHook (handle : Nat) (hook : Hook) (outcome : Outcome)
  | addListener (handle : Nat) (listener : Listener)
  | removeListener (handle key : Nat)
  | setFailureListener (handle : Nat) (listener : FailureListener)
  | attachEndpoint (handle : Nat) (endpoint : Endpoint)
  | dropEndpoint (name : String)
  | bind (handle : Nat)
  | open (handle : Nat)
  | close (handle : Nat)
  | fail (handle : Nat)
  | setMode (handle : Nat) (mode : Mode)
  | refresh (handle : Nat)
  | join (a b : Nat)
  | send (handle : Nat) (frame : Frame)
  | receive (handle : Nat)
  | generateOffer (handle : Nat) (browser : Bool)
  | processOffer (handle : Nat) (text : String)
  | processAnswer (handle : Nat) (text : String)
  | pollMedia (handle : Nat)
  | pump (handle : Nat)
  | transmit (handle : Nat) (media : MediaType) (payload : MediaSession.Payload)
  | arrive (handle : Nat) (media : MediaType) (arrival : Arrival)
  | installSink (handle : Nat)
  | fetchFrames (sink : Nat)
  | dropSink (sink : Nat)
  | tick (queue : Queue)
  /-- Time passes. -/
  | elapse (millis : Nat)
  /-- What is chosen at random, or decided by the host, is another from now on. -/
  | redraw (environment : Environment)
  /-- Others forget what they noticed. -/
  | clearLog

/-- What an action is about. -/
inductive ActionKind where
  /-- Connections come, wait or go. -/
  | restock
  /-- Those around a connection set something. -/
  | setting
  /-- What is chosen at random, or decided by the host, becomes another. -/
  | redraw
  /-- The gateway works, or time passes. -/
  | work
deriving DecidableEq

/-- What an action is about. -/
def Action.kind : Action → ActionKind
  | .create _ | .adopt _ _ | .recycle _ | .giveUp _ => .restock
  | .setHook _ _ _ | .addListener _ _ | .removeListener _ _ | .setFailureListener _ _
  | .attachEndpoint _ _ | .dropEndpoint _ | .installSink _ | .fetchFrames _ | .dropSink _ => .setting
  | .redraw _ => .redraw
  | _ => .work

theorem Action.eq_redraw {a : Action} (h : a.kind = .redraw) : ∃ e, a = .redraw e := by
  cases a with
  | redraw e => exact ⟨e, rfl⟩
  | _ => cases h

/-- Whether an action leaves the time of connections alone, unless it enters a state. -/
def Action.leavesTime : Action → Bool
  | .refresh _ | .send _ _ | .pollMedia _ | .pump _ | .tick _ => false
  | _ => true

/-- Whether an action is a step of an exchange of descriptions. -/
def Action.isExchange : Action → Bool
  | .generateOffer _ _ | .processOffer _ _ | .processAnswer _ _ => true
  | _ => false

/-- A host without any link, on which nothing is left to chance. -/
def Environment.isolated : Environment where
  network := .isolated
  numbering := fun _ => default
  cname := fun _ => "source"
  credentials := fun _ => ⟨"user", "password"⟩
  descriptionId := "1"

namespace Gateway

/-- Sends a payload with the session of a call for a medium. -/
def transmitOn (g : Gateway) (handle : Nat) (media : MediaType) (p : MediaSession.Payload) :
    Gateway :=
  match ((g.get? handle).bind Connection.call?).bind fun call => call.session? media with
  | some s => (g.transmit handle s p).2
  | none => g

/-- Does what an action says. -/
def perform (g : Gateway) : Action → Gateway
  | .create type => (g.create type).2
  | .adopt id hooks => (g.adopt id hooks).2
  | .recycle handle => (g.recycle handle).2
  | .giveUp reference => g.giveUp reference
  | .setHook handle hook outcome => g.setHook handle hook outcome
  | .addListener handle l => g.addListener handle l
  | .removeListener handle key => (g.removeListener handle key).2
  | .setFailureListener handle l => g.setFailureListener handle l
  | .attachEndpoint handle e => g.attachEndpoint handle e
  | .dropEndpoint name => g.dropEndpoint name
  | .bind handle => (g.bindConnection handle).2
  | .open handle => (g.openConnection handle).2
  | .close handle => (g.closeConnection handle).2
  | .fail handle => g.failConnection handle
  | .setMode handle mode => (g.setMode handle mode).2
  | .refresh handle => g.refresh handle
  | .join a b => (g.join a b).2
  | .send handle frame => (g.send handle frame).2
  | .receive handle => (g.receive handle).2
  | .generateOffer handle browser => (g.generateOffer handle browser).2
  | .processOffer handle text => (g.processOffer handle text).2
  | .processAnswer handle text => (g.processAnswer handle text).2
  | .pollMedia handle => (g.pollMedia handle).2
  | .pump handle => (g.pump handle).2
  | .transmit handle media p => g.transmitOn handle media p
  | .arrive handle media a => g.arrive handle media a
  | .installSink handle => (g.installSink handle).2
  | .fetchFrames sink => (g.fetchFrames sink).2
  | .dropSink sink => g.dropSink sink
  | .tick queue => (g.tick queue).2
  | .elapse millis => { g with wall := g.wall.advance millis }
  | .redraw environment => { g with environment }
  | .clearLog => g.clearLog

/-- Does what the actions of a run say. -/
def run (g : Gateway) (actions : List Action) : Gateway :=
  actions.foldl perform g

/-- Counts an error of an exchange, if it means that there is no agreement. -/
def countNegotiation (g : Gateway) (e : SessionError) : Gateway :=
  if e.isNegotiation then
    { g with metrics := { g.metrics with negotiationFailures := g.metrics.negotiationFailures + 1 } }
  else g

theorem failStep_eq (g : Gateway) (handle : Nat) (e : SessionError) :
    g.failStep handle e = (.session e, (g.countNegotiation e).failConnection handle) := rfl

/-- Connections come, wait or go. -/
inductive Restock : Gateway → Gateway → Prop
  | create {g} (type) : Restock g (g.create type).2
  | adopt {g} (id hooks) : Restock g (g.adopt id hooks).2
  | recycle {g} (handle) : Restock g (g.recycle handle).2
  | giveUp {g} (reference) : Restock g (g.giveUp reference)

/-- Those around a connection set something. -/
inductive Setting : Gateway → Gateway → Prop
  | setHook {g} (handle hook outcome) : Setting g (g.setHook handle hook outcome)
  | addListener {g} (handle l) : Setting g (g.addListener handle l)
  | removeListener {g} (handle key) : Setting g (g.removeListener handle key).2
  | setFailureListener {g} (handle l) : Setting g (g.setFailureListener handle l)
  | attachEndpoint {g} (handle e) : Setting g (g.attachEndpoint handle e)
  | dropEndpoint {g} (name) : Setting g (g.dropEndpoint name)
  | installSink {g} (handle) : Setting g (g.installSink handle).2
  | fetchFrames {g} (sink) : Setting g (g.fetchFrames sink).2
  | dropSink {g} (sink) : Setting g (g.dropSink sink)

/-- A change that the gateway makes in one piece, before anybody is told of it. Unless it enters a
state, it leaves the time of connections alone. -/
inductive Change : Gateway → Gateway → Prop
  | bind {g} (handle) : Change g (g.startBind handle).2
  | open {g} (handle generation) : Change g (g.startOpen handle generation).2
  | close {g} (handle) : Change g (g.startClose handle).2
  | fail {g} (handle) : Change g (g.startFail handle).2
  | setMode {g} (handle mode) : Change g (g.startMode handle mode).2
  | link {g a b ca cb generationA generationB} (ha : g.get? a = some ca) (hb : g.get? b = some cb)
      (hne : a ≠ b) (hga : ca.beginNegotiation .join = .ok generationA)
      (hgb : cb.beginNegotiation .join = .ok generationB) : Change g (g.link a b)
  | unlink {g} (handle) : Change g (g.unlink handle)
  | receive {g} (handle) : Change g (g.receive handle).2
  /-- An offer was made. -/
  | offer {g handle c call generation browser description call' ports}
      (hb : g.beginCall handle .generateOffer = .ok (c, call, generation))
      (hm : call.makeOffer (g.surroundings handle) g.ports browser =
        (.ok description, call', ports)) :
      Change g (g.putCall handle call' ports)
  /-- No offer could be made. -/
  | offerFailed {g handle c call generation browser e call' ports}
      (hb : g.beginCall handle .generateOffer = .ok (c, call, generation))
      (hm : call.makeOffer (g.surroundings handle) g.ports browser = (.error e, call', ports)) :
      Change g (((g.putCall handle call' ports).countNegotiation e).startFail handle).2
  /-- An offer was answered. -/
  | answer {g handle c call generation text description call' ports}
      (hb : g.beginCall handle .processOffer = .ok (c, call, generation))
      (hm : call.answerOffer (g.surroundings handle) g.ports text =
        (.ok description, call', ports)) :
      Change g ((g.putCall handle call' ports).startOpen handle (some generation)).2
  /-- An offer could not be answered. -/
  | answerFailed {g handle c call generation text e call' ports}
      (hb : g.beginCall handle .processOffer = .ok (c, call, generation))
      (hm : call.answerOffer (g.surroundings handle) g.ports text = (.error e, call', ports)) :
      Change g (((g.putCall handle call' ports).countNegotiation e).startFail handle).2
  /-- An answer was taken. -/
  | accept {g handle c call generation text call'}
      (hb : g.beginCall handle .processAnswer = .ok (c, call, generation))
      (hm : call.applyAnswer (g.surroundings handle) text = (.ok (), call')) :
      Change g ((g.putCall handle call' g.ports).startOpen handle (some generation)).2
  /-- An answer could not be taken. -/
  | acceptFailed {g handle c call generation text e call'}
      (hb : g.beginCall handle .processAnswer = .ok (c, call, generation))
      (hm : call.applyAnswer (g.surroundings handle) text = (.error e, call')) :
      Change g (((g.putCall handle call' g.ports).countNegotiation e).startFail handle).2
  /-- The sessions of a call were polled, with or without an error. -/
  | poll {g handle c call r call' metrics} (hc : g.get? handle = some c)
      (hcall : c.call? = some call) (hbound : c.life.state.isBound = true)
      (hp : call.poll g.metrics g.now = (r, call', metrics)) :
      Change g { g.modifyCall handle fun _ => call' with metrics }
  | play {g handle c call} (hc : g.get? handle = some c) (hcall : c.call? = some call) :
      Change g ((g.modifyCall handle fun _ => (call.play g.now).2).fillSink (call.play g.now).2.sink
        (call.play g.now).1)
  /-- A payload was sent, or could not be sent, and has not arrived anywhere yet. -/
  | transmit {g handle c call media s p r s' metrics} (hc : g.get? handle = some c)
      (hcall : c.call? = some call) (hs : call.session? media = some s)
      (ht : s.transmit g.metrics g.environment.network g.now p g.environment.overflow =
        (r, s', metrics)) :
      Change g { g.modifyCall handle fun c => c.withSession s' with metrics }
  | arrive {g} (handle media a) : Change g (g.arrive handle media a)
  | note {g} (e) : Change g (g.note e)
  | elapse {g : Gateway} (millis) : Change g { g with wall := g.wall.advance millis }
  | clearLog {g} : Change g g.clearLog

/-- Any number of changes. -/
abbrev Changes : Gateway → Gateway → Prop := Relation.ReflTransGen Change

/-- What is done in one piece outside of ticks: media gives a connection its full time again. -/
inductive Move : Gateway → Gateway → Prop
  | change {g g'} (h : Change g g') : Move g g'
  | refresh {g} (handle) : Move g (g.refresh handle)
  | send {g} (handle frame) : Move g (g.send handle frame).2

/-- Any number of moves. -/
abbrev Moves : Gateway → Gateway → Prop := Relation.ReflTransGen Move

/-- Takes the tasks of a queue out to be run. -/
def takeTasks (g : Gateway) (q : Queue) : Gateway :=
  { g with scheduler := g.scheduler.withPending q [] }

/-- Puts tasks that stay back in front of the new ones. -/
def keepTasks (g : Gateway) (q : Queue) (tasks : List Task) : Gateway :=
  { g with scheduler := g.scheduler.withPending q (tasks ++ g.scheduler.pending q) }

/-- What the gateway does in one piece. -/
inductive Turn : Gateway → Gateway → Prop
  | move {g g'} (h : Move g g') : Turn g g'
  /-- A heartbeat that was not the last one. -/
  | beat {g handle c epoch life} (hc : g.get? handle = some c)
      (hb : c.life.beat epoch = (.alive, life)) : Turn g (g.put handle { c with life })
  /-- The last heartbeat. -/
  | expire {g handle c epoch life} (hc : g.get? handle = some c)
      (hb : c.life.beat epoch = (.expired, life)) :
      Turn g ((g.put handle { c with life }).teardown handle { c with life } true).2
  | takeTasks {g} (q) : Turn g (g.takeTasks q)
  | keepTasks {g} (q tasks) : Turn g (g.keepTasks q tasks)

/-- Any number of turns. -/
abbrev Turns : Gateway → Gateway → Prop := Relation.ReflTransGen Turn

/-- What is done in one piece. -/
inductive Piece : Gateway → Gateway → Prop
  | restock {g g'} (h : Restock g g') : Piece g g'
  | setting {g g'} (h : Setting g g') : Piece g g'
  | turn {g g'} (h : Turn g g') : Piece g g'

theorem Changes.moves {g g' : Gateway} (h : Changes g g') : Moves g g' :=
  Relation.ReflTransGen.mono (fun _ _ hc => Move.change hc) _ _ h

theorem Moves.turns {g g' : Gateway} (h : Moves g g') : Turns g g' :=
  Relation.ReflTransGen.mono (fun _ _ hm => Turn.move hm) _ _ h

/-! ## Announcements -/

/-- What is done in one piece when something is announced. -/
inductive Telling : Gateway → Gateway → Prop
  | note {g} (e) : Telling g (g.note e)
  | bind {g} (handle) : Telling g (g.startBind handle).2
  | close {g} (handle) : Telling g (g.startClose handle).2
  | fail {g} (handle) : Telling g (g.startFail handle).2

/-- Any number of these. -/
abbrev Tellings : Gateway → Gateway → Prop := Relation.ReflTransGen Telling

theorem Telling.change {g g' : Gateway} (h : Telling g g') : Change g g' := by
  cases h with
  | note e => exact .note e
  | bind handle => exact .bind handle
  | close handle => exact .close handle
  | fail handle => exact .fail handle

theorem Tellings.changes {g g' : Gateway} (h : Tellings g g') : Changes g g' :=
  Relation.ReflTransGen.mono (fun _ _ ht => ht.change) _ _ h

/-- A way to announce that does no more than that. -/
def OnlyTells (tell : Announcer) : Prop := ∀ a g, Tellings g (tell a g)

theorem tellings_conclude {tell : Announcer} (h : OnlyTells tell) (s : Started) :
    Tellings s.2 (conclude tell s).2 := by
  obtain ⟨_ | _ | a, g⟩ := s
  · exact .refl
  · exact .refl
  · exact h a g

theorem tellings_react {tell : Announcer} (h : OnlyTells tell) (g : Gateway) (r : Reaction) :
    Tellings g (g.react tell r) := by
  cases r with
  | finish _ => exact .refl
  | close reference =>
    simp only [react]
    split
    · exact .head (.close _) (tellings_conclude h _)
    · exact .refl
  | fail reference =>
    simp only [react]
    split
    · exact .head (.fail _) (tellings_conclude h _)
    · exact .refl
  | bind reference =>
    simp only [react]
    split
    · exact .head (.bind _) (tellings_conclude h _)
    · exact .refl

theorem tellings_tellListener {tell : Announcer} (h : OnlyTells tell) (id : UInt32)
    (change : ConnectionState × ConnectionState) (g : Gateway) (l : Listener) :
    Tellings g (tellListener tell id change g l) := by
  simp only [tellListener]
  split
  · exact .head (.note _) (tellings_react h _ _)
  · exact .single (.note _)

theorem tellings_tellListeners {tell : Announcer} (h : OnlyTells tell) (a : Announcement)
    (g : Gateway) : Tellings g (tellListeners tell a g) := by
  simp only [tellListeners]
  split
  · exact .refl
  · rename_i change _
    generalize ((g.get? a.handle).map Connection.listeners).getD [] = listeners
    induction listeners generalizing g with
    | nil => exact .refl
    | cons l rest ih => exact (tellings_tellListener h a.id change g l).trans (ih _)

theorem tellings_tellEndpoint (a : Announcement) (g : Gateway) : Tellings g (tellEndpoint a g) := by
  simp only [tellEndpoint]
  repeat' split
  all_goals first
    | exact .refl
    | exact .single (.note _)
    | exact .head (.note _) (.single (.note _))

theorem tellings_tellFailure (a : Announcement) (g : Gateway) : Tellings g (tellFailure a g) := by
  simp only [tellFailure]
  split
  · exact .refl
  · exact .single (.note _)

/-- Announcing does no more than that, by induction on the depth to which listeners act. -/
theorem onlyTells_announce (depth : Nat) : OnlyTells (announce depth) := by
  induction depth with
  | zero => exact fun _ _ => .refl
  | succ depth ih =>
    exact fun a g => ((tellings_tellListeners ih a g).trans (tellings_tellEndpoint a _)).trans
      (tellings_tellFailure a _)

theorem tellings_concludeAll (s : Started) : Tellings s.2 (conclude announceAll s).2 :=
  tellings_conclude (onlyTells_announce maxDepth) s

theorem changes_concludeAll (s : Started) : Changes s.2 (conclude announceAll s).2 :=
  (tellings_concludeAll s).changes

/-! ## Outside of exchanges -/

/-- A change that is no part of an exchange of descriptions. -/
inductive PlainChange : Gateway → Gateway → Prop
  | telling {g g'} (h : Telling g g') : PlainChange g g'
  | open {g} (handle generation) : PlainChange g (g.startOpen handle generation).2
  | setMode {g} (handle mode) : PlainChange g (g.startMode handle mode).2
  | link {g a b ca cb generationA generationB} (ha : g.get? a = some ca) (hb : g.get? b = some cb)
      (hne : a ≠ b) (hga : ca.beginNegotiation .join = .ok generationA)
      (hgb : cb.beginNegotiation .join = .ok generationB) : PlainChange g (g.link a b)
  | unlink {g} (handle) : PlainChange g (g.unlink handle)
  | receive {g} (handle) : PlainChange g (g.receive handle).2
  | poll {g handle c call r call' metrics} (hc : g.get? handle = some c)
      (hcall : c.call? = some call) (hbound : c.life.state.isBound = true)
      (hp : call.poll g.metrics g.now = (r, call', metrics)) :
      PlainChange g { g.modifyCall handle fun _ => call' with metrics }
  | play {g handle c call} (hc : g.get? handle = some c) (hcall : c.call? = some call) :
      PlainChange g ((g.modifyCall handle fun _ => (call.play g.now).2).fillSink
        (call.play g.now).2.sink (call.play g.now).1)
  | transmit {g handle c call media s p r s' metrics} (hc : g.get? handle = some c)
      (hcall : c.call? = some call) (hs : call.session? media = some s)
      (ht : s.transmit g.metrics g.environment.network g.now p g.environment.overflow =
        (r, s', metrics)) :
      PlainChange g { g.modifyCall handle fun c => c.withSession s' with metrics }
  | arrive {g} (handle media a) : PlainChange g (g.arrive handle media a)
  | elapse {g : Gateway} (millis) : PlainChange g { g with wall := g.wall.advance millis }
  | clearLog {g} : PlainChange g g.clearLog

/-- Such a move. -/
inductive PlainMove : Gateway → Gateway → Prop
  | change {g g'} (h : PlainChange g g') : PlainMove g g'
  | refresh {g} (handle) : PlainMove g (g.refresh handle)
  | send {g} (handle frame) : PlainMove g (g.send handle frame).2

/-- Such a turn. -/
inductive PlainTurn : Gateway → Gateway → Prop
  | move {g g'} (h : PlainMove g g') : PlainTurn g g'
  | beat {g handle c epoch life} (hc : g.get? handle = some c)
      (hb : c.life.beat epoch = (.alive, life)) : PlainTurn g (g.put handle { c with life })
  | expire {g handle c epoch life} (hc : g.get? handle = some c)
      (hb : c.life.beat epoch = (.expired, life)) :
      PlainTurn g ((g.put handle { c with life }).teardown handle { c with life } true).2
  | takeTasks {g} (q) : PlainTurn g (g.takeTasks q)
  | keepTasks {g} (q tasks) : PlainTurn g (g.keepTasks q tasks)

/-- Any number of such changes. -/
abbrev PlainChanges : Gateway → Gateway → Prop := Relation.ReflTransGen PlainChange

/-- Any number of such moves. -/
abbrev PlainMoves : Gateway → Gateway → Prop := Relation.ReflTransGen PlainMove

/-- Any number of such turns. -/
abbrev PlainTurns : Gateway → Gateway → Prop := Relation.ReflTransGen PlainTurn

theorem PlainChange.change {g g' : Gateway} (h : PlainChange g g') : Change g g' := by
  cases h with
  | telling h => exact h.change
  | «open» handle generation => exact .open handle generation
  | setMode handle mode => exact .setMode handle mode
  | link ha hb hne hga hgb => exact .link ha hb hne hga hgb
  | unlink handle => exact .unlink handle
  | receive handle => exact .receive handle
  | poll hc hcall hbound hp => exact .poll hc hcall hbound hp
  | play hc hcall => exact .play hc hcall
  | transmit hc hcall hs ht => exact .transmit hc hcall hs ht
  | arrive handle media a => exact .arrive handle media a
  | elapse millis => exact .elapse millis
  | clearLog => exact .clearLog

theorem PlainMove.move {g g' : Gateway} (h : PlainMove g g') : Move g g' := by
  cases h with
  | change h => exact .change h.change
  | refresh handle => exact .refresh handle
  | send handle frame => exact .send handle frame

theorem PlainTurn.turn {g g' : Gateway} (h : PlainTurn g g') : Turn g g' := by
  cases h with
  | move h => exact .move h.move
  | beat hc hb => exact .beat hc hb
  | expire hc hb => exact .expire hc hb
  | takeTasks q => exact .takeTasks q
  | keepTasks q tasks => exact .keepTasks q tasks

theorem Tellings.plainChanges {g g' : Gateway} (h : Tellings g g') : PlainChanges g g' :=
  Relation.ReflTransGen.mono (fun _ _ ht => PlainChange.telling ht) _ _ h

theorem PlainChanges.changes {g g' : Gateway} (h : PlainChanges g g') : Changes g g' :=
  Relation.ReflTransGen.mono (fun _ _ hc => hc.change) _ _ h

theorem PlainChanges.plainMoves {g g' : Gateway} (h : PlainChanges g g') : PlainMoves g g' :=
  Relation.ReflTransGen.mono (fun _ _ hc => PlainMove.change hc) _ _ h

theorem PlainMoves.moves {g g' : Gateway} (h : PlainMoves g g') : Moves g g' :=
  Relation.ReflTransGen.mono (fun _ _ hm => hm.move) _ _ h

theorem PlainMoves.plainTurns {g g' : Gateway} (h : PlainMoves g g') : PlainTurns g g' :=
  Relation.ReflTransGen.mono (fun _ _ hm => PlainTurn.move hm) _ _ h

theorem PlainTurns.turns {g g' : Gateway} (h : PlainTurns g g') : Turns g g' :=
  Relation.ReflTransGen.mono (fun _ _ ht => ht.turn) _ _ h

theorem plainChanges_concludeAll (s : Started) : PlainChanges s.2 (conclude announceAll s).2 :=
  (tellings_concludeAll s).plainChanges

/-! ## Operations -/

section Operations

variable (g : Gateway)

theorem plainChanges_bindConnection (handle : Nat) : PlainChanges g (g.bindConnection handle).2 :=
  .head (.telling (.bind handle)) (plainChanges_concludeAll _)

theorem plainChanges_openConnection (handle : Nat) (generation : Option Nat) :
    PlainChanges g (g.openConnection handle generation).2 :=
  .head (.open handle generation) (plainChanges_concludeAll _)

theorem plainChanges_closeConnection (handle : Nat) : PlainChanges g (g.closeConnection handle).2 :=
  .head (.telling (.close handle)) (plainChanges_concludeAll _)

theorem plainChanges_failConnection (handle : Nat) : PlainChanges g (g.failConnection handle) :=
  .head (.telling (.fail handle)) (plainChanges_concludeAll _)

theorem plainChanges_setMode (handle : Nat) (mode : Mode) : PlainChanges g (g.setMode handle mode).2 :=
  .head (.setMode handle mode) (plainChanges_concludeAll _)

theorem plainChanges_join (a b : Nat) : PlainChanges g (g.join a b).2 := by
  simp only [join]
  split
  · rename_i ca cb ha hb
    split
    · exact .refl
    · rename_i hne
      split
      · exact .refl
      · exact .refl
      · rename_i generationA generationB hga hgb
        refine .head (.link ha hb hne hga hgb) ?_
        have hopenA := plainChanges_openConnection (g.link a b) a (some generationA)
        simp only [openLinked]
        split
        · rename_i e g₁ h₁
          rw [h₁] at hopenA
          exact hopenA.tail (.unlink a)
        · rename_i g₁ h₁
          rw [h₁] at hopenA
          have hopenB := plainChanges_openConnection g₁ b (some generationB)
          split
          · rename_i e g₂ h₂
            rw [h₂] at hopenB
            exact ((hopenA.trans hopenB).trans (plainChanges_failConnection g₂ a)).tail (.unlink b)
          · rename_i g₂ h₂
            rw [h₂] at hopenB
            exact hopenA.trans hopenB
  · exact .refl

theorem changes_generateOffer (handle : Nat) (browser : Bool) :
    Changes g (g.generateOffer handle browser).2 := by
  simp only [generateOffer]
  split
  · exact .refl
  · rename_i c call generation hb
    split
    · exact .refl
    · split
      · rename_i offer call' ports hm
        exact .single (.offer hb hm)
      · rename_i e call' ports hm
        exact .head (.offerFailed hb hm) (changes_concludeAll _)

theorem changes_processOffer (handle : Nat) (text : String) :
    Changes g (g.processOffer handle text).2 := by
  simp only [processOffer]
  split
  · exact .refl
  · rename_i c call generation hb
    split
    · rename_i e call' ports hm
      exact .head (.answerFailed hb hm) (changes_concludeAll _)
    · rename_i answer call' ports hm
      exact .head (.answer hb hm) (changes_concludeAll _)

theorem changes_processAnswer (handle : Nat) (text : String) :
    Changes g (g.processAnswer handle text).2 := by
  simp only [processAnswer]
  split
  · exact .refl
  · rename_i c call generation hb
    split
    · exact .refl
    · split
      · rename_i e call' hm
        exact .head (.acceptFailed hb hm) (changes_concludeAll _)
      · rename_i u call' hm
        exact .head (.accept hb hm) (changes_concludeAll _)

theorem plainChanges_transmitOn (handle : Nat) (media : MediaType) (p : MediaSession.Payload) :
    PlainChanges g (g.transmitOn handle media p) := by
  simp only [transmitOn]
  split
  · rename_i s hs
    obtain ⟨call, hcall, hs⟩ := Option.bind_eq_some_iff.1 hs
    obtain ⟨c, hc, hcall⟩ := Option.bind_eq_some_iff.1 hcall
    rcases ht : s.transmit g.metrics g.environment.network g.now p g.environment.overflow with
      ⟨r, s', metrics⟩
    have hsent := PlainChange.transmit hc hcall hs ht
    simp only [transmit, ht]
    split
    · refine .head hsent ?_
      simp only [carry]
      split
      · exact .single (.arrive _ _ _)
      · exact .refl
    · exact .single hsent
  · exact .refl

/-! ## Media -/

theorem plainMoves_pollMedia (handle : Nat) : PlainMoves g (g.pollMedia handle).2 := by
  simp only [pollMedia]
  split
  · exact .refl
  · rename_i c hc
    split
    · exact .refl
    · rename_i call hcall
      split
      · exact .refl
      · rename_i hbound
        have hbound : c.life.state.isBound = true := by simpa using hbound
        split
        · rename_i e call' metrics hp
          exact .head (.change (.poll hc hcall hbound hp)) (plainChanges_failConnection _ handle).plainMoves
        · rename_i n call' metrics hp
          refine .head (.change (.poll hc hcall hbound hp)) ?_
          simp only
          split
          · exact .single (.refresh handle)
          · exact .refl

theorem plainMoves_pump (handle : Nat) : PlainMoves g (g.pump handle).2 := by
  have hpoll := plainMoves_pollMedia g handle
  simp only [pump]
  split
  · rename_i e g₁ h₁
    rw [h₁] at hpoll
    exact hpoll
  · rename_i n g₁ h₁
    rw [h₁] at hpoll
    split
    · exact hpoll
    · rename_i call hcall
      obtain ⟨c, hc, hcall⟩ := Option.bind_eq_some_iff.1 hcall
      exact hpoll.tail (.change (.play hc hcall))

/-! ## Ticks -/

theorem plainTurns_heartbeat (handle epoch : Nat) : PlainTurns g (g.heartbeat handle epoch).2 := by
  simp only [heartbeat]
  split
  · exact .refl
  · rename_i c hc
    split
    · exact .refl
    · rename_i life hb
      exact .single (.beat hc hb)
    · rename_i life hb
      exact .head (.expire hc hb) (onlyTells_announce maxDepth _ _).plainChanges.plainMoves.plainTurns

theorem plainTurns_runTask (task : Task) : PlainTurns g (g.runTask task).2 := by
  cases task with
  | media handle =>
    simp only [runTask]
    split
    · exact (plainMoves_pump g handle).plainTurns
    · exact .refl
  | heartbeat handle epoch => exact plainTurns_heartbeat g handle epoch

/-- Runs tasks one after the other, each on what the one before has left, and says which stay. -/
def runTasks (g : Gateway) : List Task → List Task × Gateway
  | [] => ([], g)
  | task :: rest =>
    let (stays, g) := g.runTask task
    let (kept, g) := g.runTasks rest
    (if stays then task :: kept else kept, g)

theorem runTasks_cons (task : Task) (rest : List Task) :
    g.runTasks (task :: rest) =
      (if (g.runTask task).1 then task :: ((g.runTask task).2.runTasks rest).1
        else ((g.runTask task).2.runTasks rest).1, ((g.runTask task).2.runTasks rest).2) := rfl

theorem plainTurns_runTasks (tasks : List Task) : PlainTurns g (g.runTasks tasks).2 := by
  induction tasks generalizing g with
  | nil => exact .refl
  | cons task rest ih => exact (plainTurns_runTask g task).trans (ih _)

/-- The scheduler runs tasks as if they were run on the gateway with the scheduler in it. -/
theorem runAll_eq (tasks : List Task) (scheduler : Scheduler Task) :
    ((Scheduler.runAll taskRun tasks scheduler g).1,
      { (Scheduler.runAll taskRun tasks scheduler g).2.2 with
        scheduler := (Scheduler.runAll taskRun tasks scheduler g).2.1 }) =
      { g with scheduler }.runTasks tasks := by
  induction tasks generalizing g scheduler with
  | nil => rfl
  | cons task rest ih =>
    have hrest := ih ({ g with scheduler }.runTask task).2
      ({ g with scheduler }.runTask task).2.scheduler
    rw [runTasks_cons]
    simp only [Scheduler.runAll, taskRun] at hrest ⊢
    rw [← hrest]
    cases ({ g with scheduler }.runTask task).1 <;> rfl

/-- A tick takes the tasks of its queue out, runs them and puts back those that stay. -/
theorem tick_eq (q : Queue) :
    g.tick q = ((g.scheduler.pending q).length,
      ((g.takeTasks q).runTasks (g.scheduler.pending q)).2.keepTasks q
        ((g.takeTasks q).runTasks (g.scheduler.pending q)).1) := by
  have hrun := runAll_eq g (g.scheduler.pending q) (g.scheduler.withPending q [])
  simp only [takeTasks]
  rw [← hrun]
  rfl

theorem plainTurns_tick (q : Queue) : PlainTurns g (g.tick q).2 := by
  rw [tick_eq]
  exact (Relation.ReflTransGen.head (.takeTasks q) (plainTurns_runTasks _ _)).tail (.keepTasks q _)

end Operations

/-! ## Runs -/

theorem restock_perform (g : Gateway) {a : Action} (h : a.kind = .restock) :
    Restock g (g.perform a) := by
  cases a with
  | create type => exact .create type
  | adopt id hooks => exact .adopt id hooks
  | recycle handle => exact .recycle handle
  | giveUp reference => exact .giveUp reference
  | _ => cases h

theorem setting_perform (g : Gateway) {a : Action} (h : a.kind = .setting) :
    Setting g (g.perform a) := by
  cases a with
  | setHook handle hook outcome => exact .setHook handle hook outcome
  | addListener handle l => exact .addListener handle l
  | removeListener handle key => exact .removeListener handle key
  | setFailureListener handle l => exact .setFailureListener handle l
  | attachEndpoint handle e => exact .attachEndpoint handle e
  | dropEndpoint name => exact .dropEndpoint name
  | installSink handle => exact .installSink handle
  | fetchFrames sink => exact .fetchFrames sink
  | dropSink sink => exact .dropSink sink
  | _ => cases h

section Work

variable (g : Gateway) {a : Action} (hw : a.kind = .work)
include hw

/-- Work outside of exchanges that leaves the time of connections alone, unless it enters a state,
makes plain changes only. -/
theorem plainChanges_perform (hx : a.isExchange = false) (h : a.leavesTime = true) :
    PlainChanges g (g.perform a) := by
  cases a with
  | bind handle => exact plainChanges_bindConnection g handle
  | «open» handle => exact plainChanges_openConnection g handle none
  | close handle => exact plainChanges_closeConnection g handle
  | fail handle => exact plainChanges_failConnection g handle
  | setMode handle mode => exact plainChanges_setMode g handle mode
  | join a b => exact plainChanges_join g a b
  | receive handle => exact .single (.receive handle)
  | transmit handle media p => exact plainChanges_transmitOn g handle media p
  | arrive handle media a => exact .single (.arrive handle media a)
  | elapse millis => exact .single (.elapse millis)
  | clearLog => exact .single .clearLog
  | generateOffer _ _ | processOffer _ _ | processAnswer _ _ => cases hx
  | refresh _ | send _ _ | pollMedia _ | pump _ | tick _ => simp [Action.leavesTime] at h
  | _ => cases hw

theorem plainMoves_perform (hx : a.isExchange = false) (hq : ∀ q, a ≠ .tick q) :
    PlainMoves g (g.perform a) := by
  by_cases ha : a.leavesTime = true
  · exact (plainChanges_perform g hw hx ha).plainMoves
  · cases a with
    | refresh handle => exact .single (.refresh handle)
    | send handle frame => exact .single (.send handle frame)
    | pollMedia handle => exact plainMoves_pollMedia g handle
    | pump handle => exact plainMoves_pump g handle
    | tick q => exact absurd rfl (hq q)
    | _ => exact absurd rfl ha

theorem plainTurns_perform (hx : a.isExchange = false) : PlainTurns g (g.perform a) := by
  by_cases h : ∃ q, a = .tick q
  · obtain ⟨q, rfl⟩ := h
    exact plainTurns_tick g q
  · exact (plainMoves_perform g hw hx fun q hq => h ⟨q, hq⟩).plainTurns

omit hw in
theorem changes_exchange (hx : a.isExchange = true) : Changes g (g.perform a) := by
  cases a with
  | generateOffer handle browser => exact changes_generateOffer g handle browser
  | processOffer handle text => exact changes_processOffer g handle text
  | processAnswer handle text => exact changes_processAnswer g handle text
  | _ => cases hx

/-- Work that leaves the time of connections alone, unless it enters a state, makes changes only. -/
theorem changes_perform (h : a.leavesTime = true) : Changes g (g.perform a) := by
  cases hx : a.isExchange with
  | true => exact changes_exchange g hx
  | false => exact (plainChanges_perform g hw hx h).changes

theorem moves_perform (hq : ∀ q, a ≠ .tick q) : Moves g (g.perform a) := by
  cases hx : a.isExchange with
  | true => exact (changes_exchange g hx).moves
  | false => exact (plainMoves_perform g hw hx hq).moves

theorem turns_perform : Turns g (g.perform a) := by
  cases hx : a.isExchange with
  | true => exact (changes_exchange g hx).moves.turns
  | false => exact (plainTurns_perform g hw hx).turns

end Work

/-- What every piece preserves, and every new environment of the run, holds after the run if it holds
before; by induction on the actions, and for work on its turns. -/
theorem run_induction {I : Gateway → Prop} {g : Gateway} {actions : List Action} (h : I g)
    (hpiece : ∀ g g', Piece g g' → I g → I g')
    (hredraw : ∀ g environment, .redraw environment ∈ actions → I g → I { g with environment }) :
    I (g.run actions) := by
  have hturns {g g' : Gateway} (ht : Turns g g') (h : I g) : I g' := by
    induction ht with
    | refl => exact h
    | tail _ ht ih => exact hpiece _ _ (.turn ht) ih
  induction actions generalizing g with
  | nil => exact h
  | cons a rest ih =>
    refine ih ?_ fun g e he => hredraw g e (List.mem_cons_of_mem a he)
    cases hk : a.kind with
    | restock => exact hpiece _ _ (.restock (restock_perform g hk)) h
    | setting => exact hpiece _ _ (.setting (setting_perform g hk)) h
    | redraw =>
      obtain ⟨e, rfl⟩ := Action.eq_redraw hk
      exact hredraw g e List.mem_cons_self h
    | work => exact hturns (turns_perform g hk) h

end Gateway

end MediaGateway
