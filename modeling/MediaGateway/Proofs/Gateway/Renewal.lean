import Mathlib.Data.Option.NAry
import MediaGateway.Proofs.Gateway.CallInvariant

/-!
# What a binding leaves of earlier calls

Binding makes a call as it was when it was built, but for three things. Its frames go where they went
before, its sessions take packets to mean what they meant before, and their clocks run as fast as
before.
-/

namespace MediaGateway

theorem MediaClock.reset_eq (c : MediaClock) (rate : UInt32) : c.reset = (make rate).setRate c.rate := by
  unfold make
  split <;> simp [setRate, reset, c.rate_pos]

/-- The session, but with the meaning of payload numbers and the rate of the clock from another one. -/
def MediaSession.recalling (s old : MediaSession) : MediaSession :=
  { s with jitter := { s.jitter with
      formats := old.jitter.formats
      clock := s.jitter.clock.setRate old.jitter.clock.rate } }

theorem MediaSession.reset_eq {s : MediaSession} {seat : Seat} {config : SessionConfig}
    (hsetup : s.setup = (make seat config default).setup) (hjitter : s.jitter.config = config.jitter)
    (numbering : Numbering) : s.reset numbering = (make seat config numbering).recalling s := by
  obtain ⟨hseat, hnegotiator, hfingerprint⟩ := SessionSetup.mk.inj hsetup
  simp only [reset, close, recalling, make, JitterBuffer.reset, JitterBuffer.make, hseat, hnegotiator,
    hfingerprint, hjitter, MediaClock.reset_eq _ MediaClock.defaultRate]

/-- The call, but with the same of its sessions, and its frames go where those of another one go. -/
def Call.recalling (c old : Call) : Call :=
  { c with
    audio := c.audio.recalling old.audio
    video := Option.map₂ MediaSession.recalling c.video old.video
    sink := old.sink }

/-- What lasts for sessions is kept by every step of a call. -/
theorem CallView.Step.sessions {n : Network} {v v' : CallView} (h : Step n v v')
    {P : MediaSession → Prop} (hP : MediaSession.Lasting P) (hv : ∀ s ∈ v.call.sessions, P s) :
    ∀ s ∈ v'.call.sessions, P s := by
  have hkeeps : v.call.Keeps P v.call.sink := ⟨hv, rfl⟩
  cases h with
  | bind numbering cname => exact (hkeeps.renew hP numbering cname).sessions
  | «open» => exact hv
  | finish => exact (hkeeps.close hP).sessions
  | setMode mode hbound => exact (hkeeps.updateMode hP mode).sessions
  | @offer mode call w ports browser description call' ports' hw hm =>
    have hoffer := hkeeps.makeOffer (hP.through _) w ports browser
    rw [hm] at hoffer
    exact hoffer.sessions
  | @offerFailed mode call w ports browser e call' ports' hw hm =>
    have hoffer := hkeeps.makeOffer (hP.through _) w ports browser
    rw [hm] at hoffer
    exact (hoffer.close hP).sessions
  | @answer mode call w ports text description call' ports' hw hm =>
    have hanswer := hkeeps.answerOffer hP w ports text
    rw [hm] at hanswer
    exact hanswer.sessions
  | @answerFailed mode call w ports text e call' ports' hw hm =>
    have hanswer := hkeeps.answerOffer hP w ports text
    rw [hm] at hanswer
    exact (hanswer.close hP).sessions
  | @accept mode call w text call' hw hm =>
    have haccept := hkeeps.applyAnswer hP w text
    rw [hm] at haccept
    exact haccept.sessions
  | @acceptFailed mode call w text e call' hw hm =>
    have haccept := hkeeps.applyAnswer hP w text
    rw [hm] at haccept
    exact (haccept.close hP).sessions
  | @poll state mode call metrics now r call' metrics' hbound hp =>
    have hpoll := hkeeps.poll (hP.through _) metrics now
    rw [hp] at hpoll
    exact hpoll.sessions
  | play now => exact (hkeeps.play (hP.through _) now).sessions
  | @transmit state mode call media s metrics network now p overflow r s' metrics' hs ht =>
    have hsend := hP s (.transmit metrics network now p overflow) (hkeeps.session? hs)
    simp only [MediaSession.perform, ht] at hsend
    exact (hkeeps.withSession hsend).sessions
  | arrive a hs => exact (hkeeps.withSession (hP _ (.deliver a) (hkeeps.session? hs))).sessions
  | installSink sink => exact hv

namespace Gateway

variable {g g' : Gateway} {handle : Nat} {c : Connection} {call : Call}

/-! ## Sessions belong to their connections -/

/-- The sessions behind a connection have its number, and jitter buffers as configured. -/
def Belongs (config : GatewayConfig) (c : Connection) : Prop :=
  ∀ call, c.call? = some call → ∀ s ∈ call.sessions, s.seat.connection = c.id ∧ s.jitter.config = config.jitter

/-- All sessions belong to their connections. -/
def SessionsBelong (g : Gateway) : Prop := ∀ k c, g.get? k = some c → Belongs g.config c

theorem belongs_newCall (g : Gateway) (id : UInt32) {s : MediaSession}
    (hs : s ∈ (g.newCall id).sessions) : s.seat.connection = id ∧ s.jitter.config = g.config.jitter := by
  rcases Call.mem_sessions.1 hs with rfl | hs
  · exact ⟨rfl, rfl⟩
  · simp only [newCall, GatewayConfig.session?, Option.mem_def, Option.map_map,
      Option.map_eq_some_iff] at hs
    obtain ⟨formats, -, rfl⟩ := hs
    exact ⟨rfl, rfl⟩

/-- What becomes of calls in one step stays with their connections. -/
theorem SessionsBelong.of_steps (h : g.SessionsBelong) (hs : SameStock g g') (hsteps : Steps g g') :
    g'.SessionsBelong := by
  intro k c' hc' call' hcall'
  have hid := hs.ids k
  have hv' : g'.view? k = some ⟨c'.life.state, c'.life.mode, call'⟩ := by
    simp [view?, hc', Connection.view?, hcall']
  obtain ⟨v, hv, hstep⟩ := hsteps k _ hv'
  obtain ⟨c, hc, hview⟩ := Option.bind_eq_some_iff.1 hv
  obtain ⟨-, -, hcall⟩ := view?_of_get? hc hv
  rw [hc, hc'] at hid
  rw [Option.some.inj hid, hs.config]
  have hbelongs := h k c hc v.call hcall
  rcases hstep with rfl | hstep
  · exact hbelongs
  · exact hstep.sessions (MediaSession.lasting_seat c.id g.config.jitter) hbelongs

theorem SessionsBelong.restock (h : g.SessionsBelong) (hr : Restock g g') : g'.SessionsBelong := by
  intro k c' hc'
  rw [hr.ground.1]
  rcases hr.get?_cases hc' with ⟨c, hc, rfl | rfl⟩ | ⟨-, hnew⟩
  · exact h k c' hc
  · exact h k c hc
  · intro call hcall s hs
    rw [hnew call hcall] at hs
    exact belongs_newCall g c'.id hs

theorem SessionsBelong.piece (h : g.SessionsBelong) (hp : Piece g g') : g'.SessionsBelong := by
  cases hp with
  | restock hr => exact h.restock hr
  | setting hs => exact h.of_steps hs.sameStock hs.steps.steps
  | turn ht => exact h.of_steps ht.sameStock ht.steps

theorem sessionsBelong_run (config : GatewayConfig) (environment : Environment)
    (actions : List Action) : ((make config environment).run actions).SessionsBelong :=
  run_induction (I := SessionsBelong) (fun k c hc => by simp [get?, make] at hc)
    (fun _ _ hp h => h.piece hp) fun _ _ _ h => h

/-! ## Binding -/

/-- A call that belongs to its connection is renewed to a new one, but for what it recalls. -/
theorem renew_eq (hsound : CallView.Sound g.config ⟨c.life.state, c.life.mode, call⟩)
    (hcall : c.call? = some call) (hbelongs : Belongs g.config c) :
    call.renew g.environment.numbering (g.environment.cname c.id) =
      (g.newCall c.id).recalling call := by
  obtain ⟨id, hid⟩ := hsound.setup
  obtain ⟨haudio, hvideo, hbuilder⟩ := CallSetup.mk.inj hid
  have hin : call.audio ∈ call.sessions := Call.mem_sessions.2 (.inl rfl)
  obtain ⟨hconnection, hjitter⟩ := hbelongs call hcall call.audio hin
  obtain rfl : id = c.id := by
    rw [← hconnection]
    exact congrArg (fun u : SessionSetup => u.seat.connection) haudio.symm
  have hreset (media : MediaType) (formats : FormatTable) {s : MediaSession}
      (hmem : s ∈ call.sessions)
      (hs : s.setup = ⟨⟨c.id, media⟩, .symmetric media formats, g.config.fingerprint⟩) :
      s.reset (g.environment.numbering s.seat) =
        (MediaSession.make ⟨c.id, media⟩ ⟨g.config.jitter, formats, g.config.fingerprint⟩
          (g.environment.numbering ⟨c.id, media⟩)).recalling s := by
    have hseat : s.seat = ⟨c.id, media⟩ := congrArg SessionSetup.seat hs
    rw [hseat]
    exact MediaSession.reset_eq hs (hbelongs call hcall s hmem).2 _
  simp only [Call.renew, Call.mapSessions, Call.recalling, newCall, hreset .audio _ hin haudio]
  refine congrArg₂ (fun video builder => Call.mk _ video builder _ _) ?_ hbuilder
  simp only [GatewayConfig.session?]
  cases hv : call.video with
  | none => simp
  | some s =>
    rw [hv, Option.map_some, eq_comm, Option.map_eq_some_iff] at hvideo
    obtain ⟨formats, hformats, hs⟩ := hvideo
    have hmem : s ∈ call.sessions := Call.mem_sessions.2 (.inr hv)
    rw [Option.map_some, hreset .video formats hmem hs.symm, hformats]
    rfl

theorem bindConnection_ok (hc : g.get? handle = some c) (hcall : c.call? = some call)
    (hs : c.life.state = .null) : (g.bindConnection handle).1 = .ok () := by
  have hcheck : c.check .binding = .ok (some .halfOpen) := check_eq_next.2 (by rw [hs]; rfl)
  have hleg := Connection.call?_eq_some.1 hcall
  simp only [bindConnection, startBind, hc, hcheck, callHook, hleg, afterHook, conclude]

theorem view_startBind (hc : g.get? handle = some c) (hcall : c.call? = some call)
    (hs : c.life.state = .null) :
    (g.startBind handle).2.view? handle = some ⟨.halfOpen, c.life.mode,
      call.renew g.environment.numbering (g.environment.cname c.id)⟩ := by
  have hcheck : c.check .binding = .ok (some .halfOpen) := check_eq_next.2 (by rw [hs]; rfl)
  have hleg := Connection.call?_eq_some.1 hcall
  have hview : g.view? handle = some ⟨.null, c.life.mode, call⟩ := by
    simp [view?, hc, Connection.view?, hcall, hs]
  simp only [startBind, hc, hcheck, callHook, hleg, afterHook, hookCall]
  have hrenew : ChangesView g (g.modifyCall handle fun call =>
      call.renew g.environment.numbering (g.environment.cname c.id)) handle _ := .modifyCall _
  have hbound := (hrenew.trans (.modify_same (u := fun c =>
      { c with life := { c.life with generation := c.life.generation + 1 } })
    (fun _ => rfl) (fun _ => rfl) fun _ => rfl)).trans (.enter .halfOpen)
  rw [hbound handle, if_pos rfl, hview]
  rfl

end Gateway

end MediaGateway
