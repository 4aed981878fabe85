import MediaGateway.Proofs.Gateway.Stock

/-!
# What holds of calls at any time

A call is set up as the configuration says. It is blank while its connection is idle, and after
binding until an offer is made or answered. A connection that waits for the answer to its offer has
all its sessions open.
-/

namespace MediaGateway

/-- What the calls of a gateway are set up with. -/
def GatewayConfig.callSetup (config : GatewayConfig) (id : UInt32) : CallSetup where
  audio := ⟨⟨id, .audio⟩, .symmetric .audio config.audio, config.fingerprint⟩
  video := config.video.map fun formats =>
    ⟨⟨id, .video⟩, .symmetric .video formats, config.fingerprint⟩
  builder := .make config.bindAddress.text config.externalAddress

theorem GatewayConfig.isSeated_callSetup (config : GatewayConfig) (id : UInt32) :
    (config.callSetup id).IsSeated where
  audio := rfl
  video := by
    intro v hv
    obtain ⟨formats, -, rfl⟩ := Option.map_eq_some_iff.1 hv
    rfl

namespace CallView

variable {config : GatewayConfig} {n : Network} {v v' : CallView}

/-- What holds of the call of a connection at any time. -/
structure Sound (config : GatewayConfig) (v : CallView) : Prop where
  /-- The call is set up as the configuration says. -/
  setup : ∃ id, v.call.setup = config.callSetup id
  /-- The call of an idle connection is blank. -/
  idle : v.state = .null → ∀ s ∈ v.call.sessions, s.IsBlank
  /-- A bound one is blank before the first exchange. -/
  fresh : v.state = .halfOpen → v.call.exchange.outbound = false →
    v.call.exchange.localDescription = none ∧ ∀ s ∈ v.call.sessions, s.IsBlank
  /-- A bound one that made an offer has all sessions open. -/
  offering : v.state = .halfOpen → v.call.exchange.outbound = true →
    v.call.exchange.localDescription.isSome = true ∧ ∀ s ∈ v.call.sessions, s.isOpen = true

theorem Sound.isSeated (h : v.Sound config) : v.call.setup.IsSeated := by
  obtain ⟨id, hid⟩ := h.setup
  exact hid ▸ config.isSeated_callSetup id

/-- An idle connection with a call whose sessions were closed. -/
theorem Sound.of_closed {call : Call} (h : ∃ id, call.setup = config.callSetup id) (mode : Mode) :
    Sound config ⟨.null, mode, call.close⟩ where
  setup := by
    rw [Call.setup_close]
    exact h
  idle := fun _ _ => Call.isBlank_close
  fresh := fun h => by simp at h
  offering := fun h => by simp at h

/-- An open connection. -/
theorem Sound.of_opened {call : Call} (h : ∃ id, call.setup = config.callSetup id) (mode : Mode) :
    Sound config ⟨.opened, mode, call⟩ where
  setup := h
  idle := fun h => by simp at h
  fresh := fun h => by simp at h
  offering := fun h => by simp at h

/-- What happens to single sessions keeps a call sound, if it neither opens nor closes one and leaves
a blank one blank. -/
theorem Sound.of_sessions {state : ConnectionState} {mode mode' : Mode} {call call' : Call}
    (h : Sound config ⟨state, mode, call⟩) (hsetup : call'.setup = call.setup)
    (hexchange : call'.exchange = call.exchange)
    (hblank : (∀ s ∈ call.sessions, s.IsBlank) → ∀ s ∈ call'.sessions, s.IsBlank)
    (hopen : (∀ s ∈ call.sessions, s.isOpen = true) → ∀ s ∈ call'.sessions, s.isOpen = true) :
    Sound config ⟨state, mode', call'⟩ where
  setup := by
    rw [hsetup]
    exact h.setup
  idle := fun hs => hblank (h.idle hs)
  fresh := fun hs ho => by
    rw [hexchange] at ho ⊢
    exact ⟨(h.fresh hs ho).1, hblank (h.fresh hs ho).2⟩
  offering := fun hs ho => by
    rw [hexchange] at ho ⊢
    exact ⟨(h.offering hs ho).1, hopen (h.offering hs ho).2⟩

/-- The same for all sessions at once. -/
theorem Sound.of_mapSessions {state : ConnectionState} {mode mode' : Mode} {call : Call}
    {f : MediaSession → MediaSession} (h : Sound config ⟨state, mode, call⟩)
    (hsetup : ∀ s, (f s).setup = s.setup) (hblank : ∀ s, s.IsBlank → (f s).IsBlank)
    (hopen : ∀ s, (f s).isOpen = s.isOpen) :
    Sound config ⟨state, mode', call.mapSessions f⟩ := by
  refine h.of_sessions (Call.setup_mapSessions hsetup) rfl (fun hb s hs => ?_) fun ho s hs => ?_
  · obtain ⟨t, ht, rfl⟩ := Call.mem_sessions_mapSessions.1 hs
    exact hblank t (hb t ht)
  · obtain ⟨t, ht, rfl⟩ := Call.mem_sessions_mapSessions.1 hs
    exact (hopen t).trans (ho t ht)

/-- The same for one session. -/
theorem Sound.of_withSession {state : ConnectionState} {mode : Mode} {call : Call}
    {m : MediaType} {s s' : MediaSession} (h : Sound config ⟨state, mode, call⟩)
    (hs : call.session? m = some s) (hsetup : s'.setup = s.setup)
    (hblank : s.IsBlank → s'.IsBlank) (hopen : s'.isOpen = s.isOpen) :
    Sound config ⟨state, mode, call.withSession s'⟩ := by
  have hmem : s ∈ call.sessions := Call.mem_of_session? hs
  refine h.of_sessions (Call.setup_withSession (Call.holds_of_session? h.isSeated hs hsetup))
    (Call.exchange_withSession s') (fun hb t ht => ?_) fun ho t ht => ?_
  · rcases Call.mem_sessions_withSession ht with rfl | ht
    · exact hblank (hb s hmem)
    · exact hb t ht
  · rcases Call.mem_sessions_withSession ht with rfl | ht
    · exact hopen.trans (ho s hmem)
    · exact ho t ht

/-- Every step keeps calls sound. -/
theorem Sound.step (h : v.Sound config) (hs : Step n v v') : v'.Sound config := by
  cases hs with
  | @bind mode call numbering cname =>
    refine ⟨?_, fun h => by simp at h, fun _ _ => ⟨rfl, fun s => Call.isBlank_renew⟩,
      fun _ h => by simp [Call.renew] at h⟩
    rw [Call.setup_renew]
    exact h.setup
  | «open» => exact .of_opened h.setup _
  | finish => exact .of_closed h.setup _
  | @setMode state old call mode hbound =>
    exact h.of_mapSessions (fun _ => rfl) (fun s hb => hb.updateMode mode) fun _ => rfl
  | @offer mode call w ports browser description call' ports' _ hm =>
    have hsetup := Call.setup_makeOffer h.isSeated w ports browser
    obtain ⟨hopen, hout, hlocal⟩ := Call.makeOffer_ok h.isSeated hm
    rw [hm] at hsetup
    refine ⟨?_, fun h => by simp at h, fun _ ho => ?_, fun _ _ => ⟨by simp [hlocal], hopen⟩⟩
    · rw [hsetup]
      exact h.setup
    · simp [hout] at ho
  | @offerFailed mode call w ports browser e call' ports' _ hm =>
    have hsetup := Call.setup_makeOffer h.isSeated w ports browser
    rw [hm] at hsetup
    exact .of_closed (hsetup ▸ h.setup) _
  | @answer mode call w ports text description call' ports' _ hm =>
    have hsetup := Call.setup_answerOffer h.isSeated w ports text
    rw [hm] at hsetup
    exact .of_opened (hsetup ▸ h.setup) _
  | @answerFailed mode call w ports text e call' ports' _ hm =>
    have hsetup := Call.setup_answerOffer h.isSeated w ports text
    rw [hm] at hsetup
    exact .of_closed (hsetup ▸ h.setup) _
  | @accept mode call w text call' _ hm =>
    have hsetup := Call.setup_applyAnswer h.isSeated w text
    rw [hm] at hsetup
    exact .of_opened (hsetup ▸ h.setup) _
  | @acceptFailed mode call w text e call' _ hm =>
    have hsetup := Call.setup_applyAnswer h.isSeated w text
    rw [hm] at hsetup
    exact .of_closed (hsetup ▸ h.setup) _
  | @poll state mode call metrics now r call' metrics' hbound hp =>
    have hsetup := Call.setup_pollSessions (fun s hs => Call.holds_of_mem h.isSeated hs) now metrics
    have hexchange := Call.exchange_pollSessions now call.sessions call metrics
    simp only [Call.poll] at hp
    rw [hp] at hsetup hexchange
    refine h.of_sessions hsetup hexchange (fun hb => ?_) fun ho => ?_
    · rw [Call.pollSessions_of_closed fun s hs => (hb s hs).isOpen] at hp
      obtain rfl : call = call' := (Prod.mk.inj (Prod.mk.inj hp).2).1
      exact hb
    · have := Call.isOpen_pollSessions ho now call.sessions metrics
      rwa [hp] at this
  | @play state mode call now =>
    exact h.of_mapSessions (fun s => MediaSession.setup_drain s now)
      (fun s hb => hb.drain now) fun s => MediaSession.isOpen_of_localRtp (s.localRtp_drain now)
  | @transmit state mode call media s metrics network now p overflow r s' metrics' hs ht =>
    have hsetup := MediaSession.setup_transmit s metrics network now p overflow
    have hopen := MediaSession.isOpen_of_localRtp
      (s.localRtp_transmit metrics network now p overflow)
    rw [ht] at hsetup hopen
    refine h.of_withSession hs hsetup (fun hb => ?_) hopen
    have := hb.transmit metrics network now p overflow
    rwa [ht] at this
  | @arrive state mode call media s a hs =>
    exact h.of_withSession hs rfl (fun hb => hb.deliver a)
      (MediaSession.isOpen_of_localRtp (s.localRtp_deliver a))
  | installSink sink => exact ⟨h.setup, h.idle, h.fresh, h.offering⟩

end CallView

namespace Gateway

variable {g g' : Gateway}

/-! ## Soundness -/

/-- All calls are sound. -/
def CallsSound (g : Gateway) : Prop := ∀ k v, g.view? k = some v → v.Sound g.config

theorem sound_newCall (g : Gateway) (id : UInt32) (mode : Mode) :
    CallView.Sound g.config ⟨.null, mode, g.newCall id⟩ where
  setup := by
    refine ⟨id, ?_⟩
    simp only [Call.setup, newCall, GatewayConfig.callSetup, GatewayConfig.session?, Option.map_map]
    rfl
  idle := fun _ s hs => by
    rcases Call.mem_sessions.1 hs with rfl | hs
    · exact MediaSession.isBlank_make _ _ _
    · simp only [newCall, Option.mem_def, Option.map_eq_some_iff] at hs
      obtain ⟨config, -, rfl⟩ := hs
      exact MediaSession.isBlank_make _ _ _
  fresh := fun h => by simp at h
  offering := fun h => by simp at h

theorem CallsSound.piece (h : g.CallsSound) (hp : Piece g g') : g'.CallsSound := by
  intro k v' hv
  rw [hp.config]
  rcases hp.view hv with ⟨v, hold, rfl | hs⟩ | ⟨id, rfl⟩
  · exact h k v hold
  · exact (h k v hold).step hs
  · exact sound_newCall g id .inactive

/-- After every run, all calls are sound. -/
theorem callsSound_run (config : GatewayConfig) (environment : Environment)
    (actions : List Action) : ((make config environment).run actions).CallsSound :=
  run_induction (I := CallsSound) (fun k v hv => by simp [view?, get?, make] at hv)
    (fun _ _ hp h => h.piece hp) fun _ _ _ h => h

end Gateway

end MediaGateway
