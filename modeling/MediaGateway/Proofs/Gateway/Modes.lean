import MediaGateway.Proofs.Gateway.Coherence
import MediaGateway.Proofs.Gateway.Front
import MediaGateway.Proofs.Gateway.Mirroring
import MediaGateway.Proofs.Gateway.Offers

/-!
# What the mode of a connection decides

The mode of a connection decides what is played of its call, what is sent, and what its descriptions
say. Here this is followed from setting the mode to where frames, packets and descriptions leave the
gateway.
-/

namespace MediaGateway

namespace Call

variable {c : Call}

theorem withSession_self (h : c.setup.IsSeated) {m : MediaType} {s : MediaSession}
    (hs : c.session? m = some s) : c.withSession s = c := by
  have hm : s.media = m := media_of_session? h hs
  simp only [withSession, hm]
  cases m with
  | audio =>
    obtain rfl : c.audio = s := Option.some.inj hs
    rfl
  | video =>
    have hv : c.video = some s := hs
    simp only [hv, Option.map_some]
    rw [← hv]
  | application => rfl

/-- Only sessions that receive play frames. -/
theorem receives_of_mem_play {now : Nat} {f : MediaType × Frame} (hf : f ∈ (c.play now).1) :
    ∃ s ∈ c.sessions, s.media = f.1 ∧ s.mode.receives = true := by
  obtain ⟨s, hs, hf⟩ := List.mem_flatMap.1 hf
  obtain ⟨frame, hframe, rfl⟩ := List.mem_map.1 hf
  refine ⟨s, hs, rfl, ?_⟩
  by_contra hr
  simp [MediaSession.drain, hr] at hframe

end Call

namespace Gateway

variable {g g' : Gateway} {handle : Nat} {v : CallView}

/-! ## Playing -/

/-- What lasts through media lasts through polling. -/
theorem sessions_pollMedia {P : MediaSession → Prop}
    (hP : MediaSession.LastsThrough SessionCall.streams P) (hv : g.view? handle = some v)
    (hall : ∀ s ∈ v.call.sessions, P s) {n : Nat} (hok : g.pollMedia handle = (.ok n, g')) :
    ∀ v', g'.view? handle = some v' → ∀ s ∈ v'.call.sessions, P s := by
  intro v' hv'
  obtain ⟨c, hc, hview⟩ := Option.bind_eq_some_iff.1 hv
  obtain ⟨-, -, hcall⟩ := view?_of_get? hc hv
  simp only [pollMedia, hc, hcall] at hok
  split at hok
  · obtain rfl := (Prod.mk.inj hok).2
    obtain rfl := Option.some.inj (hv.symm.trans hv')
    exact hall
  · split at hok
    · simp at hok
    · rename_i k call' metrics hp
      have hkept := (Call.Keeps.poll hP ⟨hall, rfl⟩ g.metrics g.now).sessions
      rw [hp] at hkept
      have hpolled : ChangesView g { g.modifyCall handle fun _ => call' with metrics } handle _ :=
        (ChangesView.modifyCall fun _ => call').and_connections rfl
      have hg' : ChangesView g g' handle fun v => { v with call := call' } := by
        rw [← (Prod.mk.inj hok).2]
        split
        · exact hpolled.trans .refresh
        · exact hpolled
      rw [hg' handle, if_pos rfl, hv] at hv'
      rw [← Option.some.inj hv']
      exact hkept

/-- What is played of the call of a connection: the frames are handed to its sink, and are all of
sessions that receive. -/
def Plays (g : Gateway) (handle : Nat) (call : Call) (frames : List (MediaType × Frame)) : Prop :=
  (∀ n, (g.pump handle).1 = .ok n → n = frames.length) ∧
    (g.pump handle).2.sinks = (g.fillSink call.sink frames).sinks ∧
    ∀ f ∈ frames, ∃ s, call.session? f.1 = some s ∧ s.mode.receives = true

theorem sinks_fillSink_nil (g : Gateway) (sink : Option Nat) : (g.fillSink sink []).sinks = g.sinks := by
  unfold fillSink
  split
  · rfl
  · have hid : (fun s : Sink => if s.attached then { s with frames := s.frames ++ [] } else s) = id := by
      funext s
      simp
    simp only [hid, List.modify_id]

theorem sinks_fillSink_congr (h : g'.sinks = g.sinks) (sink : Option Nat)
    (frames : List (MediaType × Frame)) :
    (g'.fillSink sink frames).sinks = (g.fillSink sink frames).sinks := by
  unfold fillSink
  split
  · exact h
  · simp only [h]

theorem exists_plays (hseated : v.call.setup.IsSeated) (hv : g.view? handle = some v) :
    ∃ frames, g.Plays handle v.call frames := by
  obtain ⟨c, hc, -⟩ := Option.bind_eq_some_iff.1 hv
  obtain ⟨-, -, hcall⟩ := view?_of_get? hc hv
  have hworked := within_pollMedia g handle
  have hsinks : (g.pollMedia handle).2.sinks = g.sinks := congrArg Ground.sinks hworked.ground
  unfold Plays pump
  rcases hp : g.pollMedia handle with ⟨e | n, g₁⟩ <;> rw [hp] at hsinks hworked <;> simp only
  · exact ⟨[], by simp, by rw [sinks_fillSink_nil, hsinks], by simp⟩
  · cases hcall₁ : (g₁.get? handle).bind Connection.call? with
    | none =>
      refine ⟨[], fun k hk => ?_, by rw [sinks_fillSink_nil]; exact hsinks, by simp⟩
      simpa using hk.symm
    | some call₁ =>
      obtain ⟨c₁, hc₁, hcall₁⟩ := Option.bind_eq_some_iff.1 hcall₁
      obtain ⟨c₀, hc₀, hsame⟩ := hworked.exists_of_get? hc₁
      obtain rfl : c = c₀ := Option.some.inj (hc.symm.trans hc₀)
      have hsink : (call₁.play g₁.now).2.sink = v.call.sink := by
        have hsame := hsame.sink
        rwa [Connection.sink?, hcall₁, Connection.sink?, hcall] at hsame
      refine ⟨(call₁.play g₁.now).1, fun k hk => ?_, ?_, fun f hf => ?_⟩
      · exact (Except.ok.inj hk).symm
      · have hput : (g₁.modifyCall handle fun _ => (call₁.play g₁.now).2).sinks = g.sinks := hsinks
        simp only [hsink]
        exact sinks_fillSink_congr hput _ _
      · -- A session that receives after the poll received before it.
        let P (t : MediaSession) : Prop :=
          t.mode.receives = true → ∃ s, v.call.session? t.media = some s ∧ s.mode.receives = true
        have hP : MediaSession.LastsThrough SessionCall.streams P := by
          intro s call hcall h hr
          have hmedia : (s.perform call).media = s.media :=
            MediaSession.media_eq_of_setup (s.setup_perform call)
          rw [(MediaSession.KeepsMode.perform (.inr hcall)).mode] at hr
          exact hmedia ▸ h hr
        have hbefore : ∀ s ∈ v.call.sessions, P s :=
          fun s hs hr => ⟨s, Call.session?_of_mem hseated hs, hr⟩
        have hview₁ : g₁.view? handle = some ⟨c₁.life.state, c₁.life.mode, call₁⟩ := by
          simp [view?, hc₁, Connection.view?, hcall₁]
        obtain ⟨t, ht, hmedia, hr⟩ := Call.receives_of_mem_play hf
        rw [← hmedia]
        exact sessions_pollMedia hP hv hbefore hp _ hview₁ t ht hr

/-! ## Sending -/

theorem transmit_of_not_sends (hseated : v.call.setup.IsSeated) (hv : g.view? handle = some v)
    {media : MediaType} {s : MediaSession} (hs : v.call.session? media = some s)
    (hsends : s.mode.sends = false) (p : MediaSession.Payload) :
    g.transmit handle s p = (.ok (.ok none), g) := by
  obtain ⟨c, hc, -⟩ := Option.bind_eq_some_iff.1 hv
  obtain ⟨-, -, hcall⟩ := view?_of_get? hc hv
  have hsent : s.transmit g.metrics g.environment.network g.now p g.environment.overflow =
      (.ok (.ok none), s, g.metrics) := by
    simp [MediaSession.transmit, MediaSession.outgoing, hsends]
  have hsame : (g.modifyCall handle fun c => c.withSession s) = g := by
    have hid : g.modify handle id = g := by simp [modify]
    rw [modifyCall, modify_congr (v := id), hid]
    intro c₁ hc₁
    obtain rfl : c = c₁ := Option.some.inj (hc.symm.trans hc₁)
    have hleg := Connection.call?_eq_some.1 hcall
    simp only [hleg, Call.withSession_self hseated hs, id]
    rw [← hleg]
  simp only [transmit, hsent, hsame]

/-! ## Descriptions -/

/-- An offer that is made has the mode of the connection in all sections. -/
theorem directions_of_generateOffer (h : g.ModesCohere) (hnone : g.ownOffer? handle = none)
    {browser : Bool} {o : Sdp.Description} (hok : (g.generateOffer handle browser).1 = .ok o) :
    ∃ c, g.get? handle = some c ∧ ∀ m ∈ o.media, m.direction = some c.life.mode := by
  simp only [generateOffer] at hok
  cases hb : g.beginCall handle .generateOffer with
  | error e => simp [hb] at hok
  | ok begun =>
    obtain ⟨c, call, generation⟩ := begun
    have hv := view?_of_beginCall hb
    have hcached : (call.exchange.localDescription.filter fun _ => call.exchange.outbound) = none :=
      (ownOffer?_of_beginCall hb).symm.trans hnone
    simp only [hb, hcached] at hok
    rcases hm : call.makeOffer (g.surroundings handle) g.ports browser with ⟨e | offer, call', ports⟩
    · simp [hm] at hok
    · simp only [hm, Except.ok.injEq] at hok
      subst hok
      exact ⟨c, (beginCall_ok hb).1,
        Call.directions_of_makeOffer ((h.coherent handle _ hv).waiting (by simp)) hm⟩

theorem directions_of_processOffer (h : g.ModesCohere) {c : Connection}
    (hc : g.get? handle = some c) {text : String} {answer : Sdp.Description}
    (hok : (g.processOffer handle text).1 = .ok answer) :
    ∃ d, Sdp.Description.ofText text = .ok d ∧
      ∀ (i : Nat) (m a : Sdp.MediaSection), d.media[i]? = some m → answer.media[i]? = some a →
        ¬a.Refuses m → a.direction = some c.life.mode := by
  have hprocess : g.processOffer handle text = (.ok answer, (g.processOffer handle text).2) :=
    Prod.ext hok rfl
  obtain ⟨c₀, call, generation, call', ports, hb, ha⟩ := exists_answerOffer hprocess
  obtain ⟨hc₀, -⟩ := beginCall_ok hb
  obtain rfl : c = c₀ := Option.some.inj (hc.symm.trans hc₀)
  have hv := view?_of_beginCall hb
  exact (Call.modes_of_answerOffer (h.sound handle _ hv).isSeated
    ((h.coherent handle _ hv).waiting (by simp)) ha).2

/-! ## After every run -/

/-- What agrees with the mode of the connection `c` with a call, at a place of a gateway after a
run. -/
structure AgreesWithMode (config : GatewayConfig) (environment : Environment)
    (actions : List Action) (handle : Nat) (c : Connection) (call : Call) : Prop where
  /-- Every session that is open is in this mode. -/
  opened : ∀ s ∈ call.sessions, s.isOpen = true → s.mode = c.life.mode
  /-- An idle connection is inactive, and so are its sessions, which are closed. -/
  idle : c.life.state = .null → c.life.mode = .inactive ∧
    ∀ s ∈ call.sessions, s.isOpen = false ∧ s.mode = .inactive
  /-- Nothing waits to be played in a session that does not receive, -/
  hushed : ∀ s ∈ call.sessions, s.mode.receives = false → s.jitter.queue = []
  /-- and whatever has arrived for it, nothing is played of it. -/
  played : ∃ frames, ((make config environment).run actions).Plays handle call frames
  /-- A session that does not send, sends nothing. -/
  silent : ∀ media s p, call.session? media = some s → s.mode.sends = false →
    ((make config environment).run actions).transmit handle s p =
      (.ok (.ok none), (make config environment).run actions)
  /-- An offer that the connection gives was made at this request or an earlier one, and has the mode
  that the connection was in then as the direction of all its sections. -/
  offered : ∀ browser o,
    (((make config environment).run actions).generateOffer handle browser).1 = .ok o →
    ∃ past browser', past ++ [.generateOffer handle browser'] <+:
        actions ++ [.generateOffer handle browser] ∧
      Requested config environment handle o past browser' ∧
      ∃ c', ((make config environment).run past).get? handle = some c' ∧
        ∀ m ∈ o.media, m.direction = some c'.life.mode
  /-- An answer that the connection makes has its mode as the direction of all sections that it does
  not refuse. -/
  answered : ∀ text answer,
    (((make config environment).run actions).processOffer handle text).1 = .ok answer →
    ∃ d, Sdp.Description.ofText text = .ok d ∧
      ∀ (i : Nat) (m a : Sdp.MediaSection), d.media[i]? = some m → answer.media[i]? = some a →
        ¬a.Refuses m → a.direction = some c.life.mode

/-- Whatever is done to a gateway, the mode of every connection with a call agrees with the modes of
its sessions, with what waits in them and is played, with what is sent, and with the directions of
its offers and answers. -/
theorem modes_agree (config : GatewayConfig) (environment : Environment) (actions : List Action)
    {c : Connection} {call : Call}
    (hc : ((make config environment).run actions).get? handle = some c)
    (hcall : c.call? = some call) :
    AgreesWithMode config environment actions handle c call := by
  have hmodes := modesCohere_run config environment actions
  have hv : ((make config environment).run actions).view? handle =
      some ⟨c.life.state, c.life.mode, call⟩ := by
    simp [view?, hc, Connection.view?, hcall]
  have hsound := hmodes.sound handle _ hv
  have hcoherent := hmodes.coherent handle _ hv
  constructor
  case opened => exact hcoherent.opened
  case idle =>
    intro hnull
    have hinactive : c.life.mode = .inactive := hcoherent.idle hnull
    refine ⟨hinactive, fun s hs => ⟨(hsound.idle hnull s hs).isOpen, ?_⟩⟩
    rw [← hinactive]
    exact hcoherent.waiting (by simp [hnull]) s hs
  case hushed => exact hcoherent.hushed
  case played => exact exists_plays hsound.isSeated hv
  case silent => exact fun media s p hs hsends => transmit_of_not_sends hsound.isSeated hv hs hsends p
  case offered =>
    intro browser o hok
    obtain ⟨past, browser', hprefix, hmade⟩ := exists_request config environment hok
    exact ⟨past, browser', hprefix, hmade, directions_of_generateOffer
      (modesCohere_run config environment past) hmade.fresh hmade.made⟩
  case answered =>
    intro text answer hok
    exact directions_of_processOffer hmodes hc hok

/-- A connection that made an offer while it only received, and only sends by now, gives the old offer
again. -/
theorem modes_agree_of_old_offer :
    let actions : List Action := [.create .rtp, .bind 0, .setMode 0 .recvOnly,
      .generateOffer 0 false, .setMode 0 .sendOnly]
    ∃ c call o, ((make oneFormatEach obligingHost).run actions).get? 0 = some c ∧
      c.call? = some call ∧
      (((make oneFormatEach obligingHost).run actions).generateOffer 0 true).1 = .ok o ∧
      AgreesWithMode oneFormatEach obligingHost actions 0 c call ∧
      (∀ s ∈ call.sessions, s.mode = .sendOnly) ∧
      o.media.map Sdp.MediaSection.direction = [some .recvOnly, some .recvOnly] := by
  intro actions
  have hrun : (((make oneFormatEach obligingHost).run actions).get? 0).any (fun c =>
      c.call?.any fun call =>
        (((make oneFormatEach obligingHost).run actions).generateOffer 0 true).1.toOption.any fun o =>
          c.life.mode = .sendOnly ∧ call.sessions.all MediaSession.isOpen ∧
            o.media.map Sdp.MediaSection.direction = [some .recvOnly, some .recvOnly]) = true := by
    decide +kernel
  obtain ⟨c, hc, hrun⟩ := (Option.any_eq_true _ _).1 hrun
  obtain ⟨call, hcall, hrun⟩ := (Option.any_eq_true _ _).1 hrun
  obtain ⟨o, ho, hrun⟩ := (Option.any_eq_true _ _).1 hrun
  obtain ⟨hmode, hopen, hdirections⟩ := of_decide_eq_true hrun
  have hagrees := modes_agree oneFormatEach obligingHost actions hc hcall
  refine ⟨c, call, o, hc, hcall, ok_of_toOption ho, hagrees, fun s hs => ?_, hdirections⟩
  rw [hagrees.opened s hs (List.all_eq_true.1 hopen s hs), hmode]

end Gateway

end MediaGateway
