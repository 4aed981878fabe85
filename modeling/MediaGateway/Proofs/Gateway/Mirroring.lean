import MediaGateway.Proofs.Connection.Answer
import MediaGateway.Proofs.Gateway.OfferAnswer

/-!
# The answer mirrors the offer

Whatever a gateway has been through, a connection that answers an offer goes through its sections in
their order. Where the host has bound sockets at real ports all along, the sections that are accepted
are at real ports.
-/

namespace MediaGateway

namespace CallView

variable {n : Network} {v v' : CallView}

/-- Every step keeps a call at real ports. -/
theorem Step.realPorts (hs : Step n v v') (hn : n.BindsRealPorts) (h : v.call.IsAtRealPorts) :
    v'.call.IsAtRealPorts := by
  have hclosed (call : Call) : call.close.IsAtRealPorts := .of_blank fun _ => Call.isBlank_close
  cases hs with
  | bind numbering cname => exact .of_blank fun _ => Call.isBlank_renew
  | «open» => exact h
  | finish => exact hclosed _
  | setMode mode hbound => exact h.mapSessions fun _ => rfl
  | @offer mode call w ports browser description call' ports' hw hm =>
    have hmake := h.makeOffer (w := w) (hw ▸ hn) ports browser
    rwa [hm] at hmake
  | offerFailed hw hm => exact hclosed _
  | @answer mode call w ports text description call' ports' hw hm =>
    have hanswer := h.answerOffer (w := w) (hw ▸ hn) ports text
    rwa [hm] at hanswer
  | answerFailed hw hm => exact hclosed _
  | @accept mode call w text call' hw hm =>
    have hanswer := h.applyAnswer w text
    rwa [hm] at hanswer
  | acceptFailed hw hm => exact hclosed _
  | @poll state mode call metrics now r call' metrics' hbound hp =>
    have hpoll := h.pollSessions h now metrics
    simp only [Call.poll] at hp
    rwa [hp] at hpoll
  | play now => exact h.mapSessions fun s => s.localRtp_drain now
  | @transmit state mode call media s metrics network now p overflow r s' metrics' hs ht =>
    have hsent := (h s (Call.mem_of_session? hs)).congr
      (s.localRtp_transmit metrics network now p overflow)
    rw [ht] at hsent
    exact h.withSession hsent
  | @arrive state mode call media s a hs =>
    exact h.withSession ((h s (Call.mem_of_session? hs)).congr (s.localRtp_deliver a))
  | installSink sink => exact h

end CallView

namespace Gateway

variable {g g' : Gateway} {handle : Nat}

/-! ## Real ports -/

/-- The host binds sockets at real ports, and so are those of all calls. -/
structure HasRealPorts (g : Gateway) : Prop where
  network : g.environment.network.BindsRealPorts
  calls : ∀ k v, g.view? k = some v → v.call.IsAtRealPorts

theorem HasRealPorts.piece (h : g.HasRealPorts) (hp : Piece g g') : g'.HasRealPorts := by
  refine ⟨hp.environment ▸ h.network, fun k v' hv => ?_⟩
  rcases hp.view hv with ⟨v, hold, rfl | hs⟩ | ⟨id, rfl⟩
  · exact h.calls k v hold
  · exact hs.realPorts h.network (h.calls k v hold)
  · exact .of_blank ((sound_newCall g id .inactive).idle rfl)

/-- On a host that binds sockets at real ports whatever is chosen at random, all calls are at real
ports. -/
theorem hasRealPorts_run (config : GatewayConfig) {environment : Environment}
    {actions : List Action}
    (h : ∀ e, e = environment ∨ .redraw e ∈ actions → e.network.BindsRealPorts) :
    ((make config environment).run actions).HasRealPorts :=
  run_induction ⟨h environment (.inl rfl), fun k v hv => by simp [view?, get?, make] at hv⟩
    (fun _ _ hp hg => hg.piece hp) fun _ e he hg => ⟨h e (.inr he), hg.calls⟩

/-! ## Answers -/

/-- An offer is answered by the call behind the connection. -/
theorem exists_answerOffer {text : String} {answer : Sdp.Description}
    (h : g.processOffer handle text = (.ok answer, g')) :
    ∃ c call generation call' ports,
      g.beginCall handle .processOffer = .ok (c, call, generation) ∧
      call.answerOffer (g.surroundings handle) g.ports text = (.ok answer, call', ports) := by
  simp only [processOffer] at h
  split at h
  · simp at h
  · rename_i c call generation hb
    split at h
    · simp at h
    · rename_i answer' call' ports ha
      rcases ho : (g.putCall handle call' ports).openConnection handle (some generation)
        with ⟨e | u, g₁⟩
      · simp [ho, Except.map] at h
      · simp only [ho, Except.map, Prod.mk.injEq, Except.ok.injEq] at h
        exact ⟨c, call, generation, call', ports, hb, h.1 ▸ ha⟩

/-- An offer is answered if its sections are. -/
theorem exists_processOffer {c : Connection} {call : Call} {generation : Nat} {text : String}
    {d : Sdp.Description}
    (hb : g.beginCall handle .processOffer = .ok (c, call, generation))
    (hread : Sdp.Description.ofText text = .ok d) (haudio : (d.sectionFor? .audio).isSome = true)
    (hsections : (Call.answerSections (g.surroundings handle) d d.media [] call.called
      g.ports).1.toOption.isSome = true) :
    ∃ answer g', g.processOffer handle text = (.ok answer, g') := by
  obtain ⟨m, hm⟩ := Option.isSome_iff_exists.1 haudio
  have hremote : Call.readRemote text = .ok (d, m) := by
    simp only [Call.readRemote, hread, hm]
  rcases hs : Call.answerSections (g.surroundings handle) d d.media [] call.called g.ports
    with ⟨e | ls, call', ports⟩
  · simp [hs, Except.toOption] at hsections
  · simp only [processOffer, hb, Call.answerOffer_eq, hremote, hs, openConnection,
      startOpen_putCall hb, conclude, Except.map]
    exact ⟨_, _, rfl⟩

/-- Whether the call behind a connection that waits can answer the sections of an offer. -/
def canAnswer (g : Gateway) (handle : Nat) (d : Sdp.Description) : Bool :=
  (g.callIn? handle .halfOpen).any fun call =>
    (Call.answerSections (g.surroundings handle) d d.media [] call.called g.ports).1.toOption.isSome

theorem exists_processOffer_of_canAnswer {text : String} {d : Sdp.Description}
    (h : g.canAnswer handle d = true) (hread : Sdp.Description.ofText text = .ok d)
    (haudio : (d.sectionFor? .audio).isSome = true) :
    ∃ answer g', g.processOffer handle text = (.ok answer, g') := by
  obtain ⟨call, hcall, hsome⟩ := (Option.any_eq_true _ _).1 h
  obtain ⟨c, hget, hcall, hstate, -⟩ := callIn?_eq_some hcall
  exact exists_processOffer (beginCall_of_halfOpen hget hcall hstate .processOffer) hread haudio hsome

/-- The answer mirrors the offer, in every state of a gateway and for every text that is answered as
an offer. It has a section for each offered one, in the same place and about the same medium. The
first open section about audio is accepted, the first open one about video may be, and all others are
refused as they were offered. A section that is accepted lists one offered format for media, and
after it at most one offered format for telephone events, under their offered numbers, and lets
control packets share the port of the media if that was offered. Its port is not zero if the host has
only bound sockets at real ports. -/
theorem answer_mirrors_offer (config : GatewayConfig) (environment : Environment)
    (actions : List Action) {text : String} {answer : Sdp.Description}
    (hok : ((make config environment).run actions).processOffer handle text = (.ok answer, g')) :
    ∃ d, Sdp.Description.ofText text = .ok d ∧ answer.Mirrors d ∧
      ((∀ e, e = environment ∨ .redraw e ∈ actions → e.network.BindsRealPorts) →
        ∀ (i : Nat) (m a : Sdp.MediaSection), d.media[i]? = some m → answer.media[i]? = some a →
          a.Accepts m → a.port ≠ 0) := by
  obtain ⟨c, call, generation, call', ports, hb, ha⟩ := exists_answerOffer hok
  obtain ⟨hc, hcall, -, -⟩ := beginCall_ok hb
  have hview : ((make config environment).run actions).view? handle =
      some ⟨c.life.state, c.life.mode, call⟩ := by
    simp [view?, hc, Connection.view?, hcall]
  have hseated := (callsSound_run config environment actions handle _ hview).isSeated
  obtain ⟨d, hd, hmirrors, hports⟩ := Call.mirrors_of_answerOffer hseated ha
  refine ⟨d, hd, hmirrors, fun hreal => ?_⟩
  have hg := hasRealPorts_run config hreal
  exact hports hg.network (hg.calls handle _ hview)

/-- A host that gives a socket the port that was asked for, or else always the same one. -/
def obligingHost : Environment :=
  { Environment.isolated with network := { Network.isolated with
      assigned := fun _ _ requested =>
        ⟨requested.ip, if requested.port = 0 then 40000 else requested.port⟩ } }

/-- An offer of data, of audio that is off, of audio and video, and of audio again. -/
def mixedOffer : Sdp.Description where
  origin := .make "1" "192.0.2.1"
  sessionName := "-"
  connection := some (.make "192.0.2.1")
  media := [
    { media := "application", port := 9, protocol := "DTLS/SCTP", formats := ["webrtc-datachannel"] },
    { media := "audio", port := 0, protocol := "RTP/AVP", formats := ["0"] },
    { media := "audio", port := 4000, protocol := "RTP/AVP", formats := ["115", "108", "101"]
      rtpmaps := [.make 108 "x" 8000, .make 101 "telephone-event" 8000] },
    { media := "video", port := 4002, protocol := "RTP/AVP", formats := ["97"]
      rtpmaps := [.make 97 "y" 90000], rtcpMux := true },
    { media := "audio", port := 4004, protocol := "RTP/AVP", formats := ["0"] }]

/-- The answer to such an offer mirrors it, and the third section is accepted, at a real port. -/
theorem answer_mirrors_offer_of_five_sections :
    let g := (make oneFormatEach obligingHost).run [.create .rtp, .bind 0]
    ∃ answer g', g.processOffer 0 mixedOffer.text = (.ok answer, g') ∧ answer.Mirrors mixedOffer ∧
      ∃ m a, mixedOffer.media[2]? = some m ∧ answer.media[2]? = some a ∧ a.Accepts m ∧
        a.port ≠ 0 := by
  intro g
  have hread : Sdp.Description.ofText mixedOffer.text = .ok mixedOffer := by
    rw [Sdp.Description.ofText_text_eq]
    refine ok_of_toOption ?_
    decide +kernel
  have hanswers : g.canAnswer 0 mixedOffer = true := by
    decide +kernel
  obtain ⟨answer, g', hok⟩ := exists_processOffer_of_canAnswer hanswers hread (by decide +kernel)
  have hreal : ∀ e, e = obligingHost ∨ .redraw e ∈ ([.create .rtp, .bind 0] : List Action) →
      e.network.BindsRealPorts := by
    rintro e (rfl | he)
    · intro seat channel requested
      simp only [obligingHost]
      split
      · decide
      · assumption
    · simp at he
  obtain ⟨d, hd, hmirrors, hports⟩ := answer_mirrors_offer oneFormatEach obligingHost
    [.create .rtp, .bind 0] hok
  obtain rfl : mixedOffer = d := Except.ok.inj (hread.symm.trans hd)
  have hfirst : mixedOffer.IsFirst .audio 2 := by
    show mixedOffer.media.findIdx? _ = some 2
    decide +kernel
  have hin : 2 < answer.media.length := by
    rw [hmirrors.length]
    decide
  refine ⟨answer, g', hok, hmirrors, _, _, rfl, List.getElem?_eq_getElem hin, ?_⟩
  rcases hmirrors.sections 2 _ _ rfl (List.getElem?_eq_getElem hin) with ⟨haccepts, -⟩ | ⟨-, hnot⟩
  · exact ⟨haccepts, hports hreal 2 _ _ rfl (List.getElem?_eq_getElem hin) haccepts⟩
  · exact absurd hfirst hnot

end Gateway

end MediaGateway
