import MediaGateway.Proofs.Gateway.Modes

/-!
# Directions of answers

The direction in an answer has to suit the offered one. Whoever answers may send only what the other
side is ready to receive, and may expect only what the other side sends. `Mode.reversed` is the
answer by which as much flows as was offered; less may flow, and if both ways were offered, anything
may.

A connection puts its own mode into an answer, whatever was offered. So whether the answer suits the
offer is decided before the offer is read: `suits_iff` lists the modes that suit a direction.
-/

namespace MediaGateway

/-! ## Directions that suit each other -/

/-- An answered direction suits an offered one. -/
structure Mode.Suits (answered offered : Mode) : Prop where
  sends : answered.sends = true → offered.receives = true
  receives : answered.receives = true → offered.sends = true

namespace Mode

instance (answered offered : Mode) : Decidable (answered.Suits offered) :=
  decidable_of_iff ((answered.sends = true → offered.receives = true) ∧
    (answered.receives = true → offered.sends = true))
    ⟨fun h => ⟨h.1, h.2⟩, fun h => ⟨h.sends, h.receives⟩⟩

theorem suits_reversed (offered : Mode) : offered.reversed.Suits offered where
  sends := by simp
  receives := by simp

/-- Nothing, as much as was offered, and anything where all was offered: no other direction suits. -/
theorem suits_iff {answered offered : Mode} :
    answered.Suits offered ↔
      answered = .inactive ∨ answered = offered.reversed ∨ offered = .sendRecv := by
  constructor
  · cases answered <;> cases offered <;> decide
  · rintro (rfl | rfl | rfl)
    · exact ⟨nofun, nofun⟩
    · exact suits_reversed offered
    · exact ⟨fun _ => rfl, fun _ => rfl⟩

end Mode

namespace Gateway

variable {g g' : Gateway} {handle : Nat}

/-! ## Answers of a gateway -/

theorem mirrors_of_processOffer (h : g.CallsSound) {text : String} {answer : Sdp.Description}
    (hok : g.processOffer handle text = (.ok answer, g')) :
    ∃ d, Sdp.Description.ofText text = .ok d ∧ answer.Mirrors d := by
  obtain ⟨c, call, generation, call', ports, hb, ha⟩ := exists_answerOffer hok
  obtain ⟨d, hd, hmirrors, -⟩ :=
    Call.mirrors_of_answerOffer (h handle _ (view?_of_beginCall hb)).isSeated ha
  exact ⟨d, hd, hmirrors⟩

/-- Every section that is not refused is answered with the mode of the connection. -/
theorem effectiveDirection_of_processOffer (h : g.ModesCohere) {c : Connection}
    (hc : g.get? handle = some c) {text : String} {answer : Sdp.Description}
    (hok : g.processOffer handle text = (.ok answer, g')) :
    ∃ d, Sdp.Description.ofText text = .ok d ∧
      ∀ (i : Nat) (m a : Sdp.MediaSection), d.media[i]? = some m → answer.media[i]? = some a →
        ¬a.Refuses m → answer.effectiveDirection a = c.life.mode := by
  obtain ⟨d, hd, hdirections⟩ := directions_of_processOffer h hc (congrArg Prod.fst hok)
  refine ⟨d, hd, fun i m a hm ha hnot => ?_⟩
  rw [Sdp.Description.effectiveDirection, hdirections i m a hm ha hnot]
  rfl

/-- The answer of a gateway after any run mirrors the offer, and the direction of every section that
it does not refuse is the mode of the connection. So that direction suits the one that was offered,
there or for the whole description, exactly if the connection is inactive, or its mode is the reverse
of the offered direction, or both ways were offered. -/
theorem answered_direction_suits_iff (config : GatewayConfig) (environment : Environment)
    (actions : List Action) {text : String} {answer : Sdp.Description}
    (hok : ((make config environment).run actions).processOffer handle text = (.ok answer, g')) :
    ∃ c d, ((make config environment).run actions).get? handle = some c ∧
      Sdp.Description.ofText text = .ok d ∧ answer.Mirrors d ∧
      ∀ (i : Nat) (m a : Sdp.MediaSection), d.media[i]? = some m → answer.media[i]? = some a →
        ¬a.Refuses m →
        answer.effectiveDirection a = c.life.mode ∧
        ((answer.effectiveDirection a).Suits (d.effectiveDirection m) ↔
          c.life.mode = .inactive ∨ c.life.mode = (d.effectiveDirection m).reversed ∨
            d.effectiveDirection m = .sendRecv) := by
  have hmodes := modesCohere_run config environment actions
  obtain ⟨c, call, generation, call', ports, hb, -⟩ := exists_answerOffer hok
  obtain ⟨hc, -⟩ := beginCall_ok hb
  obtain ⟨d, hd, hmirrors⟩ := mirrors_of_processOffer hmodes.sound hok
  obtain ⟨d', hd', hdirections⟩ := effectiveDirection_of_processOffer hmodes hc hok
  obtain rfl : d = d' := Except.ok.inj (hd.symm.trans hd')
  refine ⟨c, d, hc, hd, hmirrors, fun i m a hm ha hnot => ?_⟩
  have hmode := hdirections i m a hm ha hnot
  exact ⟨hmode, hmode ▸ Mode.suits_iff⟩

/-- Audio from someone who only listens, and video both ways. -/
def listenerOffer : Sdp.Description where
  origin := .make "1" "192.0.2.1"
  sessionName := "-"
  connection := some (.make "192.0.2.1")
  direction := some .recvOnly
  media := [
    { media := "audio", port := 4000, protocol := "RTP/AVP", formats := ["108"]
      rtpmaps := [.make 108 "x" 8000] },
    { media := "video", port := 4002, protocol := "RTP/AVP", formats := ["97"]
      rtpmaps := [.make 97 "y" 90000], direction := some .sendRecv }]

/-- A gateway with a connection that waits in a mode. -/
def waitingIn (mode : Mode) : Gateway :=
  (make oneFormatEach obligingHost).run [.create .rtp, .bind 0, .setMode 0 mode]

theorem ofText_listenerOffer : Sdp.Description.ofText listenerOffer.text = .ok listenerOffer := by
  rw [Sdp.Description.ofText_text_eq]
  refine ok_of_toOption ?_
  decide +kernel

/-- In every mode such an offer is answered, and the audio accepted. -/
theorem exists_answer_listenerOffer (mode : Mode) :
    ∃ answer g' a, (waitingIn mode).processOffer 0 listenerOffer.text = (.ok answer, g') ∧
      answer.media[0]? = some a ∧ ¬a.Refuses listenerOffer.media[0] := by
  have hread := ofText_listenerOffer
  have hanswers : (waitingIn mode).canAnswer 0 listenerOffer = true := by
    cases mode <;> decide +kernel
  obtain ⟨answer, g', hok⟩ := exists_processOffer_of_canAnswer hanswers hread (by decide +kernel)
  obtain ⟨d, hd, hmirrors⟩ := mirrors_of_processOffer
    (callsSound_run oneFormatEach obligingHost [.create .rtp, .bind 0, .setMode 0 mode]) hok
  obtain rfl : listenerOffer = d := Except.ok.inj (hread.symm.trans hd)
  have hfirst : listenerOffer.IsFirst .audio 0 := by
    show listenerOffer.media.findIdx? _ = some 0
    decide +kernel
  have hin : 0 < answer.media.length := by
    rw [hmirrors.length]
    decide
  refine ⟨answer, g', _, hok, List.getElem?_eq_getElem hin, fun hrefuses => ?_⟩
  rcases hmirrors.sections 0 _ _ rfl (List.getElem?_eq_getElem hin) with ⟨haccepts, -⟩ | ⟨-, hnot⟩
  · exact hrefuses.not_accepts haccepts
  · exact hnot hfirst

theorem mode_waitingIn {mode : Mode} {c : Connection} (hc : (waitingIn mode).get? 0 = some c) :
    c.life.mode = mode := by
  have hmode : ((waitingIn mode).get? 0).map (·.life.mode) = some mode := by
    cases mode <;> decide +kernel
  rw [hc] at hmode
  exact Option.some.inj hmode

/-- A connection that only sends gives whoever only listens the answer that suits. -/
theorem answered_direction_suits_iff_of_sender :
    ∃ answer g' a, (waitingIn .sendOnly).processOffer 0 listenerOffer.text = (.ok answer, g') ∧
      answer.media[0]? = some a ∧ answer.effectiveDirection a = .sendOnly ∧
      (answer.effectiveDirection a).Suits (listenerOffer.effectiveDirection listenerOffer.media[0]) := by
  obtain ⟨answer, g', a, hok, ha, hnot⟩ := exists_answer_listenerOffer .sendOnly
  obtain ⟨c, d, hc, hd, -, hsections⟩ := answered_direction_suits_iff oneFormatEach obligingHost
    [.create .rtp, .bind 0, .setMode 0 .sendOnly] hok
  obtain rfl : listenerOffer = d := Except.ok.inj (ofText_listenerOffer.symm.trans hd)
  obtain ⟨hmode, hsuits⟩ := hsections 0 _ a rfl ha hnot
  have hwaits : c.life.mode = .sendOnly := mode_waitingIn hc
  exact ⟨answer, g', a, hok, ha, hmode.trans hwaits, hsuits.2 (.inr (.inl hwaits))⟩

/-- A connection with both directions answers whoever only listens that it will receive, too. -/
theorem listener_is_answered_both_ways :
    ∃ answer g' a, (waitingIn .sendRecv).processOffer 0 listenerOffer.text = (.ok answer, g') ∧
      answer.media[0]? = some a ∧ ¬a.Refuses listenerOffer.media[0] ∧
      answer.effectiveDirection a = .sendRecv ∧
      listenerOffer.effectiveDirection listenerOffer.media[0] = .recvOnly ∧
      ¬(answer.effectiveDirection a).Suits
        (listenerOffer.effectiveDirection listenerOffer.media[0]) := by
  obtain ⟨answer, g', a, hok, ha, hnot⟩ := exists_answer_listenerOffer .sendRecv
  obtain ⟨c, call, generation, call', ports, hb, -⟩ := exists_answerOffer hok
  obtain ⟨hc, -⟩ := beginCall_ok hb
  obtain ⟨d, hd, hdirections⟩ := effectiveDirection_of_processOffer
    (modesCohere_run oneFormatEach obligingHost [.create .rtp, .bind 0, .setMode 0 .sendRecv]) hc hok
  obtain rfl : listenerOffer = d := Except.ok.inj (ofText_listenerOffer.symm.trans hd)
  have hmode : answer.effectiveDirection a = .sendRecv :=
    (hdirections 0 _ a rfl ha hnot).trans (mode_waitingIn hc)
  refine ⟨answer, g', a, hok, ha, hnot, hmode, rfl, ?_⟩
  rw [hmode]
  decide

end Gateway

end MediaGateway
