import MediaGateway.Proofs.Connection.Call
import MediaGateway.Proofs.Session.Answer

/-!
# The ports of a call

A session gets its port from the host when it is opened and keeps it. So on a host that binds sockets
at real ports, the sessions of a call are at real ports, whatever the call has been through.
-/

namespace MediaGateway.Call

variable {c : Call} {w : Surroundings}

/-- The sessions that are open are at real ports. -/
def IsAtRealPorts (c : Call) : Prop := ∀ s ∈ c.sessions, s.IsAtRealPort

namespace IsAtRealPorts

theorem withSession (h : c.IsAtRealPorts) {s : MediaSession} (hs : s.IsAtRealPort) :
    (c.withSession s).IsAtRealPorts := by
  intro t ht
  rcases mem_sessions_withSession ht with rfl | ht
  · exact hs
  · exact h t ht

theorem mapSessions (h : c.IsAtRealPorts) {f : MediaSession → MediaSession}
    (hf : ∀ s, (f s).localRtp = s.localRtp) : (c.mapSessions f).IsAtRealPorts := by
  intro t ht
  obtain ⟨s, hs, rfl⟩ := mem_sessions_mapSessions.1 ht
  exact (h s hs).congr (hf s)

theorem of_blank (h : ∀ s ∈ c.sessions, s.IsBlank) : c.IsAtRealPorts :=
  fun s hs => .of_transport (h s hs).transport

section Exchange

variable (hw : w.host.network.BindsRealPorts)

include hw

theorem offerSessions {ss : List MediaSession} (h : c.IsAtRealPorts)
    (hss : ∀ s ∈ ss, s.IsAtRealPort) (browser : Bool) (ports : PortRange) :
    (offerSessions w browser ss c ports).2.1.IsAtRealPorts := by
  induction ss generalizing c ports with
  | nil => exact h
  | cons s rest ih =>
    obtain ⟨hs, hrest⟩ := List.forall_mem_cons.1 hss
    have hp := hs.prepareOffer (w := c.around w) hw ports browser
    simp only [Call.offerSessions]
    rcases he : s.prepareOffer (c.around w) ports browser with ⟨_ | l, s', ports'⟩
    · rw [he] at hp
      exact h.withSession hp
    · rw [he] at hp
      have hr := ih (h.withSession hp) hrest ports'
      simp only
      split <;> simp_all

theorem makeOffer (h : c.IsAtRealPorts) (ports : PortRange) (browser : Bool) :
    (c.makeOffer w ports browser).2.1.IsAtRealPorts := by
  have hs := offerSessions hw (c := c.calling) h h browser ports
  rw [makeOffer_eq]
  split
  · simp_all
  · rename_i ls c₁ ports₁ ho
    rw [ho] at hs
    exact hs

theorem answerSections (h : c.IsAtRealPorts) (d : Sdp.Description) (ms : List Sdp.MediaSection)
    (answered : List MediaType) (ports : PortRange) :
    (answerSections w d ms answered c ports).2.1.IsAtRealPorts := by
  induction ms generalizing answered c ports with
  | nil => exact h
  | cons m rest ih =>
    rw [Call.answerSections]
    cases hs : (answeredMedium? answered m).bind c.session? with
    | none => exact ih h _ _
    | some s =>
      obtain ⟨k, -, hk⟩ := Option.bind_eq_some_iff.1 hs
      have hp := (h s (mem_of_session? hk)).prepareAnswer (w := c.around w) hw ports d m
      rcases he : s.prepareAnswer (c.around w) ports d m with ⟨e | l, s', ports'⟩
      · rw [he] at hp
        simp only [he]
        split
        · exact ih (h.withSession (.of_transport rfl)) _ _
        · exact h.withSession hp
      · rw [he] at hp
        simp only [he]
        exact ih (h.withSession hp) _ _

theorem answerOffer (h : c.IsAtRealPorts) (ports : PortRange) (text : String) :
    (c.answerOffer w ports text).2.1.IsAtRealPorts := by
  rw [answerOffer_eq]
  rcases readRemote text with e | ⟨d, m⟩
  · exact h
  · have hs := answerSections hw (c := c.called) h d d.media [] ports
    simp only
    split
    · simp_all
    · rename_i ls c₁ ports₁ ha
      rw [ha] at hs
      exact hs

end Exchange

theorem connectVideo (h : c.IsAtRealPorts) (w : Surroundings) (d : Sdp.Description) :
    (c.connectVideo w d).2.IsAtRealPorts := by
  simp only [Call.connectVideo]
  cases hv : c.video with
  | none => exact h
  | some s =>
    have hs : s.IsAtRealPort := h s (mem_of_session? (m := .video) hv)
    cases d.sectionFor? .video with
    | none => exact h.withSession (.of_transport rfl)
    | some m =>
      have hc := hs.congr (s.localRtp_connect (c.around w) d m)
      simp only
      rcases he : s.connect (c.around w) d m with ⟨e | u, s'⟩
      · rw [he] at hc
        simp only
        split
        · exact h.withSession (.of_transport rfl)
        · exact h.withSession hc
      · rw [he] at hc
        exact h.withSession hc

theorem applyAnswer (h : c.IsAtRealPorts) (w : Surroundings) (text : String) :
    (c.applyAnswer w text).2.IsAtRealPorts := by
  simp only [Call.applyAnswer]
  rcases readRemote text with e | ⟨d, m⟩
  · exact h
  · have hc := (h c.audio (mem_sessions.2 (.inl rfl))).congr
      (c.audio.localRtp_connect (c.around w) d m)
    simp only
    rcases he : c.audio.connect (c.around w) d m with ⟨e | u, s'⟩
    · rw [he] at hc
      exact h.withSession hc
    · rw [he] at hc
      have hv := (h.withSession hc).connectVideo w d
      simp only
      rcases hcv : (c.withSession s').connectVideo w d with ⟨e | u, c'⟩
      · rw [hcv] at hv
        exact hv
      · rw [hcv] at hv
        exact hv

theorem pollSessions {ss : List MediaSession} (h : c.IsAtRealPorts)
    (hss : ∀ s ∈ ss, s.IsAtRealPort) (now : Nat) (m : Metrics) :
    (pollSessions now ss c m).2.1.IsAtRealPorts := by
  induction ss generalizing c m with
  | nil => exact h
  | cons s rest ih =>
    obtain ⟨hs, hrest⟩ := List.forall_mem_cons.1 hss
    have hp := hs.congr (s.localRtp_poll m now)
    simp only [Call.pollSessions]
    split
    · rcases he : s.poll m now with ⟨_ | n, s', m'⟩
      · rw [he] at hp
        exact h.withSession hp
      · rw [he] at hp
        have hr := ih (h.withSession hp) hrest m'
        simp only
        split <;> simp_all
    · exact ih h hrest m

end IsAtRealPorts

/-- What sessions contribute to an answer are sections at real ports. -/
theorem Answers.realPorts {d : Sdp.Description} {ms : List Sdp.MediaSection}
    {answered : List MediaType} {ports ports' : PortRange} {ls : List (Option Sdp.LocalMedia)}
    {c' : Call} (ha : Answers w d ms answered c ports ls c' ports')
    (hw : w.host.network.BindsRealPorts) (h : c.IsAtRealPorts) :
    ∀ l, some l ∈ ls → l.rtpAddress.port ≠ 0 := by
  induction ha with
  | nil => simp
  | skip hs _ ih =>
    intro l hl
    exact ih h l (by simpa using hl)
  | @accept m rest answered c ports ls c' ports' s l s' ports₁ hs hp _ ih =>
    obtain ⟨k, -, hk⟩ := Option.bind_eq_some_iff.1 hs
    have hs' := (h s (mem_of_session? hk)).prepareAnswer (w := c.around w) hw ports d m
    rw [hp] at hs'
    intro l' hl'
    rcases List.mem_cons.1 hl' with heq | hrest
    · obtain rfl := Option.some.inj heq
      exact hs' _ (MediaSession.takes_of_prepareAnswer hp).2.2
    · exact ih (h.withSession hs') l' hrest
  | refuse _ _ _ _ _ ih =>
    intro l hl
    exact ih (h.withSession (.of_transport rfl)) l (by simpa using hl)

end MediaGateway.Call
