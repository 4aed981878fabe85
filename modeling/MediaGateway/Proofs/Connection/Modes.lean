import MediaGateway.Proofs.Connection.Answer
import MediaGateway.Proofs.Connection.Sessions
import MediaGateway.Proofs.Session.Modes

/-!
# Modes in descriptions

As long as all sessions of a call are in one mode, every section of an offer has it as its direction,
and so has every section of an answer that is no refusal. Those sessions that are closed because they
come to no agreement lose the mode; all that stay open keep it.
-/

namespace MediaGateway

variable {mode : Mode} {w : Surroundings} {ports ports' : PortRange}

theorem Sdp.Builder.direction_mediaSection (b : Builder) (offer : Bool) (cname : String)
    (l : LocalMedia) : (b.mediaSection offer cname l).direction = some l.mode := by
  rw [mediaSection_eq]
  rfl

namespace MediaSession

variable {s s' : MediaSession} {l : Sdp.LocalMedia}

/-- The session is in a mode if it is open. -/
def HasMode (mode : Mode) (s : MediaSession) : Prop := s.isOpen = true → s.mode = mode

theorem mode_localMedia {offer : Bool} (h : s.localMedia offer = .ok l) : l.mode = s.mode :=
  (contribution_of_localMedia h).2.1

theorem mode_of_prepareOffer {browser : Bool}
    (h : s.prepareOffer w ports browser = (.ok l, s', ports')) :
    s'.mode = s.mode ∧ l.mode = s.mode := by
  have hkept := (lastsThrough_mode s.mode).prepareOffer rfl w ports browser
  rw [h] at hkept
  refine ⟨hkept, ?_⟩
  simp only [prepareOffer] at h
  split at h
  · simp at h
  · split at h
    · simp at h
    · simp only [Prod.mk.injEq] at h
      obtain ⟨hl, rfl, -⟩ := h
      exact (mode_localMedia hl).trans hkept

theorem mode_of_prepareAnswer {d : Sdp.Description} {m : Sdp.MediaSection}
    (h : s.prepareAnswer w ports d m = (.ok l, s', ports')) :
    s'.mode = s.mode ∧ l.mode = s.mode := by
  have hkept := (lastsThrough_mode s.mode).prepareAnswer rfl w ports d m
  rw [h] at hkept
  refine ⟨hkept, ?_⟩
  simp only [prepareAnswer] at h
  split at h
  · simp at h
  · split at h
    · simp at h
    · split at h
      · simp at h
      · simp only [Prod.mk.injEq] at h
        obtain ⟨hl, rfl, -⟩ := h
        exact (mode_localMedia hl).trans hkept

end MediaSession

namespace Call

open MediaSession (HasMode)

variable {c c' : Call}

/-- All sessions of the call are in a mode. -/
def InMode (mode : Mode) (c : Call) : Prop := ∀ s ∈ c.sessions, s.mode = mode

/-! ## Offers -/

/-- By induction on the sessions that are got ready. -/
theorem modes_of_offerSessions {browser : Bool} {ss : List MediaSession}
    {ls : List Sdp.LocalMedia} (hss : ∀ s ∈ ss, s.mode = mode)
    (h : offerSessions w browser ss c ports = (.ok ls, c', ports')) :
    ∀ l ∈ ls, l.mode = mode := by
  induction ss generalizing c ports ls c' ports' with
  | nil =>
    simp only [offerSessions, Prod.mk.injEq, Except.ok.injEq] at h
    obtain ⟨rfl, -⟩ := h
    simp
  | cons s rest ih =>
    obtain ⟨hs, hrest⟩ := List.forall_mem_cons.1 hss
    simp only [offerSessions] at h
    split at h
    · simp at h
    · rename_i l s' ports₁ hready
      split at h
      · rename_i ls₁ c₁ ports₂ hr
        simp only [Prod.mk.injEq, Except.ok.injEq] at h
        obtain ⟨rfl, -⟩ := h
        have hl : l.mode = mode := (MediaSession.mode_of_prepareOffer hready).2.trans hs
        exact List.forall_mem_cons.2 ⟨hl, ih hrest hr⟩
      · simp at h

/-- What is offered has the mode of the sessions as its direction. -/
theorem directions_of_makeOffer {browser : Bool} {offer : Sdp.Description} (hc : c.InMode mode)
    (h : c.makeOffer w ports browser = (.ok offer, c', ports')) :
    ∀ m ∈ offer.media, m.direction = some mode := by
  rw [makeOffer_eq] at h
  split at h
  · simp at h
  · rename_i ls c₁ ports₁ ho
    simp only [Prod.mk.injEq, Except.ok.injEq] at h
    obtain ⟨rfl, -⟩ := h
    intro m hm
    obtain ⟨l, hl, rfl⟩ := List.mem_map.1 hm
    rw [Sdp.Builder.direction_mediaSection, modes_of_offerSessions hc ho l hl]

theorem InMode.makeOffer (hc : c.InMode mode) (w : Surroundings) (ports : PortRange)
    (browser : Bool) : (c.makeOffer w ports browser).2.1.InMode mode :=
  (Keeps.makeOffer (MediaSession.lastsThrough_mode mode) ⟨hc, rfl⟩ w ports browser).sessions

/-! ## Answers -/

theorem hasMode_withSession {s : MediaSession} (hc : ∀ t ∈ c.sessions, t.HasMode mode)
    (hs : s.HasMode mode) : ∀ t ∈ (c.withSession s).sessions, t.HasMode mode := by
  intro t ht
  rcases mem_sessions_withSession ht with rfl | ht
  · exact hs
  · exact hc t ht

theorem hasMode_close (mode : Mode) (s : MediaSession) : s.close.HasMode mode := fun h => by
  simp [s.isBlank_close.isOpen] at h

/-- While sections are answered: only sessions of media that were answered may have lost the mode, and
those are closed. -/
def AnswersIn (mode : Mode) (answered : List MediaType) (c : Call) : Prop :=
  ∀ s ∈ c.sessions, s.mode = mode ∨ (s.isOpen = false ∧ s.media ∈ answered)

namespace AnswersIn

variable {answered answered' : List MediaType} {s : MediaSession}

theorem hasMode (h : c.AnswersIn mode answered) : ∀ s ∈ c.sessions, s.HasMode mode := by
  intro s hs hopen
  rcases h s hs with hmode | ⟨hclosed, -⟩
  · exact hmode
  · simp [hopen] at hclosed

theorem mono (h : c.AnswersIn mode answered) (hsub : answered ⊆ answered') :
    c.AnswersIn mode answered' :=
  fun s hs => (h s hs).imp_right (And.imp_right (hsub ·))

theorem withSession (h : c.AnswersIn mode answered)
    (hs : s.mode = mode ∨ (s.isOpen = false ∧ s.media ∈ answered)) :
    (c.withSession s).AnswersIn mode answered := by
  intro t ht
  rcases mem_sessions_withSession ht with rfl | ht
  · exact hs
  · exact h t ht

end AnswersIn

/-- Every contribution has the mode, and all sessions that stay open keep it, by induction on the
sections. -/
theorem Answers.modes {d : Sdp.Description} {ms : List Sdp.MediaSection}
    {answered : List MediaType} {ls : List (Option Sdp.LocalMedia)}
    (ha : Answers w d ms answered c ports ls c' ports') (h : c.setup.IsSeated)
    (hc : c.AnswersIn mode answered) :
    (∀ l, some l ∈ ls → l.mode = mode) ∧ ∀ s ∈ c'.sessions, s.HasMode mode := by
  induction ha with
  | nil => exact ⟨by simp, hc.hasMode⟩
  | @skip m rest answered c ports ls c' ports' hs _ ih =>
    obtain ⟨hls, hopen⟩ := ih h (hc.mono (List.subset_append_right _ _))
    exact ⟨by simpa using hls, hopen⟩
  | @accept m rest answered c ports ls c' ports' s l s' ports₁ hs hp _ ih =>
    obtain ⟨hk, hks⟩ := answered_of_bind h hs
    obtain ⟨-, hnot⟩ := answeredMedium?_eq_some.1 hk
    -- A session that is answered for now was not before, so it still has the mode.
    have hmode : s.mode = mode := (hc s (mem_of_session? hks)).resolve_right fun hlost => hnot hlost.2
    obtain ⟨hs', hl⟩ := MediaSession.mode_of_prepareAnswer hp
    have hw : (c.withSession s').setup = c.setup :=
      setup_withSession (holds_of_session? h hks (setup_of_prepareAnswer hp))
    obtain ⟨hls, hopen⟩ := ih (hw ▸ h)
      ((hc.mono (List.subset_append_right _ _)).withSession (.inl (hs'.trans hmode)))
    refine ⟨fun l' hl' => ?_, hopen⟩
    rcases List.mem_cons.1 hl' with heq | hrest
    · rw [Option.some.inj heq, hl, hmode]
    · exact hls l' hrest
  | @refuse m rest answered c ports ls c' ports' s e s' ports₁ hs hp hne _ _ ih =>
    obtain ⟨hk, hks⟩ := answered_of_bind h hs
    have hsetup := setup_of_prepareAnswer hp
    have hw : (c.withSession s'.close).setup = c.setup :=
      setup_withSession (holds_of_session? h hks (by simpa using hsetup))
    have hanswered : s'.close.media ∈ (answeredMedium? answered m).toList ++ answered := by
      rw [hk]
      exact List.mem_append_left _ (List.mem_singleton.2 (media_of_setup hsetup rfl))
    obtain ⟨hls, hopen⟩ := ih (hw ▸ h) ((hc.mono (List.subset_append_right _ _)).withSession
      (.inr ⟨s'.isBlank_close.isOpen, hanswered⟩))
    exact ⟨by simpa using hls, hopen⟩

/-- A section of the answer that is no refusal has the mode of the sessions as its direction. -/
theorem modes_of_answerOffer {text : String} {answer : Sdp.Description} (h : c.setup.IsSeated)
    (hc : c.InMode mode) (he : c.answerOffer w ports text = (.ok answer, c', ports')) :
    (∀ s ∈ c'.sessions, s.HasMode mode) ∧
      ∃ d, Sdp.Description.ofText text = .ok d ∧
        ∀ (i : Nat) (m a : Sdp.MediaSection), d.media[i]? = some m → answer.media[i]? = some a →
          ¬a.Refuses m → a.direction = some mode := by
  obtain ⟨d, m₀, ls, c₁, hd, -, hsections, rfl, rfl⟩ := exists_answerSections_of_ok he
  obtain ⟨hls, hopen⟩ := (answers_of_ok hsections).modes h fun s hs => .inl (hc s hs)
  refine ⟨hopen, d, hd, fun i m a hm ha hnot => ?_⟩
  simp only [alignedAnswer, List.getElem?_zipWith, hm] at ha
  cases hl : ls[i]? with
  | none => simp [hl] at ha
  | some l? =>
    obtain rfl : answerSection c₁.builder c₁.exchange.cname m l? = a := by simpa [hl] using ha
    cases l? with
    | none => exact absurd (Sdp.MediaSection.refuses_rejection m) hnot
    | some l =>
      have hmode := hls l (List.mem_of_getElem? hl)
      exact (Sdp.Builder.direction_mediaSection _ _ _ _).trans (congrArg some hmode)

/-! ## Taking an answer -/

theorem hasMode_connect {s : MediaSession} (hs : s.mode = mode) (w : Surroundings)
    (d : Sdp.Description) (m : Sdp.MediaSection) : (s.connect w d m).2.mode = mode :=
  (MediaSession.lastsThrough_mode mode).connect hs w d m

theorem InMode.connectVideo (hc : c.InMode mode) (w : Surroundings) (d : Sdp.Description) :
    ∀ s ∈ (c.connectVideo w d).2.sessions, s.HasMode mode := by
  have hall : ∀ s ∈ c.sessions, s.HasMode mode := fun s hs _ => hc s hs
  unfold Call.connectVideo
  cases hv : c.video with
  | none => exact hall
  | some s =>
    have hs : s.mode = mode := hc s (mem_of_session? (m := .video) hv)
    cases d.sectionFor? .video with
    | none => exact hasMode_withSession hall (hasMode_close mode s)
    | some m =>
      have hconnect := hasMode_connect hs (c.around w) d m
      simp only
      split <;> rename_i s' he <;> rw [he] at hconnect
      · exact hasMode_withSession hall fun _ => hconnect
      · split
        · exact hasMode_withSession hall (hasMode_close mode s')
        · exact hasMode_withSession hall fun _ => hconnect

/-- Whatever an answer says, sessions that stay open keep their mode. -/
theorem InMode.applyAnswer (hc : c.InMode mode) (w : Surroundings) (text : String) :
    ∀ s ∈ (c.applyAnswer w text).2.sessions, s.HasMode mode := by
  unfold Call.applyAnswer
  split
  · exact fun s hs _ => hc s hs
  · rename_i d m _
    have hconnect := hasMode_connect (hc c.audio (mem_of_session? (m := .audio) rfl)) (c.around w) d m
    have hwith {s : MediaSession} (hs : s.mode = mode) : (c.withSession s).InMode mode := by
      intro t ht
      rcases mem_sessions_withSession ht with rfl | ht
      · exact hs
      · exact hc t ht
    split <;> rename_i s he <;> rw [he] at hconnect
    · exact fun t ht _ => hwith hconnect t ht
    · have hvideo := (hwith hconnect).connectVideo w d
      split <;> rename_i he' <;> rw [he'] at hvideo <;> exact hvideo

end Call

end MediaGateway
