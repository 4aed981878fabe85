import MediaGateway.Proofs.Connection.Alignment
import MediaGateway.Proofs.Session.Setup

/-!
# What becomes of a call

Offers, answers and media change the sessions of a call, but not what the call is set up with. After
an offer was made, all sessions are open. After an answer was made or taken, the audio session is
agreed and the other side's description is known.
-/

namespace MediaGateway

/-- What a call is set up with. -/
structure CallSetup where
  /-- What the audio session is set up with. -/
  audio : SessionSetup
  /-- What the video session is set up with, if there is one. -/
  video : Option SessionSetup
  /-- What makes the descriptions. -/
  builder : Sdp.Builder
deriving DecidableEq

/-- Each session is about the medium that it stands for. -/
structure CallSetup.IsSeated (u : CallSetup) : Prop where
  audio : u.audio.seat.media = .audio
  video : ∀ v ∈ u.video, v.seat.media = .video

namespace Call

variable {c : Call} {w : Surroundings}

/-- What the call is set up with. -/
def setup (c : Call) : CallSetup := ⟨c.audio.setup, c.video.map MediaSession.setup, c.builder⟩

theorem media_of_setup {s t : MediaSession} {k : MediaType} (h : s.setup = t.setup)
    (ht : t.media = k) : s.media = k :=
  (MediaSession.media_eq_of_setup h).trans ht

/-! ## Sessions of a call -/

theorem mem_sessions {s : MediaSession} : s ∈ c.sessions ↔ s = c.audio ∨ s ∈ c.video := by
  simp [sessions]

theorem mem_of_session? {m : MediaType} {s : MediaSession} (hs : c.session? m = some s) :
    s ∈ c.sessions := by
  rw [mem_sessions]
  cases m with
  | audio => exact .inl (by simpa [session?, eq_comm] using hs)
  | video => exact .inr (by simpa [session?] using hs)
  | application => simp [session?] at hs

section Seated

variable (h : c.setup.IsSeated)

include h

theorem audio_media : c.audio.media = .audio := h.audio

theorem video_media {v : MediaSession} (hv : c.video = some v) : v.media = .video :=
  h.video v.setup (by simp [setup, hv])

/-- A session is the one of its medium. -/
theorem session?_of_mem {s : MediaSession} (hs : s ∈ c.sessions) :
    c.session? s.media = some s := by
  rcases mem_sessions.1 hs with rfl | hv
  · rw [audio_media h]
    rfl
  · rw [video_media h hv]
    exact hv

theorem media_of_session? {m : MediaType} {s : MediaSession} (hs : c.session? m = some s) :
    s.media = m := by
  cases m with
  | audio =>
    simp only [session?, Option.some.injEq] at hs
    rw [← hs, audio_media h]
  | video => exact video_media h hs
  | application => simp [session?] at hs

end Seated

/-- A session with the setup of the call's session for its medium. -/
def Holds (c : Call) (s : MediaSession) : Prop :=
  ∃ t, c.session? s.media = some t ∧ t.setup = s.setup

theorem holds_of_session? (h : c.setup.IsSeated) {m : MediaType} {s t : MediaSession}
    (hs : c.session? m = some s) (ht : t.setup = s.setup) : c.Holds t := by
  have hm : t.media = m := (MediaSession.media_eq_of_setup ht).trans (media_of_session? h hs)
  exact ⟨s, by rw [hm, hs], ht.symm⟩

theorem holds_of_mem (h : c.setup.IsSeated) {s : MediaSession} (hs : s ∈ c.sessions) :
    c.Holds s :=
  holds_of_session? h (session?_of_mem h hs) rfl

/-- Whether a call holds a session depends on the setups only. -/
theorem Holds.congr {c' : Call} {s s' : MediaSession} (h : c.Holds s) (hc : c'.setup = c.setup)
    (hs : s'.setup = s.setup) : c'.Holds s' := by
  obtain ⟨t, ht, hts⟩ := h
  simp only [setup, CallSetup.mk.injEq] at hc
  have hm : s'.media = s.media := MediaSession.media_eq_of_setup hs
  rw [Holds, hm]
  cases hsm : s.media with
  | audio =>
    simp only [hsm, session?, Option.some.injEq] at ht
    exact ⟨c'.audio, rfl, by rw [hc.1, ht, hts, hs]⟩
  | video =>
    simp only [hsm, session?] at ht
    have hv := hc.2.1
    rw [ht, Option.map_some, Option.map_eq_some_iff] at hv
    obtain ⟨v, hv, he⟩ := hv
    exact ⟨v, hv, by rw [he, hts, hs]⟩
  | application => simp [hsm, session?] at ht

/-! ## Another session of the same medium -/

theorem setup_withSession {s : MediaSession} (h : c.Holds s) : (c.withSession s).setup = c.setup := by
  obtain ⟨t, ht, hts⟩ := h
  simp only [withSession]
  cases hs : s.media with
  | audio =>
    simp only [hs, session?, Option.some.injEq] at ht
    simp [setup, ← hts, ht]
  | video =>
    simp only [hs, session?] at ht
    simp [setup, ht, hts]
  | application => rfl

theorem session?_withSession {s : MediaSession} (h : c.Holds s) (m : MediaType) :
    (c.withSession s).session? m = if m = s.media then some s else c.session? m := by
  obtain ⟨t, ht, -⟩ := h
  simp only [withSession]
  cases hs : s.media with
  | audio => cases m <;> simp [session?]
  | video =>
    simp only [hs, session?] at ht
    cases m <;> simp [session?, ht]
  | application => simp [hs, session?] at ht

theorem mem_sessions_withSession {s t : MediaSession} (h : t ∈ (c.withSession s).sessions) :
    t = s ∨ t ∈ c.sessions := by
  simp only [withSession] at h
  cases hs : s.media with
  | audio =>
    simp only [hs, mem_sessions] at h
    rw [mem_sessions]
    tauto
  | video =>
    simp only [hs, mem_sessions] at h
    rw [mem_sessions]
    cases hv : c.video <;> simp_all
    tauto
  | application =>
    simp only [hs] at h
    exact .inr h

theorem exchange_withSession (s : MediaSession) : (c.withSession s).exchange = c.exchange := by
  simp only [withSession]
  split <;> rfl

/-! ## All sessions changed alike -/

theorem setup_mapSessions {f : MediaSession → MediaSession} (h : ∀ s, (f s).setup = s.setup) :
    (c.mapSessions f).setup = c.setup := by
  simp [setup, mapSessions, h, Function.comp_def]

theorem mem_sessions_mapSessions {f : MediaSession → MediaSession} {t : MediaSession} :
    t ∈ (c.mapSessions f).sessions ↔ ∃ s ∈ c.sessions, f s = t := by
  cases hv : c.video <;> simp [sessions, mapSessions, hv, eq_comm]

theorem setup_close (c : Call) : c.close.setup = c.setup :=
  setup_mapSessions fun _ => rfl

theorem setup_renew (c : Call) (numbering : Seat → Numbering) (cname : String) :
    (c.renew numbering cname).setup = c.setup :=
  setup_mapSessions (c := c) (f := fun s => s.reset (numbering s.seat)) fun _ => rfl

theorem isBlank_close {s : MediaSession} (h : s ∈ c.close.sessions) : s.IsBlank := by
  obtain ⟨t, -, rfl⟩ := mem_sessions_mapSessions.1 h
  exact t.isBlank_close

theorem isBlank_renew {numbering : Seat → Numbering} {cname : String} {s : MediaSession}
    (h : s ∈ (c.renew numbering cname).sessions) : s.IsBlank := by
  obtain ⟨t, -, rfl⟩ := (mem_sessions_mapSessions (c := c)
    (f := fun s => s.reset (numbering s.seat))).1 h
  exact ⟨rfl, rfl, rfl, rfl, rfl, rfl, rfl⟩

/-! ## Making an offer -/

theorem setup_offerSessions {ss : List MediaSession} (h : ∀ s ∈ ss, c.Holds s) (w : Surroundings)
    (browser : Bool) (ports : PortRange) :
    (offerSessions w browser ss c ports).2.1.setup = c.setup := by
  induction ss generalizing c ports with
  | nil => rfl
  | cons s rest ih =>
    have hs := MediaSession.setup_prepareOffer s (c.around w) ports browser
    obtain ⟨hc, hrest⟩ := List.forall_mem_cons.1 h
    simp only [offerSessions]
    rcases hp : s.prepareOffer (c.around w) ports browser with ⟨_ | l, s', ports'⟩
    · rw [hp] at hs
      exact setup_withSession (hc.congr rfl hs)
    · rw [hp] at hs
      have hw : (c.withSession s').setup = c.setup := setup_withSession (hc.congr rfl hs)
      have hr := ih (fun t ht => (hrest t ht).congr hw rfl) ports'
      simp only
      split <;> simp_all

theorem exchange_offerSessions (browser : Bool) (ss : List MediaSession) (c : Call)
    (ports : PortRange) : (offerSessions w browser ss c ports).2.1.exchange = c.exchange := by
  induction ss generalizing c ports with
  | nil => rfl
  | cons s rest ih =>
    simp only [offerSessions]
    split
    · exact exchange_withSession _
    · rename_i s' ports' _
      have hr := ih (c.withSession s') ports'
      rw [exchange_withSession] at hr
      split <;> simp_all

/-- Of each medium, the session that was got ready is there, and else the one as it was before. -/
theorem session?_offerSessions {browser : Bool} {ss : List MediaSession} {ports ports' : PortRange}
    {ls : List Sdp.LocalMedia} {c' : Call} {P : MediaSession → MediaSession → Prop}
    (h : ∀ s ∈ ss, c.Holds s)
    (hP : ∀ s ∈ ss, ∀ {w ports l s' ports'},
      s.prepareOffer w ports browser = (.ok l, s', ports') → P s s')
    (he : offerSessions w browser ss c ports = (.ok ls, c', ports')) (m : MediaType) :
    (∃ s ∈ ss, s.media = m ∧ ∃ t, c'.session? m = some t ∧ P s t) ∨
      (c'.session? m = c.session? m ∧ ∀ s ∈ ss, s.media ≠ m) := by
  induction ss generalizing c ports ports' ls with
  | nil =>
    simp only [offerSessions, Prod.mk.injEq] at he
    exact .inr ⟨by rw [he.2.1], by simp⟩
  | cons s rest ih =>
    have hs := MediaSession.setup_prepareOffer s (c.around w) ports browser
    obtain ⟨hc, hrest⟩ := List.forall_mem_cons.1 h
    obtain ⟨hPs, hPrest⟩ := List.forall_mem_cons.1 hP
    simp only [offerSessions] at he
    split at he
    · simp at he
    · rename_i l s' ports₁ hp
      rw [hp] at hs
      have hc' : c.Holds s' := hc.congr rfl hs
      have hw : (c.withSession s').setup = c.setup := setup_withSession hc'
      have hm : s'.media = s.media := MediaSession.media_eq_of_setup hs
      split at he
      · rename_i ls₁ c₁ ports₂ hr
        simp only [Prod.mk.injEq, Except.ok.injEq] at he
        obtain ⟨-, rfl, -⟩ := he
        rcases ih (fun t ht => (hrest t ht).congr hw rfl) hPrest hr with
          ⟨t, ht, hmedia, hready⟩ | ⟨hsame, hne⟩
        · exact .inl ⟨t, List.mem_cons_of_mem _ ht, hmedia, hready⟩
        · rw [session?_withSession hc', hm] at hsame
          by_cases hsm : m = s.media
          · rw [if_pos hsm] at hsame
            exact .inl ⟨s, List.mem_cons_self, hsm.symm, s', hsame, hPs hp⟩
          · rw [if_neg hsm] at hsame
            exact .inr ⟨hsame, List.forall_mem_cons.2 ⟨Ne.symm hsm, hne⟩⟩
      · simp at he

/-- The call when it has begun to make an offer. -/
def calling (c : Call) : Call := { c with exchange := { c.exchange with outbound := true } }

theorem makeOffer_eq (c : Call) (w : Surroundings) (ports : PortRange) (browser : Bool) :
    c.makeOffer w ports browser =
      match offerSessions w browser c.sessions c.calling ports with
      | (.error e, c, ports) => (.error e, c, ports)
      | (.ok locals, c, ports) =>
        let offer := c.builder.build w.descriptionId true c.exchange.cname locals
        (.ok offer,
          { c with exchange := { c.exchange with
              localDescription := some offer, remoteDescription := none } }, ports) := rfl

theorem setup_makeOffer (h : c.setup.IsSeated) (w : Surroundings) (ports : PortRange)
    (browser : Bool) : (c.makeOffer w ports browser).2.1.setup = c.setup := by
  have hs := setup_offerSessions (fun s hs => holds_of_mem (c := c.calling) h hs) w browser ports
  rw [makeOffer_eq]
  rcases ho : offerSessions w browser c.sessions c.calling ports with ⟨_ | ls, c', ports'⟩
  · exact (congrArg (fun r => setup r.2.1) ho).symm.trans hs
  · exact (congrArg (fun r => setup r.2.1) ho).symm.trans hs

/-- After an offer was made, all sessions are open, and the offer is what this side said last. -/
theorem makeOffer_ok {browser : Bool} {ports ports' : PortRange} {offer : Sdp.Description}
    {c' : Call} (h : c.setup.IsSeated)
    (he : c.makeOffer w ports browser = (.ok offer, c', ports')) :
    (∀ s ∈ c'.sessions, s.isOpen = true) ∧ c'.exchange.outbound = true ∧
      c'.exchange.localDescription = some offer := by
  have hsetup := setup_makeOffer h w ports browser
  rw [he] at hsetup
  have hseated : c'.setup.IsSeated := hsetup ▸ h
  rw [makeOffer_eq] at he
  split at he
  · simp at he
  · rename_i ls c₁ ports₁ ho
    simp only [Prod.mk.injEq, Except.ok.injEq] at he
    obtain ⟨rfl, rfl, -⟩ := he
    have hx := exchange_offerSessions (w := w) browser c.sessions c.calling ports
    rw [ho] at hx
    refine ⟨fun s hs => ?_, congrArg Exchange.outbound hx, rfl⟩
    have hm := session?_of_mem hseated hs
    have hheld : ∀ s ∈ c.sessions, c.calling.Holds s := fun s hs =>
      holds_of_mem (c := c.calling) h hs
    rcases session?_offerSessions (P := fun _ t => t.isOpen = true) hheld
      (fun _ _ => MediaSession.isOpen_prepareOffer) ho s.media with
      ⟨-, -, -, t, ht, hopen⟩ | ⟨hsame, hne⟩
    · rw [Option.some.inj (hm.symm.trans ht)]
      exact hopen
    · -- A session that was not got ready would have been there before.
      have hin : c.session? s.media = some s := hsame.symm.trans hm
      exact absurd rfl (hne s (mem_of_session? hin))

/-! ## Answering an offer -/

/-- A section is answered for its medium if it is not refused and the first one of its medium. -/
theorem answeredMedium?_eq_some {answered : List MediaType} {m : Sdp.MediaSection} {k : MediaType} :
    answeredMedium? answered m = some k ↔
      Sdp.Description.isOpenSection k m = true ∧ k ∉ answered := by
  simp only [answeredMedium?, Sdp.Description.isOpenSection]
  cases m.isRejected <;> simp [Option.filter_eq_some_iff]

/-- A section is answered by the session of its medium. -/
theorem answered_of_bind (h : c.setup.IsSeated) {answered : List MediaType} {m : Sdp.MediaSection}
    {s : MediaSession} (hs : (answeredMedium? answered m).bind c.session? = some s) :
    answeredMedium? answered m = some s.media ∧ c.session? s.media = some s := by
  obtain ⟨k, hk, hks⟩ := Option.bind_eq_some_iff.1 hs
  obtain rfl := media_of_session? h hks
  exact ⟨hk, hks⟩

theorem setup_of_prepareAnswer {s s' : MediaSession} {ports ports' : PortRange}
    {d : Sdp.Description} {m : Sdp.MediaSection} {r : Except SessionError Sdp.LocalMedia}
    (h : s.prepareAnswer w ports d m = (r, s', ports')) : s'.setup = s.setup := by
  have hset := MediaSession.setup_prepareAnswer s w ports d m
  rw [h] at hset
  exact hset

theorem audio_withSession_of_ne {s : MediaSession} (h : s.media ≠ .audio) :
    (c.withSession s).audio = c.audio := by
  simp only [withSession]
  cases hs : s.media <;> simp_all

theorem setup_answerSections (h : c.setup.IsSeated) (w : Surroundings) (d : Sdp.Description)
    (ms : List Sdp.MediaSection) (answered : List MediaType) (ports : PortRange) :
    (answerSections w d ms answered c ports).2.1.setup = c.setup := by
  induction ms generalizing answered c ports with
  | nil => rfl
  | cons m rest ih =>
    rw [Call.answerSections]
    cases hs : (answeredMedium? answered m).bind c.session? with
    | none => exact ih h _ _
    | some s =>
      have hkeep {t : MediaSession} (ht : t.setup = s.setup) : (c.withSession t).setup = c.setup :=
        setup_withSession (holds_of_session? h (answered_of_bind h hs).2 ht)
      rcases he : s.prepareAnswer (c.around w) ports d m with ⟨e | l, s', ports'⟩
      · have hp := setup_of_prepareAnswer he
        have hclosed : (c.withSession s'.close).setup = c.setup := hkeep (by simpa using hp)
        simp only [he]
        split
        · exact (ih (hclosed ▸ h) _ _).trans hclosed
        · exact hkeep hp
      · have hw := hkeep (setup_of_prepareAnswer he)
        simp only [he]
        exact (ih (hw ▸ h) _ _).trans hw

/-- Going through the sections of an offer without a failure. -/
inductive Answers (w : Surroundings) (d : Sdp.Description) :
    List Sdp.MediaSection → List MediaType → Call → PortRange →
      List (Option Sdp.LocalMedia) → Call → PortRange → Prop
  | nil {answered c ports} : Answers w d [] answered c ports [] c ports
  /-- No session answers the section. -/
  | skip {m rest answered c ports ls c' ports'}
      (hs : (answeredMedium? answered m).bind c.session? = none)
      (hrest : Answers w d rest ((answeredMedium? answered m).toList ++ answered) c ports
        ls c' ports') :
      Answers w d (m :: rest) answered c ports (none :: ls) c' ports'
  /-- A session answers it. -/
  | accept {m rest answered c ports ls c' ports' s l s' ports₁}
      (hs : (answeredMedium? answered m).bind c.session? = some s)
      (hp : s.prepareAnswer (c.around w) ports d m = (.ok l, s', ports₁))
      (hrest : Answers w d rest ((answeredMedium? answered m).toList ++ answered)
        (c.withSession s') ports₁ ls c' ports') :
      Answers w d (m :: rest) answered c ports (some l :: ls) c' ports'
  /-- A session other than audio comes to no agreement. -/
  | refuse {m rest answered c ports ls c' ports' s e s' ports₁}
      (hs : (answeredMedium? answered m).bind c.session? = some s)
      (hp : s.prepareAnswer (c.around w) ports d m = (.error e, s', ports₁))
      (hm : s'.media ≠ .audio) (he : e.isNegotiation = true)
      (hrest : Answers w d rest ((answeredMedium? answered m).toList ++ answered)
        (c.withSession s'.close) ports₁ ls c' ports') :
      Answers w d (m :: rest) answered c ports (none :: ls) c' ports'

theorem answers_of_ok {d : Sdp.Description} {ms : List Sdp.MediaSection}
    {answered : List MediaType} {ports ports' : PortRange} {ls : List (Option Sdp.LocalMedia)}
    {c' : Call} (h : answerSections w d ms answered c ports = (.ok ls, c', ports')) :
    Answers w d ms answered c ports ls c' ports' := by
  induction ms generalizing answered c ports ls with
  | nil =>
    simp only [answerSections, Prod.mk.injEq, Except.ok.injEq] at h
    obtain ⟨rfl, rfl, rfl⟩ := h
    exact .nil
  | cons m rest ih =>
    have hgoOn {l : Option Sdp.LocalMedia} {c₁ : Call} {ports₁ : PortRange}
        {answered₁ : List MediaType}
        (hr : ((answerSections w d rest answered₁ c₁ ports₁).1.map (l :: ·),
          (answerSections w d rest answered₁ c₁ ports₁).2) = (.ok ls, c', ports')) :
        ∃ ls₁, ls = l :: ls₁ ∧ Answers w d rest answered₁ c₁ ports₁ ls₁ c' ports' := by
      rcases hr₁ : answerSections w d rest answered₁ c₁ ports₁ with ⟨e | ls₁, r⟩
      · simp [hr₁, Except.map] at hr
      · simp only [hr₁, Except.map, Prod.mk.injEq, Except.ok.injEq] at hr
        exact ⟨ls₁, hr.1.symm, ih (hr₁.trans (by rw [hr.2]))⟩
    rw [Call.answerSections] at h
    cases hs : (answeredMedium? answered m).bind c.session? with
    | none =>
      simp only [hs] at h
      obtain ⟨ls₁, rfl, hr⟩ := hgoOn h
      exact .skip hs hr
    | some s =>
      simp only [hs] at h
      rcases hp : s.prepareAnswer (c.around w) ports d m with ⟨e | l, s', ports₁⟩
      · simp only [hp] at h
        split at h
        · rename_i hcond
          obtain ⟨ls₁, rfl, hr⟩ := hgoOn h
          exact .refuse hs hp hcond.1 hcond.2 hr
        · simp at h
      · simp only [hp] at h
        obtain ⟨ls₁, rfl, hr⟩ := hgoOn h
        exact .accept hs hp hr

/-- Once audio is agreed it stays so, and otherwise the first section that asks for it makes it
agreed. -/
theorem Answers.isAgreed {d : Sdp.Description} {ms : List Sdp.MediaSection}
    {answered : List MediaType} {ports ports' : PortRange} {ls : List (Option Sdp.LocalMedia)}
    {c' : Call} (ha : Answers w d ms answered c ports ls c' ports') (h : c.setup.IsSeated)
    (haudio : if .audio ∈ answered then c.audio.IsAgreed
      else (ms.find? (Sdp.Description.isOpenSection .audio)).isSome = true) :
    c'.audio.IsAgreed := by
  -- A section that audio is not answered for changes nothing about it.
  have hkeep {m : Sdp.MediaSection} {rest : List Sdp.MediaSection} {answered : List MediaType}
      {c c₁ : Call} (hk : answeredMedium? answered m ≠ some .audio) (hc : c₁.audio = c.audio)
      (haudio : if .audio ∈ answered then c.audio.IsAgreed
        else ((m :: rest).find? (Sdp.Description.isOpenSection .audio)).isSome = true) :
      if .audio ∈ (answeredMedium? answered m).toList ++ answered then c₁.audio.IsAgreed
      else (rest.find? (Sdp.Description.isOpenSection .audio)).isSome = true := by
    have hin : MediaType.audio ∈ (answeredMedium? answered m).toList ++ answered ↔
        MediaType.audio ∈ answered := by
      rw [List.mem_append, Option.mem_toList]
      exact or_iff_right hk
    by_cases hmem : MediaType.audio ∈ answered
    · rw [if_pos (hin.2 hmem), hc]
      rwa [if_pos hmem] at haudio
    · rw [if_neg (mt hin.1 hmem)]
      rw [if_neg hmem, List.find?_cons] at haudio
      cases ho : Sdp.Description.isOpenSection .audio m with
      | true => exact absurd (answeredMedium?_eq_some.2 ⟨ho, hmem⟩) hk
      | false => simpa [ho] using haudio
  induction ha with
  | nil =>
    split at haudio
    · exact haudio
    · simp at haudio
  | @skip m rest answered c ports ls c' ports' hs _ ih =>
    have hk : answeredMedium? answered m ≠ some .audio := fun hk => by simp [hk, session?] at hs
    exact ih h (hkeep hk rfl haudio)
  | @accept m rest answered c ports ls c' ports' s l s' ports₁ hs hp _ ih =>
    obtain ⟨hk, hks⟩ := answered_of_bind h hs
    have hsetup := setup_of_prepareAnswer hp
    have hm : s'.media = s.media := media_of_setup hsetup rfl
    have hw : (c.withSession s').setup = c.setup :=
      setup_withSession (holds_of_session? h hks hsetup)
    refine ih (hw ▸ h) ?_
    by_cases hka : s.media = .audio
    · have hs' : (c.withSession s').audio = s' := by
        simp [withSession, hm, hka]
      rw [if_pos (by simp [hk, hka]), hs']
      exact MediaSession.isAgreed_prepareAnswer hp
    · exact hkeep (by rw [hk]; simpa using hka) (audio_withSession_of_ne (hm ▸ hka)) haudio
  | @refuse m rest answered c ports ls c' ports' s e s' ports₁ hs hp hne _ _ ih =>
    obtain ⟨hk, hks⟩ := answered_of_bind h hs
    have hsetup := setup_of_prepareAnswer hp
    have hm : s'.media = s.media := media_of_setup hsetup rfl
    have hw : (c.withSession s'.close).setup = c.setup :=
      setup_withSession (holds_of_session? h hks (by simpa using hsetup))
    exact ih (hw ▸ h) (hkeep (by rw [hk]; simpa [← hm] using hne) (audio_withSession_of_ne hne)
      haudio)

theorem setup_answerOffer (h : c.setup.IsSeated) (w : Surroundings) (ports : PortRange)
    (text : String) : (c.answerOffer w ports text).2.1.setup = c.setup := by
  rw [answerOffer_eq]
  rcases readRemote text with e | ⟨d, m⟩
  · rfl
  · have hs := setup_answerSections (c := c.called) h w d d.media [] ports
    simp only
    rcases ha : answerSections w d d.media [] c.called ports with ⟨_ | ls, c', ports'⟩
    · exact (congrArg (fun r => setup r.2.1) ha).symm.trans hs
    · exact (congrArg (fun r => setup r.2.1) ha).symm.trans hs

/-- What a text says if it could be read as a description of the other side. -/
theorem readRemote_ok {text : String} {d : Sdp.Description} {m : Sdp.MediaSection}
    (h : readRemote text = .ok (d, m)) :
    Sdp.Description.ofText text = .ok d ∧ d.sectionFor? .audio = some m := by
  simp only [readRemote] at h
  split at h
  · simp at h
  · split at h
    · simp at h
    · simp_all

/-- An offer that was answered could be read and has audio, its sections were answered in turn, and
the answer is made of the contributions to it. -/
theorem exists_answerSections_of_ok {ports ports' : PortRange} {text : String}
    {answer : Sdp.Description} {c' : Call}
    (he : c.answerOffer w ports text = (.ok answer, c', ports')) :
    ∃ d m ls c₁, Sdp.Description.ofText text = .ok d ∧ d.sectionFor? .audio = some m ∧
      answerSections w d d.media [] c.called ports = (.ok ls, c₁, ports') ∧
      answer = c₁.alignedAnswer w d ls ∧
      c' = { c₁ with exchange := { c₁.exchange with
        localDescription := some answer, remoteDescription := some d } } := by
  rw [answerOffer_eq] at he
  split at he
  · simp at he
  · rename_i d m hr
    obtain ⟨hd, hm⟩ := readRemote_ok hr
    split at he
    · simp at he
    · rename_i ls c₁ ports₁ ha
      simp only [Prod.mk.injEq, Except.ok.injEq] at he
      obtain ⟨rfl, rfl, rfl⟩ := he
      exact ⟨d, m, ls, c₁, hd, hm, ha, rfl, rfl⟩

/-- After an offer was answered, audio is agreed, and the offer is what the other side said. -/
theorem answerOffer_ok {ports ports' : PortRange} {text : String} {answer : Sdp.Description}
    {c' : Call} (h : c.setup.IsSeated)
    (he : c.answerOffer w ports text = (.ok answer, c', ports')) :
    c'.audio.IsAgreed ∧ ∃ d, Sdp.Description.ofText text = .ok d ∧
      c'.exchange.remoteDescription = some d := by
  obtain ⟨d, m, ls, c₁, hd, hm, ha, -, rfl⟩ := exists_answerSections_of_ok he
  refine ⟨(answers_of_ok ha).isAgreed h ?_, d, hd, rfl⟩
  simp only [Sdp.Description.sectionFor?] at hm
  simp [hm]

/-! ## Taking an answer -/

theorem setup_connectVideo (h : c.setup.IsSeated) (w : Surroundings) (d : Sdp.Description) :
    (c.connectVideo w d).2.setup = c.setup := by
  simp only [connectVideo]
  cases hv : c.video with
  | none => rfl
  | some s =>
    have hheld {t : MediaSession} (ht : t.setup = s.setup) : (c.withSession t).setup = c.setup :=
      setup_withSession (holds_of_session? (m := .video) h hv ht)
    cases d.sectionFor? .video with
    | none => exact hheld (by simp)
    | some m =>
      have hs := MediaSession.setup_connect s (c.around w) d m
      simp only
      rcases hc : s.connect (c.around w) d m with ⟨_ | _, s'⟩
      · rw [hc] at hs
        simp only
        split
        · exact hheld (by simpa using hs)
        · exact hheld hs
      · rw [hc] at hs
        exact hheld hs

theorem audio_connectVideo (h : c.setup.IsSeated) (w : Surroundings) (d : Sdp.Description) :
    (c.connectVideo w d).2.audio = c.audio := by
  simp only [connectVideo]
  cases hv : c.video with
  | none => rfl
  | some s =>
    have hkeep {t : MediaSession} (ht : t.setup = s.setup) :
        (c.withSession t).audio = c.audio := by
      refine audio_withSession_of_ne ?_
      rw [MediaSession.media_eq_of_setup ht, video_media h hv]
      simp
    cases d.sectionFor? .video with
    | none => exact hkeep (by simp)
    | some m =>
      have hs := MediaSession.setup_connect s (c.around w) d m
      simp only
      rcases hc : s.connect (c.around w) d m with ⟨_ | _, s'⟩
      · rw [hc] at hs
        simp only
        split
        · exact hkeep (by simpa using hs)
        · exact hkeep hs
      · rw [hc] at hs
        exact hkeep hs

theorem setup_applyAnswer (h : c.setup.IsSeated) (w : Surroundings) (text : String) :
    (c.applyAnswer w text).2.setup = c.setup := by
  simp only [applyAnswer]
  rcases readRemote text with e | ⟨d, m⟩
  · rfl
  · have hs := MediaSession.setup_connect c.audio (c.around w) d m
    simp only
    rcases hc : c.audio.connect (c.around w) d m with ⟨_ | _, s'⟩
    · rw [hc] at hs
      exact setup_withSession (holds_of_session? (m := .audio) h rfl hs)
    · rw [hc] at hs
      have hw : (c.withSession s').setup = c.setup :=
        setup_withSession (holds_of_session? (m := .audio) h rfl hs)
      have hv := setup_connectVideo (c := c.withSession s') (hw ▸ h) w d
      simp only
      rcases hcv : (c.withSession s').connectVideo w d with ⟨_ | _, c'⟩
      · rw [hcv] at hv
        exact hv.trans hw
      · rw [hcv] at hv
        exact hv.trans hw

/-- After an answer was taken, audio is agreed, and the answer is what the other side said. -/
theorem applyAnswer_ok {text : String} {c' : Call} (h : c.setup.IsSeated)
    (he : c.applyAnswer w text = (.ok (), c')) :
    c'.audio.IsAgreed ∧ ∃ d, Sdp.Description.ofText text = .ok d ∧
      c'.exchange.remoteDescription = some d := by
  simp only [applyAnswer] at he
  split at he
  · simp at he
  · rename_i d m hr
    obtain ⟨hd, -⟩ := readRemote_ok hr
    have hs := MediaSession.setup_connect c.audio (c.around w) d m
    split at he
    · simp at he
    · rename_i s' hc
      rw [hc] at hs
      have hw : (c.withSession s').setup = c.setup :=
        setup_withSession (holds_of_session? (m := .audio) h rfl hs)
      have haudio : (c.withSession s').audio = s' := by
        have hm : s'.media = .audio := (MediaSession.media_eq_of_setup hs).trans (audio_media h)
        simp [withSession, hm]
      have hv := audio_connectVideo (c := c.withSession s') (hw ▸ h) w d
      split at he
      · simp at he
      · rename_i c₁ hcv
        rw [hcv, haudio] at hv
        simp only [Prod.mk.injEq] at he
        obtain ⟨-, rfl⟩ := he
        refine ⟨?_, d, hd, rfl⟩
        simp only at hv ⊢
        rw [hv]
        exact MediaSession.isAgreed_connect hc

/-! ## Media -/

theorem setup_pollSessions {ss : List MediaSession} (h : ∀ s ∈ ss, c.Holds s) (now : Nat)
    (m : Metrics) : (pollSessions now ss c m).2.1.setup = c.setup := by
  induction ss generalizing c m with
  | nil => rfl
  | cons s rest ih =>
    obtain ⟨hc, hrest⟩ := List.forall_mem_cons.1 h
    have hs := MediaSession.setup_poll s m now
    simp only [pollSessions]
    split
    · rcases hp : s.poll m now with ⟨_ | n, s', m'⟩
      · rw [hp] at hs
        exact setup_withSession (hc.congr rfl hs)
      · rw [hp] at hs
        have hw : (c.withSession s').setup = c.setup := setup_withSession (hc.congr rfl hs)
        have hr := ih (c := c.withSession s') (fun t ht => (hrest t ht).congr hw rfl) m'
        simp only
        split <;> simp_all
    · exact ih hrest m

theorem exchange_pollSessions (now : Nat) (ss : List MediaSession) (c : Call) (m : Metrics) :
    (pollSessions now ss c m).2.1.exchange = c.exchange := by
  induction ss generalizing c m with
  | nil => rfl
  | cons s rest ih =>
    simp only [pollSessions]
    split
    · split
      · exact exchange_withSession _
      · rename_i n s' m' _
        have hr := ih (c.withSession s') m'
        rw [exchange_withSession] at hr
        split <;> simp_all
    · exact ih c m

/-- Open sessions stay open when they are polled. -/
theorem isOpen_pollSessions (h : ∀ s ∈ c.sessions, s.isOpen = true) (now : Nat)
    (ss : List MediaSession) (m : Metrics) :
    ∀ s ∈ (pollSessions now ss c m).2.1.sessions, s.isOpen = true := by
  induction ss generalizing c m with
  | nil => exact h
  | cons s rest ih =>
    have hp := MediaSession.isOpen_of_localRtp (s.localRtp_poll m now)
    simp only [pollSessions]
    split
    · rename_i hopen
      rcases he : s.poll m now with ⟨_ | n, s', m'⟩
      · rw [he] at hp
        intro t ht
        rcases mem_sessions_withSession ht with rfl | ht
        · exact hp.trans hopen
        · exact h t ht
      · rw [he] at hp
        have hr := ih (c := c.withSession s') (fun t ht => by
          rcases mem_sessions_withSession ht with rfl | ht
          · exact hp.trans hopen
          · exact h t ht) m'
        simp only
        split <;> simp_all
    · exact ih h m

/-- Closed sessions are not polled. -/
theorem pollSessions_of_closed {now : Nat} {ss : List MediaSession} {m : Metrics}
    (h : ∀ s ∈ ss, s.isOpen = false) : pollSessions now ss c m = (.ok 0, c, m) := by
  induction ss with
  | nil => rfl
  | cons s rest ih =>
    obtain ⟨hs, hrest⟩ := List.forall_mem_cons.1 h
    simp [pollSessions, hs, ih hrest]

end Call

end MediaGateway
