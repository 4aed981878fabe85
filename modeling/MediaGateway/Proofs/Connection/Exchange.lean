import MediaGateway.Proofs.Connection.Call
import MediaGateway.Proofs.Session.Exchange

/-!
# Two calls that agree

An offer is read by the other side as it was written, and so is the answer to it. Therefore the sides
go through the same sections: audio is agreed on by both of them, video by both or by neither.
-/

namespace MediaGateway

open Text

namespace Call

/-- A call without a trace of an exchange, with all that its descriptions need to be read. -/
structure IsFresh (c : Call) (w : Surroundings) (browser : Bool) : Prop where
  seated : c.setup.IsSeated
  blank : ∀ s ∈ c.sessions, s.IsBlank
  serves : ∀ s ∈ c.sessions, w.Serves s.seat
  external : c.builder.externalAddress = none
  localAddress : Sdp.IsAddress c.builder.localAddress
  cname : IsWord c.exchange.cname.toList
  descriptionId : IsWord w.descriptionId.toList
  certificate : browser = true → ∀ s ∈ c.sessions, ∀ f ∈ s.fingerprint, f.IsWritable

/-- The audio sessions of two calls agree. The video sessions agree, or neither of them is open. -/
structure AgreesWith (browser : Bool) (c c' : Call) : Prop where
  audio : c.audio.AgreesWith browser c'.audio
  video : (∃ s t, c.video = some s ∧ c'.video = some t ∧ s.AgreesWith browser t) ∨
    ((∀ s ∈ c.video, s.isOpen = false) ∧ ∀ t ∈ c'.video, t.isOpen = false)

variable {browser : Bool} {c c' : Call} {w : Surroundings} {ports ports' : PortRange}

theorem withSession_of_audio {s : MediaSession} (h : s.media = .audio) :
    c.withSession s = { c with audio := s } := by
  simp only [withSession, h]

theorem withSession_of_video {s v : MediaSession} (h : s.media = .video) (hv : c.video = some v) :
    c.withSession s = { c with video := some s } := by
  simp only [withSession, h, hv, Option.map_some]

/-- A session is served alike whatever the other sessions of its call use. -/
theorem serves_around (c : Call) {seat : Seat} (h : w.Serves seat) : (c.around w).Serves seat :=
  ⟨h.ip, h.port, h.credentials⟩

/-! ## The side that makes the offer -/

/-- A ready session with what it contributes to an offer. -/
structure Offers (browser : Bool) (s : MediaSession) (l : Sdp.LocalMedia) : Prop where
  ready : s.IsReady browser
  localMedia : s.localMedia true = .ok l

/-- A call that has offered audio and perhaps video. -/
structure HasOffered (browser : Bool) (c c' : Call) (audio : Sdp.LocalMedia)
    (video : Option Sdp.LocalMedia) : Prop where
  setup : c'.setup = c.setup
  cname : c'.exchange.cname = c.exchange.cname
  offersAudio : Offers browser c'.audio audio
  offersVideo : Option.Rel (Offers browser) c'.video video

theorem hasOffered_of_makeOffer {offer : Sdp.Description} (hc : c.IsFresh w browser)
    (he : c.makeOffer w ports browser = (.ok offer, c', ports')) :
    ∃ audio video, offer = c.builder.build w.descriptionId true c.exchange.cname
        (audio :: video.toList) ∧ c.HasOffered browser c' audio video := by
  have haudio : c.audio ∈ c.sessions := mem_sessions.2 (.inl rfl)
  have hready {s s' : MediaSession} {c₀ : Call} {ports₁ ports₂ : PortRange} {l : Sdp.LocalMedia}
      (hs : s ∈ c.sessions)
      (hp : s.prepareOffer (c₀.around w) ports₁ browser = (.ok l, s', ports₂)) :
      s'.setup = s.setup ∧ Offers browser s' l := by
    have hset := MediaSession.setup_prepareOffer s (c₀.around w) ports₁ browser
    rw [hp] at hset
    obtain ⟨hready, hl⟩ :=
      MediaSession.isReady_prepareOffer (hc.blank s hs) (serves_around c₀ (hc.serves s hs)) hp
    exact ⟨hset, hready, hl⟩
  rw [makeOffer_eq] at he
  split at he
  · simp at he
  · rename_i ls c₁ ports₁ ho
    simp only [Prod.mk.injEq, Except.ok.injEq] at he
    obtain ⟨rfl, rfl, -⟩ := he
    simp only [sessions, offerSessions] at ho
    split at ho
    · simp at ho
    · rename_i l s' ports₂ hp
      obtain ⟨hset, hs'⟩ := hready haudio hp
      rw [withSession_of_audio (media_of_setup hset (audio_media hc.seated))] at ho
      cases hv : c.video with
      | none =>
        simp only [hv, Option.toList_none, offerSessions, Prod.mk.injEq, Except.ok.injEq] at ho
        obtain ⟨rfl, rfl, -⟩ := ho
        refine ⟨l, none, rfl, ?_, rfl, hs', ?_⟩
        · simp only [Call.setup, calling, hset]
        · simp only [calling, hv]
          exact .none
      | some v =>
        have hvideo : v ∈ c.sessions := mem_sessions.2 (.inr hv)
        simp only [hv, Option.toList_some, offerSessions] at ho
        rcases hq : v.prepareOffer (around { c.calling with audio := s' } w) ports₂ browser with
          ⟨e | lv, v', ports₃⟩
        · simp [hq] at ho
        · obtain ⟨hsetv, hv'⟩ := hready hvideo hq
          rw [hq] at ho
          simp only [Prod.mk.injEq, Except.ok.injEq] at ho
          have hvm : v'.media = .video := media_of_setup hsetv (video_media hc.seated hv)
          rw [withSession_of_video (c := { c.calling with audio := s' }) hvm hv] at ho
          obtain ⟨rfl, rfl, -⟩ := ho
          refine ⟨l, some lv, rfl, ?_, rfl, hs', .some hv'⟩
          simp only [Call.setup, calling, hset, hv, Option.map_some, hsetv]

/-! ## The side that answers -/

section Answering

open Sdp.Description (isOpenSection)

variable {d : Sdp.Description} {m : Sdp.MediaSection} {ls : List (Option Sdp.LocalMedia)}

/-- An answer begins with audio if the offer does. -/
theorem Answers.audio_first {rest : List Sdp.MediaSection} (h : c.setup.IsSeated)
    (hm : isOpenSection .audio m = true)
    (ha : Answers w d (m :: rest) [] c ports ls c' ports') :
    ∃ s l ports₁ ls', ls = some l :: ls' ∧
      c.audio.prepareAnswer (c.around w) ports d m = (.ok l, s, ports₁) ∧
      Answers w d rest [.audio] { c with audio := s } ports₁ ls' c' ports' := by
  have hk : answeredMedium? [] m = some .audio :=
    answeredMedium?_eq_some.2 ⟨hm, List.not_mem_nil⟩
  have hmedia {s' : MediaSession} {r : Except SessionError Sdp.LocalMedia} {ports₁ : PortRange}
      (hp : c.audio.prepareAnswer (c.around w) ports d m = (r, s', ports₁)) :
      s'.media = .audio :=
    media_of_setup (setup_of_prepareAnswer hp) (audio_media h)
  cases ha with
  | skip hs _ => simp [hk, session?] at hs
  | @accept _ _ _ _ _ ls' _ _ s l s' ports₁ hs hp hrest =>
    obtain rfl : c.audio = s := by simpa [hk, session?] using hs
    rw [hk, withSession_of_audio (hmedia hp)] at hrest
    exact ⟨s', l, ports₁, ls', rfl, hp, hrest⟩
  | @refuse _ _ _ _ _ ls' _ _ s e s' ports₁ hs hp hne _ _ =>
    obtain rfl : c.audio = s := by simpa [hk, session?] using hs
    exact absurd (hmedia hp) hne

/-- Video that is offered after audio is answered by the video session, or refused; then the session
is closed. -/
theorem Answers.video_second (h : c.setup.IsSeated) (hm : isOpenSection .video m = true)
    (ha : Answers w d [m] [.audio] c ports ls c' ports') :
    (∃ video, ls = [none] ∧ c' = { c with video } ∧ ∀ t ∈ video, t.isOpen = false) ∨
    ∃ v s l ports₁, c.video = some v ∧ ls = [some l] ∧ c' = { c with video := some s } ∧
      v.prepareAnswer (c.around w) ports d m = (.ok l, s, ports₁) := by
  have hk : answeredMedium? [.audio] m = some .video :=
    answeredMedium?_eq_some.2 ⟨hm, by decide⟩
  have hmedia {v s' : MediaSession} {r : Except SessionError Sdp.LocalMedia} {ports₁ : PortRange}
      (hv : c.video = some v) (hp : v.prepareAnswer (c.around w) ports d m = (r, s', ports₁)) :
      s'.media = .video :=
    media_of_setup (setup_of_prepareAnswer hp) (video_media h hv)
  cases ha with
  | skip hs hrest =>
    have hv : c.video = none := by simpa [hk, session?] using hs
    cases hrest
    exact .inl ⟨none, rfl, by rw [← hv], by simp⟩
  | @accept _ _ _ _ _ ls' _ _ s l s' ports₁ hs hp hrest =>
    have hv : c.video = some s := by simpa [hk, session?] using hs
    cases hrest
    exact .inr ⟨s, s', l, _, hv, rfl, withSession_of_video (hmedia hv hp) hv, hp⟩
  | @refuse _ _ _ _ _ ls' _ _ s e s' ports₁ hs hp _ _ hrest =>
    have hv : c.video = some s := by simpa [hk, session?] using hs
    have hsame : s'.media = .video := hmedia hv hp
    have hclosed : s'.close.media = .video := hsame
    cases hrest
    refine .inl ⟨some s'.close, rfl, withSession_of_video hclosed hv, ?_⟩
    rintro t ht
    obtain rfl := Option.some.inj ht
    rfl

end Answering

/-! ## What is read on the other side -/

theorem isWritable_contribution {s : MediaSession} {l : Sdp.LocalMedia}
    (h : s.Contributes browser l) (hf : l.formats.IsWritable)
    (hcert : browser = true → ∀ f ∈ s.fingerprint, f.IsWritable) : l.IsWritable := by
  refine ⟨hf, h.credentials, fun f hd => ?_⟩
  obtain ⟨hbrowser, hfingerprint⟩ := h.certificate f hd
  exact hcert hbrowser f hfingerprint

theorem exists_setup_of_mem (h : c'.setup = c.setup) {s : MediaSession} (hs : s ∈ c'.sessions) :
    ∃ t ∈ c.sessions, t.setup = s.setup := by
  simp only [setup, CallSetup.mk.injEq] at h
  rcases mem_sessions.1 hs with rfl | hv
  · exact ⟨c.audio, mem_sessions.2 (.inl rfl), h.1.symm⟩
  · have hvideo := h.2.1
    rw [hv, Option.map_some] at hvideo
    obtain ⟨t, ht, hset⟩ := Option.map_eq_some_iff.1 hvideo.symm
    exact ⟨t, mem_sessions.2 (.inr ht), hset⟩

namespace IsFresh

variable (h : c.IsFresh w browser)

include h

theorem isWritable_builder : c.builder.IsWritable where
  localAddress := h.localAddress
  externalAddress := by simp [h.external]

theorem isWritable_source (ssrc : UInt32) :
    Sdp.SourceAttribute.IsWritable ⟨ssrc, some c.exchange.cname⟩ := by
  constructor
  · rintro cname hc
    obtain rfl := Option.some.inj hc
    exact h.cname.notMem (by decide)
  · rintro cname hc
    obtain rfl := Option.some.inj hc
    exact fun x hx => h.cname.notBlank x (List.mem_of_getLast? hx)

/-- The certificates of the sessions stay what they are. -/
theorem isWritable_certificate (hsetup : c'.setup = c.setup) {s : MediaSession}
    (hs : s ∈ c'.sessions) (hbrowser : browser = true) : ∀ f ∈ s.fingerprint, f.IsWritable := by
  obtain ⟨t, ht, hset⟩ := exists_setup_of_mem hsetup hs
  have hfingerprint : t.fingerprint = s.fingerprint := congrArg SessionSetup.fingerprint hset
  intro f hf
  exact h.certificate hbrowser t ht f (hfingerprint ▸ hf)

end IsFresh

section Offered

variable {audio : Sdp.LocalMedia} {video : Option Sdp.LocalMedia}

/-- A session contributes to an offer what it can do. -/
theorem Offers.contributes {s : MediaSession} {l : Sdp.LocalMedia} (h : Offers browser s l) :
    s.Contributes browser l ∧ l.formats = s.negotiator.supported :=
  h.ready.contributes h.localMedia

theorem HasOffered.exists_session (h : c.HasOffered browser c' audio video) {l : Sdp.LocalMedia}
    (hl : l ∈ audio :: video.toList) : ∃ s ∈ c'.sessions, Offers browser s l := by
  rcases List.mem_cons.1 hl with rfl | hv
  · exact ⟨c'.audio, mem_sessions.2 (.inl rfl), h.offersAudio⟩
  · have hrel := h.offersVideo
    rw [Option.mem_toList.1 hv] at hrel
    generalize hc : c'.video = v at hrel
    cases hrel with
    | some ho => exact ⟨_, mem_sessions.2 (.inr hc), ho⟩

variable (hc : c.IsFresh w browser)
  (hf : ∀ s ∈ c.sessions, s.negotiator.supported.IsWritable)
  (h : c.HasOffered browser c' audio video)

include hc hf h

/-- Each section of an offer can be written. -/
theorem HasOffered.isWritable_mediaSection {l : Sdp.LocalMedia} (hl : l ∈ audio :: video.toList) :
    (c.builder.mediaSection true c.exchange.cname l).IsWritable := by
  obtain ⟨s, hs, ho⟩ := h.exists_session hl
  obtain ⟨hcontributes, hformats⟩ := ho.contributes
  obtain ⟨t, ht, hset⟩ := exists_setup_of_mem h.setup hs
  have hnegotiator : t.negotiator = s.negotiator := congrArg SessionSetup.negotiator hset
  have hwritable : l.formats.IsWritable := by
    rw [hformats, ← hnegotiator]
    exact hf t ht
  exact Sdp.Builder.isWritable_mediaSection hc.isWritable_builder
    (isWritable_contribution hcontributes hwritable (hc.isWritable_certificate h.setup hs))
    (hc.isWritable_source l.ssrc)

/-- An offer is read as it was written. -/
theorem HasOffered.ofText_text :
    let offer := c.builder.build w.descriptionId true c.exchange.cname (audio :: video.toList)
    Sdp.Description.ofText offer.text = .ok offer := by
  intro offer
  have hwritable : offer.IsWritable := by
    refine Sdp.Builder.isWritable_build hc.isWritable_builder hc.descriptionId true
      c.exchange.cname (audio :: video.toList) ?_
    intro m hm
    obtain ⟨l, hl, rfl⟩ := List.mem_map.1 hm
    exact h.isWritable_mediaSection hc hf hl
  refine Sdp.Description.ofText_text_of_normal hwritable ?_
  intro m hm
  obtain ⟨l, hl, rfl⟩ := List.mem_map.1 hm
  obtain ⟨s, hs, ho⟩ := h.exists_session hl
  obtain ⟨t, ht, hset⟩ := exists_setup_of_mem h.setup hs
  have hnegotiator : t.negotiator = s.negotiator := congrArg SessionSetup.negotiator hset
  refine Sdp.Builder.normal_mediaSection ?_
  rw [ho.contributes.2, ← hnegotiator]
  exact (hf t ht).distinct

end Offered

/-- All sections of an offer are for the same kind of other side. -/
theorem HasOffered.isFor {audio : Sdp.LocalMedia} {video : Option Sdp.LocalMedia}
    (h : c.HasOffered browser c' audio video) :
    let offer := c.builder.build w.descriptionId true c.exchange.cname (audio :: video.toList)
    offer.containsIce = browser ∧ offer.containsDtls = browser := by
  intro offer
  have hany {p : Sdp.LocalMedia → Bool} (hp : ∀ l ∈ audio :: video.toList, p l = browser) :
      (audio :: video.toList).any p = browser := by
    have hhead : p audio = browser := hp audio List.mem_cons_self
    cases browser with
    | true => exact List.any_eq_true.2 ⟨audio, List.mem_cons_self, hhead⟩
    | false => exact List.any_eq_false.2 fun l hl => by simp [hp l hl]
  have hcontributes : ∀ l ∈ audio :: video.toList, ∃ s : MediaSession, s.Contributes browser l := by
    intro l hl
    obtain ⟨s, -, ho⟩ := h.exists_session hl
    exact ⟨s, ho.contributes.1⟩
  constructor
  · rw [Sdp.Builder.containsIce_build]
    refine hany fun l hl => ?_
    obtain ⟨s, hs⟩ := hcontributes l hl
    exact hs.ice
  · rw [Sdp.Builder.containsDtls_build]
    refine hany fun l hl => ?_
    obtain ⟨s, hs⟩ := hcontributes l hl
    exact hs.dtls

/-- An answer is read as it was written. -/
theorem ofText_alignedAnswer (hc : c.IsFresh w browser) {d : Sdp.Description}
    (hd : ∀ m ∈ d.media, m.IsWritable) (hsetup : c'.setup = c.setup)
    (hcname : c'.exchange.cname = c.exchange.cname) {locals : List (Option Sdp.LocalMedia)}
    (hl : ∀ l, some l ∈ locals → l.IsWritable) :
    Sdp.Description.ofText (c'.alignedAnswer w d locals).text =
      .ok (c'.alignedAnswer w d locals) := by
  have hbuilder : c'.builder = c.builder := congrArg CallSetup.builder hsetup
  have hmem : ∀ m ∈ d.media.zipWith (answerSection c.builder c.exchange.cname) locals,
      ∃ m₀ ∈ d.media, ∃ l ∈ locals, answerSection c.builder c.exchange.cname m₀ l = m := by
    intro m hm
    rw [← List.map_uncurry_zip_eq_zipWith] at hm
    obtain ⟨⟨m₀, l⟩, hz, rfl⟩ := List.mem_map.1 hm
    obtain ⟨hm₀, hl₀⟩ := List.of_mem_zip hz
    exact ⟨m₀, hm₀, l, hl₀, rfl⟩
  have hwritable : (c'.alignedAnswer w d locals).IsWritable := by
    rw [alignedAnswer, hbuilder, hcname]
    refine Sdp.Builder.isWritable_build hc.isWritable_builder hc.descriptionId false
      c.exchange.cname (locals.filterMap id) ?_
    intro m hm
    obtain ⟨m₀, hm₀, l, hl₀, rfl⟩ := hmem m hm
    cases l with
    | none => exact Sdp.Builder.isWritable_rejection (hd m₀ hm₀).hasWords
    | some l =>
      exact Sdp.Builder.isWritable_mediaSection hc.isWritable_builder (hl l hl₀)
        (hc.isWritable_source l.ssrc)
  refine Sdp.Description.ofText_text_of_normal hwritable ?_
  intro m hm
  rw [alignedAnswer, hbuilder, hcname] at hm
  obtain ⟨m₀, -, l, hl₀, rfl⟩ := hmem m hm
  cases l with
  | none => exact Sdp.Builder.normal_rejection m₀
  | some l => exact Sdp.Builder.normal_mediaSection (hl l hl₀).formats.distinct

/-! ## Both sides -/

open Sdp.Description (isOpenSection)

theorem isOpenSection_mediaSection {b : Sdp.Builder} {offer : Bool} {cname : String}
    {s : MediaSession} {l : Sdp.LocalMedia} (h : s.Contributes browser l) (k : MediaType) :
    isOpenSection k (b.mediaSection offer cname l) = (s.media == k) := by
  have hport : (l.rtpAddress.port == 0) = false := by simpa using h.port
  rw [isOpenSection, Sdp.Builder.mediaType_mediaSection, Sdp.Builder.isRejected_mediaSection, hport,
    h.media]
  simp

/-- A session of the side that answers has answered an offered session: the section can be written,
and the session that was offered takes it. -/
structure Pairs (browser : Bool) (b : Sdp.Builder) (cname : String) (s t : MediaSession)
    (l : Sdp.LocalMedia) : Prop where
  contributes : t.Contributes browser l
  writable : l.IsWritable
  connects : ∀ w d, ∃ s', s.connect w d (b.mediaSection false cname l) = (.ok (), s') ∧
    s'.setup = s.setup ∧ s'.AgreesWith browser t

theorem pairs_of_prepareAnswer {b b' : Sdp.Builder} {cname : String} {d : Sdp.Description}
    {s t₀ t : MediaSession} {l l' : Sdp.LocalMedia} (hb : b.externalAddress = none)
    (hb' : b'.externalAddress = none) (hs : Offers browser s l)
    (hf : s.negotiator.supported.IsWritable) (hblank : t₀.IsBlank) (hserves : w.Serves t₀.seat)
    (hcert : browser = true → ∀ f ∈ t₀.fingerprint, f.IsWritable)
    (hd : d.containsIce = browser ∧ d.containsDtls = browser)
    (he : t₀.prepareAnswer w ports d (b.mediaSection true cname l) = (.ok l', t, ports'))
    (cname' : String) : Pairs browser b' cname' s t l' := by
  have hmux : (b.mediaSection true cname l).rtcpMux = browser := by
    rw [Sdp.Builder.rtcpMux_mediaSection]
    exact hs.contributes.1.shared
  obtain ⟨t₁, formats, hset, hready, hanswer, hl'⟩ :=
    MediaSession.isReady_prepareAnswer hblank hserves hmux hd.1 hd.2 he
  obtain ⟨hc', hformats⟩ :=
    MediaSession.contributes_of_answer hb hs.ready hs.localMedia hf hanswer hready hl'
  obtain ⟨-, hwritable⟩ :=
    MediaSession.isWritable_negotiated hb hs.ready hs.localMedia hf hanswer
  have hfingerprint : t.fingerprint = t₀.fingerprint :=
    congrArg SessionSetup.fingerprint (setup_of_prepareAnswer he)
  refine ⟨hc', isWritable_contribution hc' (hformats ▸ hwritable) (hfingerprint ▸ hcert), ?_⟩
  intro w' d'
  obtain ⟨s', hn, hagrees⟩ := MediaSession.agreesWith_of_answer hb hs.ready hs.localMedia hf hanswer
    hready hl' hb' cname' d'
  have hmux' : (b'.mediaSection false cname' l').rtcpMux = browser := by
    rw [Sdp.Builder.rtcpMux_mediaSection]
    exact hc'.shared
  have hsame : s'.setup = s.setup := by
    have h := MediaSession.setup_negotiate s d' (b'.mediaSection false cname' l')
    rw [hn] at h
    exact h
  exact ⟨s', hs.ready.connect hmux' hn, hsame, hagrees⟩

/-- What has become of the video that was offered, on the side that answers, and what the answer
says of it. -/
inductive AnswersVideo (browser : Bool) (b : Sdp.Builder) (cname : String) :
    Option MediaSession → Option MediaSession → List (Option Sdp.LocalMedia) → Prop
  | absent {video} (hclosed : ∀ t ∈ video, t.isOpen = false) :
      AnswersVideo browser b cname none video []
  | refused {s video} (hclosed : ∀ t ∈ video, t.isOpen = false) :
      AnswersVideo browser b cname (some s) video [none]
  | accepted {s t l} (hp : Pairs browser b cname s t l) :
      AnswersVideo browser b cname (some s) (some t) [some l]

section AnswersVideo

variable {b : Sdp.Builder} {cname : String} {offered video : Option MediaSession}
  {rest : List (Option Sdp.LocalMedia)}

theorem AnswersVideo.isWritable (h : AnswersVideo browser b cname offered video rest)
    {l : Sdp.LocalMedia} (hl : some l ∈ rest) : l.IsWritable := by
  cases h with
  | absent => simp at hl
  | refused => simp at hl
  | accepted hp => exact Option.some.inj (List.mem_singleton.1 hl) ▸ hp.writable

/-- In an answer there is a section for video exactly if the video session answers. -/
theorem AnswersVideo.find?_section (h : AnswersVideo browser b cname offered video rest)
    (hvideo : ∀ t ∈ video, t.media = .video) {ms : List Sdp.MediaSection}
    (hms : offered.isSome = true → ms ≠ []) :
    (ms.zipWith (answerSection b cname) rest).find? (isOpenSection .video) =
      rest.head?.join.map (b.mediaSection false cname) := by
  cases h with
  | absent => simp
  | refused =>
    cases ms with
    | nil => rfl
    | cons m ms =>
      have hclosed : isOpenSection .video (Sdp.Builder.rejection m) = false := by
        simp [isOpenSection]
      simp [answerSection, hclosed]
  | @accepted s t l hp =>
    obtain ⟨m, ms, rfl⟩ := List.exists_cons_of_ne_nil (hms rfl)
    have hopen : isOpenSection .video (b.mediaSection false cname l) = true := by
      rw [isOpenSection_mediaSection hp.contributes, hvideo t rfl]
      rfl
    simp [answerSection, hopen]

end AnswersVideo

/-- The side that made the offer does about video what the answer says. -/
theorem AnswersVideo.connectVideo {b : Sdp.Builder} {cname : String} {video : Option MediaSession}
    {rest : List (Option Sdp.LocalMedia)} (h : AnswersVideo browser b cname c.video video rest)
    (hc : c.setup.IsSeated) {d : Sdp.Description}
    (hd : d.sectionFor? .video = rest.head?.join.map (b.mediaSection false cname)) :
    ∃ video', c.connectVideo w d = (.ok (), { c with video := video' }) ∧
      ((∃ s t, video' = some s ∧ video = some t ∧ s.AgreesWith browser t) ∨
        ((∀ s ∈ video', s.isOpen = false) ∧ ∀ t ∈ video, t.isOpen = false)) := by
  generalize hv : c.video = v at h
  cases h with
  | absent hclosed =>
    refine ⟨none, ?_, .inr ⟨by simp, hclosed⟩⟩
    simp only [Call.connectVideo, hv]
    rw [← hv]
  | @refused s _ hclosed =>
    have hsame : s.media = .video := video_media hc hv
    have hmedia : s.close.media = .video := hsame
    refine ⟨some s.close, ?_, .inr ⟨?_, hclosed⟩⟩
    · simp only [Call.connectVideo, hv, hd, List.head?_cons, Option.join_some, Option.map_none]
      rw [withSession_of_video hmedia hv]
    · rintro s' hs'
      obtain rfl := Option.some.inj hs'
      rfl
  | @accepted s t l hp =>
    obtain ⟨s', hconnect, hset, hagrees⟩ := hp.connects (c.around w) d
    have hmedia : s'.media = .video := media_of_setup hset (video_media hc hv)
    refine ⟨some s', ?_, .inl ⟨s', t, rfl, rfl, hagrees⟩⟩
    simp only [Call.connectVideo, hv, hd, List.head?_cons, Option.join_some, Option.map_some,
      hconnect]
    rw [withSession_of_video hmedia hv]

section Exchange

variable {a a₁ b b₁ : Call} {w' : Surroundings} {audio : Sdp.LocalMedia}
  {video : Option Sdp.LocalMedia} (ha : a.IsFresh w browser) (hb : b.IsFresh w' browser)
  (hf : ∀ s ∈ a.sessions, s.negotiator.supported.IsWritable)
  (ho : a.HasOffered browser a₁ audio video)

include ha hb hf ho

/-- The answer to an offer takes audio, and perhaps video. -/
theorem answerSections_offer {locals : List (Option Sdp.LocalMedia)}
    (h : answerSections w' (a.builder.build w.descriptionId true a.exchange.cname
        (audio :: video.toList))
      ((audio :: video.toList).map (a.builder.mediaSection true a.exchange.cname)) [] b.called ports =
        (.ok locals, b₁, ports')) :
    b₁.setup = b.setup ∧ b₁.exchange.cname = b.exchange.cname ∧ ∃ l rest,
      locals = some l :: rest ∧ Pairs browser b.builder b.exchange.cname a₁.audio b₁.audio l ∧
      AnswersVideo browser b.builder b.exchange.cname a₁.video b₁.video rest := by
  have hsetup := setup_answerSections (c := b.called) hb.seated w'
    (a.builder.build w.descriptionId true a.exchange.cname (audio :: video.toList))
    ((audio :: video.toList).map (a.builder.mediaSection true a.exchange.cname)) [] ports
  rw [h] at hsetup
  refine ⟨hsetup, ?_⟩
  have hsupported {s : MediaSession} (hs : s ∈ a₁.sessions) :
      s.negotiator.supported.IsWritable := by
    obtain ⟨t, ht, hset⟩ := exists_setup_of_mem ho.setup hs
    have hnegotiator : t.negotiator = s.negotiator := congrArg SessionSetup.negotiator hset
    exact hnegotiator ▸ hf t ht
  have hmemA : a₁.audio ∈ a₁.sessions := mem_sessions.2 (.inl rfl)
  have hmemB : b.audio ∈ b.sessions := mem_sessions.2 (.inl rfl)
  have hopen : isOpenSection .audio (a.builder.mediaSection true a.exchange.cname audio) = true := by
    rw [isOpenSection_mediaSection ho.offersAudio.contributes.1,
      audio_media (c := a₁) (ho.setup ▸ ha.seated)]
    rfl
  obtain ⟨t, l, ports₁, rest, rfl, hp, hrest⟩ :=
    Answers.audio_first (c := b.called) hb.seated hopen (answers_of_ok h)
  have hpair : Pairs browser b.builder b.exchange.cname a₁.audio t l :=
    pairs_of_prepareAnswer ha.external hb.external ho.offersAudio (hsupported hmemA)
      (hb.blank b.audio hmemB) (serves_around b.called (hb.serves b.audio hmemB))
      (fun hbr => hb.certificate hbr b.audio hmemB) ho.isFor hp b.exchange.cname
  have hrel := ho.offersVideo
  generalize hva : a₁.video = va at hrel
  cases hrel with
  | none =>
    cases hrest
    refine ⟨rfl, l, [], rfl, hpair, .absent fun v hv => ?_⟩
    exact (hb.blank v (mem_sessions.2 (.inr hv))).isOpen
  | @some va lv hov =>
    have hmemV : va ∈ a₁.sessions := mem_sessions.2 (.inr hva)
    have hopenV : isOpenSection .video (a.builder.mediaSection true a.exchange.cname lv) = true := by
      rw [isOpenSection_mediaSection hov.contributes.1, video_media (ho.setup ▸ ha.seated) hva]
      rfl
    have hseated : Call.setup { b.called with audio := t } = b.setup := by
      simp only [setup, called, setup_of_prepareAnswer hp]
    rcases Answers.video_second (hseated ▸ hb.seated) hopenV hrest with
      ⟨vb, rfl, rfl, hclosed⟩ | ⟨v, tv, lv', ports₂, hv, rfl, rfl, hq⟩
    · exact ⟨rfl, l, [none], rfl, hpair, .refused hclosed⟩
    · have hmemW : v ∈ b.sessions := mem_sessions.2 (.inr hv)
      refine ⟨rfl, l, [some lv'], rfl, hpair, .accepted ?_⟩
      exact pairs_of_prepareAnswer ha.external hb.external hov (hsupported hmemV)
        (hb.blank v hmemW) (serves_around _ (hb.serves v hmemW))
        (fun hbr => hb.certificate hbr v hmemW) ho.isFor hq b.exchange.cname

/-- The answer to an offer is read as it was written, and its first open sections are those that the
sessions have contributed. -/
theorem exists_sections_of_answerOffer {text : String} {answer : Sdp.Description}
    (hread : Sdp.Description.ofText text =
      .ok (a.builder.build w.descriptionId true a.exchange.cname (audio :: video.toList)))
    (h : b.answerOffer w' ports text = (.ok answer, b₁, ports')) :
    ∃ l rest, Sdp.Description.ofText answer.text = .ok answer ∧
      Pairs browser b.builder b.exchange.cname a₁.audio b₁.audio l ∧
      AnswersVideo browser b.builder b.exchange.cname a₁.video b₁.video rest ∧
      answer.sectionFor? .audio = some (b.builder.mediaSection false b.exchange.cname l) ∧
      answer.sectionFor? .video =
        rest.head?.join.map (b.builder.mediaSection false b.exchange.cname) := by
  obtain ⟨d, -, locals, c₁, hd, -, hsections, rfl, rfl⟩ := exists_answerSections_of_ok h
  obtain rfl := Except.ok.inj (hread.symm.trans hd)
  obtain ⟨hsetup, hcname, l, rest, rfl, hpair, hvideo⟩ :=
    answerSections_offer ha hb hf ho hsections
  have hseated : c₁.setup.IsSeated := hsetup ▸ hb.seated
  have hoffered : ∀ m ∈ (a.builder.build w.descriptionId true a.exchange.cname
      (audio :: video.toList)).media, m.IsWritable := by
    intro m hm
    obtain ⟨l, hl, rfl⟩ := List.mem_map.1 hm
    exact ho.isWritable_mediaSection ha hf hl
  have hlocals : ∀ k, some k ∈ some l :: rest → k.IsWritable := by
    intro k hk
    rcases List.mem_cons.1 hk with hk | hk
    · exact Option.some.inj hk ▸ hpair.writable
    · exact hvideo.isWritable hk
  have hmedia : (c₁.alignedAnswer w' (a.builder.build w.descriptionId true a.exchange.cname
      (audio :: video.toList)) (some l :: rest)).media =
      b.builder.mediaSection false b.exchange.cname l ::
        (video.toList.map (a.builder.mediaSection true a.exchange.cname)).zipWith
          (answerSection b.builder b.exchange.cname) rest := by
    rw [alignedAnswer, hcname, show c₁.builder = b.builder from congrArg CallSetup.builder hsetup]
    rfl
  have haudio : isOpenSection .audio (b.builder.mediaSection false b.exchange.cname l) = true := by
    rw [isOpenSection_mediaSection hpair.contributes, audio_media hseated]
    rfl
  have hnotVideo :
      ¬isOpenSection .video (b.builder.mediaSection false b.exchange.cname l) = true := by
    rw [isOpenSection_mediaSection hpair.contributes, audio_media hseated]
    decide
  refine ⟨l, rest, ofText_alignedAnswer hb hoffered hsetup hcname hlocals, hpair, hvideo, ?_, ?_⟩
  · rw [Sdp.Description.sectionFor?, hmedia, List.find?_cons_of_pos haudio]
  · rw [Sdp.Description.sectionFor?, hmedia, List.find?_cons_of_neg hnotVideo]
    refine hvideo.find?_section (fun t ht => video_media hseated ht) fun hsome => ?_
    -- There is a section for video to answer, since there was a session to offer it.
    have hrel := ho.offersVideo
    generalize a₁.video = va at hrel hsome
    cases hrel with
    | none => simp at hsome
    | some => simp

omit ho

/-- If one side makes an offer, the other one answers it and the first one takes the answer, then the
first one succeeds, and the sides agree. -/
theorem agreesWith_of_exchange {offer answer : Sdp.Description}
    (hoffer : a.makeOffer w ports browser = (.ok offer, a₁, ports'))
    {portsB portsB' : PortRange}
    (hanswer : b.answerOffer w' portsB offer.text = (.ok answer, b₁, portsB')) (w'' : Surroundings) :
    ∃ a₂, a₁.applyAnswer w'' answer.text = (.ok (), a₂) ∧ a₂.AgreesWith browser b₁ := by
  obtain ⟨audio, video, rfl, ho⟩ := hasOffered_of_makeOffer ha hoffer
  have hseated : a₁.setup.IsSeated := ho.setup ▸ ha.seated
  obtain ⟨l, rest, hread, hpair, hvideo, haudioSection, hvideoSection⟩ :=
    exists_sections_of_answerOffer ha hb hf ho (ho.ofText_text ha hf) hanswer
  obtain ⟨s', hconnect, hset, hagrees⟩ := hpair.connects (a₁.around w'') answer
  have hs' : s'.media = .audio := media_of_setup hset (audio_media hseated)
  have hseated' : Call.setup { a₁ with audio := s' } = a₁.setup := by
    simp only [setup, hset]
  obtain ⟨video', hconnectVideo, hagreesVideo⟩ := hvideo.connectVideo
    (c := { a₁ with audio := s' }) (w := w'') (hseated' ▸ hseated) hvideoSection
  refine ⟨{ a₁ with
    audio := s', video := video',
    exchange := { a₁.exchange with remoteDescription := some answer } }, ?_, hagrees,
    hagreesVideo⟩
  simp only [applyAnswer, readRemote, hread, haudioSection, hconnect, withSession_of_audio hs',
    hconnectVideo]

end Exchange

end Call

end MediaGateway
