import MediaGateway.Proofs.Connection.Ports
import MediaGateway.Proofs.Sdp.Building

/-!
# Answers mirror offers

The answer to an offer has a section for each offered one, in the same place. The first open section
about audio is accepted, and the first open one about video may be; all others are refused. A section
that is accepted lists one of the offered formats for media, and one for telephone events if both
sides have them.
-/

namespace MediaGateway

namespace Sdp

open Description (isOpenSection)

/-! ## Mirroring -/

/-- A section of an answer accepts an offered one. -/
structure MediaSection.Accepts (a m : MediaSection) : Prop where
  /-- Control packets share the port of the media if that was offered. -/
  rtcpMux : a.rtcpMux = m.rtcpMux
  /-- A format for media is listed first, and after it at most one for telephone events; each was
  offered under its number, and means what it means in the offer. -/
  formats : ∃ (media : Format) (event : Option Format),
    media.isTelephoneEvent = false ∧ (∀ e ∈ event, e.isTelephoneEvent = true) ∧
    a.formats = (media :: event.toList).map (fun f => toString f.payloadType.toNat) ∧
    a.payloadTypes = (media :: event.toList).map Format.payloadType ∧ a.payloadTypes.Nodup ∧
    ∀ f ∈ media :: event.toList, f.payloadType ∈ m.payloadTypes ∧
      m.resolve? f.payloadType = some f ∧ a.format? f.payloadType = some f

/-- A section of an answer refuses an offered one. -/
structure MediaSection.Refuses (a m : MediaSection) : Prop where
  port : a.port = 0
  protocol : a.protocol = m.protocol
  formats : a.formats = m.formats
  /-- It says nothing else. -/
  rejection : a = Builder.rejection m

/-- A place in a description is that of the first open section about a medium. -/
def Description.IsFirst (d : Description) (kind : MediaType) (i : Nat) : Prop :=
  d.media.findIdx? (isOpenSection kind) = some i

/-- An answer has a section for each section of the offer. -/
structure Description.Mirrors (answer offer : Description) : Prop where
  length : answer.media.length = offer.media.length
  /-- It is about the same medium, -/
  token : ∀ (i : Nat) (m a : MediaSection), offer.media[i]? = some m → answer.media[i]? = some a →
    Text.sameUpToCase a.media m.media = true
  /-- and refuses the section, unless that is the first one about audio or video. -/
  sections : ∀ (i : Nat) (m a : MediaSection), offer.media[i]? = some m → answer.media[i]? = some a →
    (a.Accepts m ∧ (offer.IsFirst .audio i ∨ offer.IsFirst .video i)) ∨
      (a.Refuses m ∧ ¬offer.IsFirst .audio i)
  /-- Something about audio is accepted. -/
  audio : ∃ i, offer.IsFirst .audio i

/-- A medium that a description has an open section about has a first one. -/
theorem Description.exists_isFirst {d : Description} {kind : MediaType} {m : MediaSection}
    (h : d.sectionFor? kind = some m) : ∃ i, d.IsFirst kind i := by
  refine Option.isSome_iff_exists.1 ?_
  rw [List.findIdx?_isSome, List.any_eq_true]
  exact ⟨m, List.mem_of_find?_eq_some h, List.find?_some h⟩

namespace MediaSection

variable {a m : MediaSection}

theorem refuses_rejection (m : MediaSection) : (Builder.rejection m).Refuses m :=
  ⟨rfl, rfl, rfl, rfl⟩

/-- A refusal does not explain its payload numbers. -/
theorem Refuses.not_accepts (h : a.Refuses m) : ¬a.Accepts m := by
  intro ha
  obtain ⟨media, event, -, -, -, -, -, hmeans⟩ := ha.formats
  have hmedia := (hmeans media List.mem_cons_self).2.2
  rw [h.rejection] at hmedia
  simp [format?, mapping?, Builder.rejection] at hmedia

/-- The section of a session that takes an offered section accepts it. -/
theorem accepts_mediaSection {l : LocalMedia} (h : l.Takes m) (b : Builder) (cname : String) :
    (b.mediaSection false cname l).Accepts m := by
  obtain ⟨n, media, event, hagree⟩ := h.formats
  have hlists := Builder.lists_mediaSection b false cname l
  rw [Builder.listed_answer] at hlists
  have hnumbers : (b.mediaSection false cname l).payloadTypes =
      (media :: event.toList).map Format.payloadType := by
    rw [hlists.payloadTypes, FormatTable.payloadTypes, hagree.formats]
  constructor
  · rw [Builder.rtcpMux_mediaSection, h.rtcp]
  · refine ⟨media, event, hagree.media_isMedia, hagree.event_isEvent, ?_, hnumbers, ?_, ?_⟩
    · rw [hlists.formats, hagree.formats]
    · rw [hlists.payloadTypes]
      exact hagree.distinct
    · intro f hf
      rw [← hagree.formats] at hf
      obtain ⟨hnumber, hmeans⟩ := mem_offered (hagree.offered f hf)
      exact ⟨hnumber, hmeans, hlists.format? hagree.distinct hf⟩

/-- A section has the token of its medium, up to case. -/
theorem sameUpToCase_of_mediaType {kind : MediaType} (h : m.mediaType = some kind) :
    Text.sameUpToCase kind.token m.media = true := by
  simpa using List.find?_some h

end MediaSection

end Sdp

namespace Call

open Sdp.Description (isOpenSection)

variable {c c' : Call} {w : Surroundings} {ports ports' : PortRange} {d : Sdp.Description}
  {ms : List Sdp.MediaSection} {answered : List MediaType} {ls : List (Option Sdp.LocalMedia)}

/-! ## Sections in their places -/

/-- What a session contributes to a section is about its medium and takes the section. -/
structure Fits (m : Sdp.MediaSection) (l : Sdp.LocalMedia) : Prop where
  media : m.mediaType = some l.media
  takes : l.Takes m

/-- Contributions for sections, in their places: nothing more is contributed about the media that
were answered before, and else to the first open section of the medium only. For audio there is a
contribution. -/
def FitsSections (answered : List MediaType) (ms : List Sdp.MediaSection)
    (ls : List (Option Sdp.LocalMedia)) : Prop :=
  ∀ i m l?, ms[i]? = some m → ls[i]? = some l? →
    (∀ l ∈ l?, Fits m l ∧ l.media ∉ answered ∧
      ms.findIdx? (isOpenSection l.media) = some i ∧ l.media ≠ .application) ∧
    (.audio ∉ answered → ms.findIdx? (isOpenSection .audio) = some i → l?.isSome = true)

/-- The places of the sections behind the first one. -/
theorem FitsSections.cons {m : Sdp.MediaSection} {l? : Option Sdp.LocalMedia}
    (hl : ∀ l ∈ l?, Fits m l ∧ answeredMedium? answered m = some l.media ∧
      l.media ≠ .application)
    (haudio : answeredMedium? answered m = some .audio → l?.isSome = true)
    (h : FitsSections ((answeredMedium? answered m).toList ++ answered) ms ls) :
    FitsSections answered (m :: ms) (l? :: ls) := by
  have hnotMem {k : MediaType} (hk : k ∉ answered) :
      k ∉ (answeredMedium? answered m).toList ++ answered ↔ isOpenSection k m = false := by
    rw [List.mem_append, Option.mem_toList, answeredMedium?_eq_some]
    cases isOpenSection k m <;> simp [hk]
  intro i m' l' hm hl'
  cases i with
  | zero =>
    obtain rfl : m = m' := by simpa using hm
    obtain rfl : l? = l' := by simpa using hl'
    refine ⟨fun l hmem => ?_, fun hnot hfirst => haudio ?_⟩
    · obtain ⟨hfits, hmedium, hne⟩ := hl l hmem
      obtain ⟨hopen, hnot⟩ := answeredMedium?_eq_some.1 hmedium
      exact ⟨hfits, hnot, by simp [List.findIdx?_cons, hopen], hne⟩
    · refine answeredMedium?_eq_some.2 ⟨?_, hnot⟩
      by_contra hclosed
      simp [List.findIdx?_cons, hclosed] at hfirst
  | succ i =>
    obtain ⟨hrest, hrestAudio⟩ := h i m' l' (by simpa using hm) (by simpa using hl')
    refine ⟨fun l hmem => ?_, fun hnot hfirst => ?_⟩
    · obtain ⟨hfits, hnot, hfirst, hne⟩ := hrest l hmem
      have hbefore : l.media ∉ answered := fun hin => hnot (List.mem_append_right _ hin)
      have hclosed := (hnotMem hbefore).1 hnot
      exact ⟨hfits, hbefore, by simp [List.findIdx?_cons, hclosed, hfirst], hne⟩
    · rw [List.findIdx?_cons] at hfirst
      cases hopen : isOpenSection .audio m with
      | true => simp [hopen] at hfirst
      | false =>
        refine hrestAudio ((hnotMem hnot).2 hopen) ?_
        simpa [hopen] using hfirst

theorem Answers.length_eq (ha : Answers w d ms answered c ports ls c' ports') :
    ls.length = ms.length := by
  induction ha with
  | nil => rfl
  | skip _ _ ih | accept _ _ _ ih | refuse _ _ _ _ _ ih => simp [ih]

/-- Sessions contribute to the sections that are for them, by induction on the sections. -/
theorem Answers.fitsSections (ha : Answers w d ms answered c ports ls c' ports')
    (h : c.setup.IsSeated) : FitsSections answered ms ls := by
  induction ha with
  | nil =>
    intro i m l? hm
    simp at hm
  | @skip m rest answered c ports ls c' ports' hs _ ih =>
    refine .cons (by simp) (fun haudio => ?_) (ih h)
    simp [haudio, session?] at hs
  | @accept m rest answered c ports ls c' ports' s l s' ports₁ hs hp _ ih =>
    obtain ⟨hk, hks⟩ := answered_of_bind h hs
    obtain ⟨hmedia, htakes, -⟩ := MediaSession.takes_of_prepareAnswer hp
    have hw : (c.withSession s').setup = c.setup :=
      setup_withSession (holds_of_session? h hks (setup_of_prepareAnswer hp))
    refine .cons (fun l' hl' => ?_) (fun _ => rfl) (ih (hw ▸ h))
    obtain rfl := Option.some.inj hl'
    obtain ⟨hopen, -⟩ := answeredMedium?_eq_some.1 hk
    simp only [isOpenSection, Bool.and_eq_true, beq_iff_eq] at hopen
    refine ⟨⟨by rw [hmedia]; exact hopen.1, htakes⟩, by rw [hmedia]; exact hk, ?_⟩
    rw [hmedia]
    intro happlication
    simp [happlication, session?] at hks
  | @refuse m rest answered c ports ls c' ports' s e s' ports₁ hs hp hne _ _ ih =>
    obtain ⟨hk, hks⟩ := answered_of_bind h hs
    have hsetup := setup_of_prepareAnswer hp
    have hw : (c.withSession s'.close).setup = c.setup :=
      setup_withSession (holds_of_session? h hks (by simpa using hsetup))
    refine .cons (by simp) (fun haudio => ?_) (ih (hw ▸ h))
    rw [hk] at haudio
    exact absurd ((media_of_setup hsetup rfl).trans (Option.some.inj haudio)) hne

/-- There is a contribution to the first open section about audio. -/
theorem Answers.exists_contribution {i : Nat} (ha : Answers w d d.media [] c ports ls c' ports')
    (h : c.setup.IsSeated) (hi : d.IsFirst .audio i) : ∃ l, some l ∈ ls := by
  obtain ⟨hlt, -⟩ := List.findIdx?_eq_some_iff_getElem.1 hi
  have hin : i < ls.length := by rwa [ha.length_eq]
  obtain ⟨l, hl⟩ := Option.isSome_iff_exists.1 <|
    (ha.fitsSections h i d.media[i] ls[i] (List.getElem?_eq_getElem hlt)
      (List.getElem?_eq_getElem hin)).2 List.not_mem_nil hi
  exact ⟨l, hl ▸ List.getElem_mem hin⟩

/-! ## The answer -/

/-- An answer that was made mirrors the offer, and the sections that it accepts are at real ports if
the host binds sockets at such. -/
theorem mirrors_of_answerOffer {text : String} {answer : Sdp.Description} (h : c.setup.IsSeated)
    (he : c.answerOffer w ports text = (.ok answer, c', ports')) :
    ∃ d, Sdp.Description.ofText text = .ok d ∧ answer.Mirrors d ∧
      (w.host.network.BindsRealPorts → c.IsAtRealPorts →
        ∀ (i : Nat) (m a : Sdp.MediaSection), d.media[i]? = some m → answer.media[i]? = some a →
          a.Accepts m → a.port ≠ 0) := by
  obtain ⟨d, m₀, ls, c₁, hd, hm₀, hsections, rfl, rfl⟩ := exists_answerSections_of_ok he
  have ha := answers_of_ok hsections
  have hfits := ha.fitsSections h
  have hlength := ha.length_eq
  -- The section at a place is made of the contribution for it.
  have hat {i : Nat} {m a : Sdp.MediaSection} (hm : d.media[i]? = some m)
      (hi : (c₁.alignedAnswer w d ls).media[i]? = some a) :
      ∃ l?, ls[i]? = some l? ∧ a = answerSection c₁.builder c₁.exchange.cname m l? := by
    simp only [alignedAnswer, List.getElem?_zipWith, hm] at hi
    cases hl : ls[i]? with
    | none => simp [hl] at hi
    | some l? => exact ⟨l?, rfl, by simpa [hl, eq_comm] using hi⟩
  refine ⟨d, hd, ⟨?_, fun i m a hm hi => ?_, fun i m a hm hi => ?_, ?_⟩, ?_⟩
  · simp [alignedAnswer, hlength]
  · obtain ⟨l?, hl, rfl⟩ := hat hm hi
    cases l? with
    | none => simp [answerSection, Sdp.Builder.rejection]
    | some l =>
      obtain ⟨hfit, -⟩ := (hfits i m _ hm hl).1 l rfl
      have hsame := Sdp.MediaSection.sameUpToCase_of_mediaType hfit.media
      rw [answerSection, Sdp.Builder.mediaSection_eq]
      exact hsame
  · obtain ⟨l?, hl, rfl⟩ := hat hm hi
    obtain ⟨hsome, haudio⟩ := hfits i m l? hm hl
    cases l? with
    | none =>
      refine .inr ⟨Sdp.MediaSection.refuses_rejection m, fun hfirst => ?_⟩
      simpa using haudio List.not_mem_nil hfirst
    | some l =>
      obtain ⟨hfit, -, hfirst, hne⟩ := hsome l rfl
      refine .inl ⟨Sdp.MediaSection.accepts_mediaSection hfit.takes _ _, ?_⟩
      cases hmedia : l.media with
      | audio => exact .inl (hmedia ▸ hfirst)
      | video => exact .inr (hmedia ▸ hfirst)
      | application => exact absurd hmedia hne
  · exact Sdp.Description.exists_isFirst hm₀
  · intro hw hports i m a hm hi haccepts
    obtain ⟨l?, hl, rfl⟩ := hat hm hi
    cases l? with
    | none => exact absurd haccepts (Sdp.MediaSection.refuses_rejection m).not_accepts
    | some l =>
      have hport := ha.realPorts hw hports l (List.mem_of_getElem? hl)
      rw [answerSection, Sdp.Builder.mediaSection_eq]
      exact hport

end Call

end MediaGateway
