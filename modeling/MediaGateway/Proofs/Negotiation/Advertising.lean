import MediaGateway.Proofs.Negotiation.Displacement
import MediaGateway.Proofs.Sdp.Building

/-!
# What an offer advertises

An offer lists what a session supports, but of telephone events only the format with the usual payload
number. There is one if the session was configured with one, or without telephone events at the usual
rate: then it is put there. A session that was configured with these under another number is content
with them, although no offer lists them.
-/

namespace MediaGateway

namespace FormatTable

variable {t : FormatTable} {f : Format}

/-- The formats other than telephone events. -/
def codecs (t : FormatTable) : List Format := t.toList.filter fun f => !f.isTelephoneEvent

/-- The formats of telephone events. -/
def events (t : FormatTable) : List Format := t.toList.filter Format.isTelephoneEvent

/-- The format of telephone events with the usual payload number. -/
def usualEvent? (t : FormatTable) : Option Format :=
  (t.find? Format.telephoneEventPayload).filter Format.isTelephoneEvent

/-- A payload number is that of one format at most. -/
theorem Distinct.filter_payloadType (h : t.Distinct) (payloadType : UInt8) :
    t.toList.filter (fun f => f.payloadType = payloadType) = (t.find? payloadType).toList := by
  obtain ⟨formats⟩ := t
  unfold find?
  induction formats with
  | nil => rfl
  | cons f rest ih =>
    obtain ⟨hf, hrest⟩ := List.nodup_cons.1 h
    by_cases hnumber : f.payloadType = payloadType
    · have hnone : rest.filter (fun g => g.payloadType = payloadType) = [] := by
        refine List.filter_eq_nil_iff.2 fun g hg hsame => hf ?_
        rw [hnumber, ← of_decide_eq_true hsame]
        exact List.mem_map_of_mem hg
      rw [List.filter_cons_of_pos (by simpa using hnumber),
        List.find?_cons_of_pos (by simpa using hnumber), hnone]
      rfl
    · rw [List.filter_cons_of_neg (by simpa using hnumber),
        List.find?_cons_of_neg (by simpa using hnumber)]
      exact ih hrest

theorem mem_usualEvent? (h : t.Distinct) : t.usualEvent? = some f ↔
    f ∈ t.toList ∧ f.isTelephoneEvent = true ∧ f.payloadType = Format.telephoneEventPayload := by
  unfold usualEvent?
  rw [Option.filter_eq_some_iff]
  constructor
  · rintro ⟨hfind, hevent⟩
    exact ⟨List.mem_of_find?_eq_some hfind, hevent, by simpa using List.find?_some hfind⟩
  · rintro ⟨hmem, hevent, hnumber⟩
    refine ⟨?_, hevent⟩
    rw [← hnumber]
    exact h.find?_eq_some hmem

/-- Whether the offers of an audio session with the table list telephone events: they have the usual
payload number, or it is given to them because the table has none at the usual rate. -/
def OffersEvents (t : FormatTable) : Prop :=
  t.supports Profile.telephoneEvent = true →
    ∃ f ∈ t.toList, f.isTelephoneEvent = true ∧ f.payloadType = Format.telephoneEventPayload

theorem isSome_usualEvent?_iff (h : t.Distinct) :
    (Negotiator.withTelephoneEvents .audio t).usualEvent?.isSome = true ↔ t.OffersEvents := by
  have hd := Negotiator.distinct_withTelephoneEvents h .audio
  rw [Option.isSome_iff_exists]
  simp only [mem_usualEvent? hd]
  unfold OffersEvents Negotiator.withTelephoneEvents
  by_cases hsupports : t.supports Profile.telephoneEvent = true
  · simp [hsupports]
  · have hadded : Profile.telephoneEvent ∈ (t.add Profile.telephoneEvent).toList :=
      t.mem_add_self Profile.telephoneEvent
    have hevent : Profile.telephoneEvent.isTelephoneEvent = true := by decide +kernel
    rw [if_pos ⟨rfl, by simp [hsupports]⟩]
    exact ⟨fun _ hpresent => absurd hpresent hsupports, fun _ => ⟨_, hadded, hevent, rfl⟩⟩

end FormatTable

/-- A section advertises what a side supports, with one format of telephone events at most. -/
structure Sdp.MediaSection.Advertises (m : Sdp.MediaSection) (supported : FormatTable) : Prop where
  /-- What is said about payload numbers is what is offered: they are listed and explained in order, -/
  lists : m.Lists m.offered
  /-- each as what it is supported as, -/
  mappings : ∀ f ∈ m.offered.toList, m.mapping? f.payloadType = some (Sdp.mapping f)
  /-- with its own parameters. -/
  parameters : ∀ f ∈ m.offered.toList, m.fmtps.get? f.payloadType = f.parameters
  /-- The order is that of the supported formats, -/
  order : m.offered.toList.Sublist supported.toList
  /-- which are all there except for telephone events. -/
  codecs : m.offered.codecs = supported.codecs
  /-- Of these there is the one with the usual payload number, if it is supported. -/
  events : m.offered.events = supported.usualEvent?.toList

namespace Sdp.Builder

variable {l : LocalMedia}

/-- An offer lists all formats other than telephone events, -/
theorem codecs_listed (l : LocalMedia) : (listed true l).codecs = l.formats.codecs := by
  unfold FormatTable.codecs listed
  rw [List.filter_filter]
  refine List.filter_congr fun f _ => ?_
  unfold lists
  cases f.isTelephoneEvent <;> simp

/-- and of telephone events the usual one. -/
theorem events_listed (h : l.formats.Distinct) :
    (listed true l).events = l.formats.usualEvent?.toList := by
  have hboth : (listed true l).events =
      (l.formats.toList.filter fun f => f.payloadType = Format.telephoneEventPayload).filter
        Format.isTelephoneEvent := by
    unfold FormatTable.events listed
    rw [List.filter_filter, List.filter_filter]
    refine List.filter_congr fun f _ => ?_
    unfold lists
    by_cases hnumber : f.payloadType = Format.telephoneEventPayload <;>
      cases f.isTelephoneEvent <;> simp [hnumber]
  rw [hboth, h.filter_payloadType, FormatTable.usualEvent?]
  cases l.formats.find? Format.telephoneEventPayload with
  | none => rfl
  | some f => cases hf : f.isTelephoneEvent <;> simp [Option.filter, hf]

theorem advertises_mediaSection (h : l.formats.Distinct) (b : Builder) (cname : String) :
    (b.mediaSection true cname l).Advertises l.formats := by
  have hoffered : (b.mediaSection true cname l).offered = listed true l := offered_mediaSection h
  have hlists := lists_mediaSection b true cname l
  have hd : (listed true l).Distinct := distinct_listed h
  constructor <;> rw [hoffered]
  case lists => exact hlists
  case mappings => exact fun f hf => hlists.mapping? hd hf
  case parameters => exact fun f hf => hlists.get? hd hf
  case order => exact List.filter_sublist
  case codecs => exact codecs_listed l
  case events => exact events_listed h

end Sdp.Builder

namespace MediaSession

/-- An audio session supports telephone events and can make an offer whenever it is open. Its section
in an offer lists all other formats that it supports in order, each with its payload number, meaning
and parameters. There is exactly one format of telephone events beside them if the session was
configured with one that has the usual payload number, or with none at the usual rate; otherwise there
is none. -/
theorem offer_advertises_supported {config : SessionConfig} (h : config.formats.Distinct)
    (connection : UInt32) (numbering : Numbering) (calls : List SessionCall) :
    let s := (make ⟨connection, .audio⟩ config numbering).run calls
    let supported := s.negotiator.supported
    supported.supports Profile.telephoneEvent = true ∧
    (s.isOpen = true → ∃ l, s.localMedia true = .ok l) ∧
    ∀ l, s.localMedia true = .ok l → ∀ (b : Sdp.Builder) id cname before after, ∃ m,
      (b.build id true cname (before ++ l :: after)).media[before.length]? = some m ∧
      m.mediaType = some .audio ∧ m.Advertises supported ∧
      (config.formats.OffersEvents → ∃ event, m.offered.events = [event]) ∧
      (¬ config.formats.OffersEvents → m.offered.events = []) := by
  intro s supported
  have hn : s.negotiator = .symmetric .audio config.formats :=
    negotiator_run ⟨connection, .audio⟩ config numbering calls
  have hsupported : supported = Negotiator.withTelephoneEvents .audio config.formats := by
    show s.negotiator.supported = _
    rw [hn, Negotiator.supported_symmetric h]
  refine ⟨?_, fun hopen => exists_localMedia hopen true, ?_⟩
  · rw [hsupported, FormatTable.supports_iff]
    exact Negotiator.telephoneEvent_mem config.formats
  · intro l hl b id cname before after
    obtain ⟨hsame, -, hformats⟩ := contribution_of_localMedia hl
    have hmedia : l.media = .audio := hsame.trans (media_eq_of_setup (setup_run _ calls))
    have hformats : l.formats = supported := hformats
    have hd : l.formats.Distinct := by
      rw [hformats, hsupported]
      exact Negotiator.distinct_withTelephoneEvents h .audio
    have hadvertises := Sdp.Builder.advertises_mediaSection hd b cname
    rw [hformats] at hadvertises
    refine ⟨_, Sdp.Builder.getElem?_build b id true cname before after l, ?_, hadvertises, ?_, ?_⟩
    · rw [Sdp.Builder.mediaType_mediaSection, hmedia]
    · intro hevents
      rw [← FormatTable.isSome_usualEvent?_iff h, ← hsupported] at hevents
      obtain ⟨event, hevent⟩ := Option.isSome_iff_exists.1 hevents
      refine ⟨event, ?_⟩
      rw [hadvertises.events, hevent]
      rfl
    · intro hevents
      rw [← FormatTable.isSome_usualEvent?_iff h, ← hsupported, Bool.not_eq_true] at hevents
      have hnone : supported.usualEvent? = none := by simpa using hevents
      rw [hadvertises.events, hnone]
      rfl

/-- Of telephone events at two rates an offer lists those with the usual payload number. -/
theorem offer_advertises_supported_of_two_rates :
    let wide : Format := .make 101 "telephone-event" 16000
    let formats : FormatTable :=
      ⟨[.make 96 "telephone-event" 8000, .make 0 "PCMU" 8000, wide]⟩
    let s := (make ⟨1, .audio⟩ ⟨.default, formats, none⟩ default).run
      [.openOn ⟨.isolated, .loopback, []⟩ (.make 0 0)]
    formats.Distinct ∧ formats.OffersEvents ∧ ∃ l m, s.localMedia true = .ok l ∧
      ((Sdp.Builder.make "127.0.0.1" none).build "0" true "1" [l]).media[0]? = some m ∧
      m.Advertises s.negotiator.supported ∧ m.offered.codecs = [.make 0 "PCMU" 8000] ∧
      m.offered.events = [wide] := by
  intro wide formats s
  have hd : formats.Distinct := by decide
  have hevents : formats.OffersEvents := fun _ => ⟨wide, by decide, by decide +kernel, rfl⟩
  let config : SessionConfig := ⟨.default, formats, none⟩
  have hconfig : config.formats.Distinct := hd
  obtain ⟨-, hopen, hoffer⟩ := offer_advertises_supported hconfig 1 default
    [.openOn ⟨.isolated, .loopback, []⟩ (.make 0 0)]
  obtain ⟨l, hl⟩ := hopen (by decide +kernel)
  obtain ⟨m, hm, -, hadvertises, -, -⟩ :=
    hoffer l hl (.make "127.0.0.1" none) "0" "1" [] []
  refine ⟨hd, hevents, l, m, hl, hm, hadvertises, ?_, ?_⟩
  · rw [hadvertises.codecs]
    decide +kernel
  · rw [hadvertises.events]
    decide +kernel

/-- A session that was configured with telephone events under another number supports them, and makes
offers without any. -/
theorem offer_lacks_renumbered_events :
    let formats : FormatTable := ⟨[.make 0 "PCMU" 8000, .make 96 "telephone-event" 8000]⟩
    let s := (make ⟨1, .audio⟩ ⟨.default, formats, none⟩ default).run
      [.openOn ⟨.isolated, .loopback, []⟩ (.make 0 0)]
    let offer := (s.localMedia true).toOption.map fun l =>
      ((Sdp.Builder.make "127.0.0.1" none).build "0" true "1" [l]).media
    s.negotiator.supported = formats ∧
    s.negotiator.supported.events = [.make 96 "telephone-event" 8000] ∧
    offer.map (List.map Sdp.MediaSection.formats) = some [["0"]] ∧
    offer.map (List.map fun m => m.offered.events) = some [[]] := by
  decide +kernel

end MediaSession

end MediaGateway
