import MediaGateway.Proofs.Negotiation.Selection
import MediaGateway.Proofs.Session.Run

/-!
# What telephone events displace

A table of audio formats without telephone events is given them under the payload number of the
profile. Tables are keyed by payload numbers, so the format that has this number gives way. `spared`
are the others: what a side supports is what both its tables are spared, and telephone events.

Nothing gives way in a table that has telephone events already, or nothing under that number.
-/

namespace MediaGateway

namespace FormatTable

variable {t : FormatTable} {f g : Format}

/-! ## The formats that stay -/

/-- The formats that stay when a table of audio formats is given telephone events. -/
def spared (t : FormatTable) : List Format :=
  if t.supports Profile.telephoneEvent then t.toList
  else t.toList.filter fun f => f.payloadType ≠ Format.telephoneEventPayload

/-- Whether a format with the encoding of `f` stays. -/
def Spares (t : FormatTable) (f : Format) : Prop :=
  ∃ g ∈ t.spared, g.sameEncoding f = true

/-- Whether there are telephone events, or nothing in the place where they would be put. -/
def HasRoom (t : FormatTable) : Prop :=
  t.supports Profile.telephoneEvent = true ∨ Format.telephoneEventPayload ∉ t.payloadTypes

theorem spared_eq (h : t.HasRoom) : t.spared = t.toList := by
  unfold spared
  split
  · rfl
  · rename_i hmissing
    have hfree := h.resolve_left hmissing
    apply List.filter_eq_self.2
    intro f hf
    have hne : f.payloadType ≠ Format.telephoneEventPayload := by
      intro hnumber
      exact hfree (hnumber ▸ List.mem_map_of_mem hf)
    exact decide_eq_true hne

/-- Telephone events displace no telephone events. -/
theorem Spares.of_telephoneEvent (h : t.supports f = true)
    (hf : Profile.telephoneEvent.sameEncoding f = true) : t.Spares f := by
  obtain ⟨g, hg, hgf⟩ := supports_iff.1 h
  have hevent : t.supports Profile.telephoneEvent = true :=
    supports_iff.2 ⟨g, hg, Format.sameEncoding_trans hgf (Format.sameEncoding_symm hf)⟩
  refine ⟨g, ?_, hgf⟩
  rwa [spared_eq (.inl hevent)]

end FormatTable

namespace Negotiator

variable {t : FormatTable} {f g : Format}

theorem spared_sublist (t : FormatTable) :
    t.spared.Sublist (withTelephoneEvents .audio t).toList := by
  unfold FormatTable.spared withTelephoneEvents
  by_cases hevent : t.supports Profile.telephoneEvent = true
  · simp [hevent]
  · simp only [hevent, Bool.false_eq_true, if_false, Bool.not_false, and_self, if_true]
    exact (t.filter_add Profile.telephoneEvent) ▸ List.filter_sublist

theorem mem_withTelephoneEvents (h : t.Distinct)
    (hg : g ∈ (withTelephoneEvents .audio t).toList) :
    g ∈ t.spared ∨ g = Profile.telephoneEvent := by
  unfold withTelephoneEvents at hg
  by_cases hevent : t.supports Profile.telephoneEvent = true
  · simp only [hevent, Bool.not_true, Bool.false_eq_true, and_false, if_false] at hg
    rw [FormatTable.spared_eq (.inl hevent)]
    exact .inl hg
  · simp only [hevent, Bool.not_false, and_self, if_true] at hg
    by_cases hnumber : g.payloadType = Profile.telephoneEvent.payloadType
    · right
      exact (h.add _).eq_of_payloadType hg (t.mem_add_self _) hnumber
    · left
      unfold FormatTable.spared
      rw [if_neg hevent]
      have hkept : g ∈ (t.add Profile.telephoneEvent).toList.filter
          (fun f => f.payloadType ≠ Profile.telephoneEvent.payloadType) :=
        List.mem_filter.2 ⟨hg, decide_eq_true hnumber⟩
      rw [t.filter_add] at hkept
      exact hkept

theorem telephoneEvent_mem (t : FormatTable) :
    ∃ g ∈ (withTelephoneEvents .audio t).toList,
      g.sameEncoding Profile.telephoneEvent = true := by
  unfold withTelephoneEvents
  by_cases hevent : t.supports Profile.telephoneEvent = true
  · simp only [hevent, Bool.not_true, Bool.false_eq_true, and_false, if_false]
    exact FormatTable.supports_iff.1 hevent
  · simp only [hevent, Bool.not_false, and_self, if_true]
    exact ⟨_, t.mem_add_self _, Format.sameEncoding_refl _⟩

/-- A table has the encodings that stay, and telephone events. -/
theorem supports_withTelephoneEvents (h : t.Distinct) :
    (∃ g ∈ (withTelephoneEvents .audio t).toList, g.sameEncoding f = true) ↔
      t.Spares f ∨ Profile.telephoneEvent.sameEncoding f = true := by
  constructor
  · rintro ⟨g, hg, hgf⟩
    rcases mem_withTelephoneEvents h hg with hspared | rfl
    · exact .inl ⟨g, hspared, hgf⟩
    · exact .inr hgf
  · rintro (⟨g, hg, hgf⟩ | hevent)
    · exact ⟨g, (spared_sublist t).subset hg, hgf⟩
    · obtain ⟨g, hg, hgevent⟩ := telephoneEvent_mem t
      exact ⟨g, hg, Format.sameEncoding_trans hgevent hevent⟩

/-! ## What a side still supports -/

variable {receivable sendable : FormatTable}

theorem worksBothWays_telephoneEvent (receivable sendable : FormatTable) :
    (make .audio receivable sendable).WorksBothWays Profile.telephoneEvent :=
  ⟨telephoneEvent_mem receivable, telephoneEvent_mem sendable⟩

/-- An encoding that both tables have works in both directions if both are spared it. -/
theorem worksBothWays_iff_spares (hreceivable : receivable.Distinct) (hsendable : sendable.Distinct)
    (hf : receivable.supports f = true) (hf' : sendable.supports f = true) :
    (make .audio receivable sendable).WorksBothWays f ↔ receivable.Spares f ∧ sendable.Spares f := by
  unfold WorksBothWays make
  simp only
  rw [supports_withTelephoneEvents hreceivable, supports_withTelephoneEvents hsendable]
  constructor
  · rintro ⟨hin, hout⟩
    exact ⟨hin.elim id (.of_telephoneEvent hf), hout.elim id (.of_telephoneEvent hf')⟩
  · rintro ⟨hin, hout⟩
    exact ⟨.inl hin, .inl hout⟩

theorem toList_supported (hreceivable : receivable.Distinct) (sendable : FormatTable) :
    let n := make .audio receivable sendable
    n.supported.toList = n.receivable.toList.filter n.sendable.supports := by
  intro n
  have hn : n.receivable.Distinct := distinct_withTelephoneEvents hreceivable .audio
  exact hn.toList_intersection n.sendable

/-- What stays to be received, and can be sent, is supported in its order. -/
theorem sublist_supported (hreceivable : receivable.Distinct) (sendable : FormatTable) :
    let n := make .audio receivable sendable
    (receivable.spared.filter n.sendable.supports).Sublist n.supported.toList := by
  intro n
  rw [toList_supported hreceivable]
  exact (spared_sublist receivable).filter _

/-- What stays to be sent can be sent. -/
theorem supports_sendable_of_spares (h : sendable.Spares f) (receivable : FormatTable) :
    (make .audio receivable sendable).sendable.supports f = true := by
  obtain ⟨g, hg, hgf⟩ := h
  exact FormatTable.supports_iff.2 ⟨g, (spared_sublist sendable).subset hg, hgf⟩

/-! ## What a session offers and accepts -/

/-- A side accepts an offer of an encoding that works in both directions. -/
theorem select_of_worksBothWays {n : Negotiator} {offered : FormatTable}
    (h : n.receivable.Distinct) (hf : n.WorksBothWays f) (hmedia : f.isTelephoneEvent = false)
    (hg : g ∈ offered.toList) (hfg : f.sameEncoding g = true) :
    ∃ agreed, n.select offered = .ok agreed := by
  obtain ⟨⟨a, ha, haf⟩, b, hb, hbf⟩ := hf
  have hworks : n.WorksBothWays g :=
    ⟨⟨a, ha, Format.sameEncoding_trans haf hfg⟩, b, hb, Format.sameEncoding_trans hbf hfg⟩
  have hkind : g.isTelephoneEvent = false := (Format.isTelephoneEvent_congr hfg).symm.trans hmedia
  rcases select_cases h offered with ⟨-, hnone⟩ | ⟨codec, event, -, hok⟩
  · exact absurd ⟨hworks, hkind⟩ (hnone g hg)
  · exact ⟨_, hok⟩

/-- A side refuses an offer of nothing but an encoding that does not work in both directions. -/
theorem select_renumbered_of_not {n : Negotiator} (h : n.receivable.Distinct)
    (hf : ¬ n.WorksBothWays f) (payloadType : UInt8) :
    n.select ⟨[f.renumbered payloadType]⟩ = .error (.codecsNotNegotiated n.media) := by
  rcases select_cases h ⟨[f.renumbered payloadType]⟩ with ⟨herror, -⟩ | ⟨codec, event, hselects, -⟩
  · exact herror
  · have hcodec : codec = f.renumbered payloadType := List.mem_singleton.1 hselects.media.mem
    have hworks : n.WorksBothWays (f.renumbered payloadType) := hcodec ▸ hselects.media.1.1
    exact absurd hworks hf

end Negotiator

namespace MediaSession

variable {s : MediaSession} {f : Format}

theorem negotiator_run (seat : Seat) (config : SessionConfig) (numbering : Numbering)
    (calls : List SessionCall) :
    ((make seat config numbering).run calls).negotiator = .symmetric seat.media config.formats :=
  congrArg SessionSetup.negotiator (setup_run _ calls)

theorem formats_of_localMedia {l : Sdp.LocalMedia} (h : s.localMedia true = .ok l) :
    l.formats = s.negotiator.supported :=
  (contribution_of_localMedia h).2.2

theorem exists_localMedia (h : s.isOpen = true) (offer : Bool) :
    ∃ l, s.localMedia offer = .ok l := by
  obtain ⟨t, ht⟩ := Option.isSome_iff_exists.1 h
  unfold localMedia
  rw [ht]
  exact ⟨_, rfl⟩

/-- What a session makes of an encoding that it is left with. -/
structure Serves (s : MediaSession) (f : Format) : Prop where
  /-- Its offers list it. -/
  offers : s.isOpen = true → ∃ l, s.localMedia true = .ok l ∧ l.formats.supports f = true
  /-- An offer of it is accepted, under whatever number and with whatever else is offered. -/
  accepts : f.isTelephoneEvent = false → ∀ offered : FormatTable, ∀ g ∈ offered.toList,
    f.sameEncoding g = true → ∃ agreed, s.negotiator.select offered = .ok agreed

/-- What a session makes of an encoding that it is not left with. -/
structure Disowns (s : MediaSession) (f : Format) : Prop where
  /-- Its offers do not list it. -/
  offers : ∀ l, s.localMedia true = .ok l → l.formats.supports f = false
  /-- An offer of nothing else is refused. -/
  refuses : ∀ payloadType, s.negotiator.select ⟨[f.renumbered payloadType]⟩ =
    .error (.codecsNotNegotiated s.negotiator.media)

theorem serves_of_worksBothWays (h : s.negotiator.receivable.Distinct)
    (hf : s.negotiator.WorksBothWays f) : s.Serves f where
  offers := by
    intro hopen
    obtain ⟨l, hl⟩ := exists_localMedia hopen true
    refine ⟨l, hl, ?_⟩
    rw [formats_of_localMedia hl]
    exact (Negotiator.supports_supported_iff h).2 hf
  accepts := fun hmedia _ _ hg hfg => Negotiator.select_of_worksBothWays h hf hmedia hg hfg

theorem disowns_of_not (h : s.negotiator.receivable.Distinct)
    (hf : ¬ s.negotiator.WorksBothWays f) : s.Disowns f where
  offers := by
    intro l hl
    rw [formats_of_localMedia hl, Bool.eq_false_iff]
    intro hsupports
    exact hf ((Negotiator.supports_supported_iff h).1 hsupports)
  refuses := Negotiator.select_renumbered_of_not h hf

/-- An audio session is left with the encodings that its configuration is spared. -/
theorem serves_or_disowns {config : SessionConfig} (h : config.formats.Distinct)
    (hf : f ∈ config.formats.toList) (connection : UInt32) (numbering : Numbering)
    (calls : List SessionCall) :
    let s := (make ⟨connection, .audio⟩ config numbering).run calls
    (config.formats.Spares f → s.Serves f) ∧ (¬ config.formats.Spares f → s.Disowns f) := by
  intro s
  have hs : s.negotiator = .make .audio config.formats config.formats :=
    negotiator_run ⟨connection, .audio⟩ config numbering calls
  have hdistinct : s.negotiator.receivable.Distinct := by
    rw [hs]
    exact Negotiator.distinct_withTelephoneEvents h .audio
  have hsupports := FormatTable.supports_of_mem hf
  have hworks : s.negotiator.WorksBothWays f ↔ config.formats.Spares f := by
    rw [hs, Negotiator.worksBothWays_iff_spares h h hsupports hsupports, and_self]
  constructor
  · intro hspares
    exact serves_of_worksBothWays hdistinct (hworks.2 hspares)
  · intro hspares
    exact disowns_of_not hdistinct fun hw => hspares (hworks.1 hw)

end MediaSession

namespace Negotiator

/-- Audio always supports telephone events. Of the formats to be received whose encoding can be sent,
it still supports those whose encoding stays in both tables, and what stays is supported in its order;
so all of them are, in their order, if both tables have telephone events already or nothing under
their number. A session offers and accepts an encoding of its configuration if it stays, and otherwise
neither. -/
theorem telephone_events_displace {receivable sendable : FormatTable}
    (hreceivable : receivable.Distinct) (hsendable : sendable.Distinct) :
    let n := make .audio receivable sendable
    n.supported.supports Profile.telephoneEvent = true ∧
    (∀ f ∈ receivable.toList, sendable.supports f = true →
      (n.supported.supports f = true ↔ receivable.Spares f ∧ sendable.Spares f)) ∧
    (receivable.spared.filter n.sendable.supports).Sublist n.supported.toList ∧
    (receivable.HasRoom → sendable.HasRoom →
      (receivable.toList.filter sendable.supports).Sublist n.supported.toList) ∧
    ∀ config : SessionConfig, config.formats.Distinct → ∀ connection numbering calls,
      let s := (MediaSession.make ⟨connection, .audio⟩ config numbering).run calls
      ∀ f ∈ config.formats.toList,
        (config.formats.Spares f → s.Serves f) ∧ (¬ config.formats.Spares f → s.Disowns f) := by
  intro n
  have hn : n.receivable.Distinct := distinct_withTelephoneEvents hreceivable .audio
  have hsub : (receivable.spared.filter n.sendable.supports).Sublist n.supported.toList :=
    sublist_supported hreceivable sendable
  refine ⟨?_, ?_, hsub, ?_, ?_⟩
  · rw [supports_supported_iff hn]
    exact worksBothWays_telephoneEvent receivable sendable
  · intro f hf hf'
    rw [supports_supported_iff hn]
    exact worksBothWays_iff_spares hreceivable hsendable (FormatTable.supports_of_mem hf) hf'
  · intro hroom hroom'
    rw [FormatTable.spared_eq hroom] at hsub
    -- What can be sent can still be sent, so what is filtered out now was filtered out before.
    have hboth : receivable.toList.filter sendable.supports =
        (receivable.toList.filter n.sendable.supports).filter sendable.supports := by
      rw [List.filter_filter]
      apply List.filter_congr
      intro f _
      cases hf : sendable.supports f with
      | false => rfl
      | true =>
        obtain ⟨g, hg, hgf⟩ := FormatTable.supports_iff.1 hf
        have hspares : sendable.Spares f := ⟨g, (FormatTable.spared_eq hroom').symm ▸ hg, hgf⟩
        exact (supports_sendable_of_spares hspares receivable).symm
    rw [hboth]
    exact List.filter_sublist.trans hsub
  · intro config hconfig connection numbering calls s f hf
    exact MediaSession.serves_or_disowns hconfig hf connection numbering calls

/-- Telephone events take the place of one of two formats of an encoding, which is still supported
because of the other one. -/
theorem telephone_events_displace_duplicate :
    let receivable : FormatTable := ⟨[.make 8 "PCMA" 8000, .make 101 "PCMU" 8000, .make 0 "PCMU" 8000]⟩
    let sendable : FormatTable := ⟨[.make 0 "PCMU" 8000, Profile.telephoneEvent]⟩
    let n := make .audio receivable sendable
    let fresh := MediaSession.make ⟨1, .audio⟩ ⟨.default, receivable, none⟩ default
    receivable.Distinct ∧ sendable.Distinct ∧
    receivable.spared = [.make 8 "PCMA" 8000, .make 0 "PCMU" 8000] ∧
    n.supported.supports Profile.telephoneEvent = true ∧
    n.supported.supports (.make 101 "PCMU" 8000) = true ∧
    ∀ calls, (fresh.run calls).Serves (.make 101 "PCMU" 8000) := by
  intro receivable sendable n fresh
  have hreceivable : receivable.Distinct := by decide
  have hsendable : sendable.Distinct := by decide
  have hspared : receivable.spared = [.make 8 "PCMA" 8000, .make 0 "PCMU" 8000] := by
    decide +kernel
  have hspared' : sendable.spared = sendable.toList := by decide +kernel
  obtain ⟨hevents, hstill, -, -, hsessions⟩ := telephone_events_displace hreceivable hsendable
  have hpcmu : (Format.make 0 "PCMU" 8000).sameEncoding (.make 101 "PCMU" 8000) = true :=
    Format.sameEncoding_iff.2 ⟨rfl, rfl, rfl⟩
  have hmem : Format.make 101 "PCMU" 8000 ∈ receivable.toList := by decide
  have hspares : receivable.Spares (.make 101 "PCMU" 8000) :=
    ⟨.make 0 "PCMU" 8000, hspared ▸ by decide, hpcmu⟩
  have hspares' : sendable.Spares (.make 101 "PCMU" 8000) :=
    ⟨.make 0 "PCMU" 8000, hspared' ▸ by decide, hpcmu⟩
  refine ⟨hreceivable, hsendable, hspared, hevents, ?_, ?_⟩
  · have hsupports : sendable.supports (.make 101 "PCMU" 8000) = true :=
      FormatTable.supports_iff.2 ⟨.make 0 "PCMU" 8000, by decide, hpcmu⟩
    exact (hstill _ hmem hsupports).2 ⟨hspares, hspares'⟩
  · intro calls
    have hserves := hsessions ⟨.default, receivable, none⟩ hreceivable 1 default calls _ hmem
    exact hserves.1 hspares

/-- A session that is configured with a codec under the number of telephone events neither supports
nor accepts it. -/
theorem codec_gives_way_to_telephone_events :
    let codec := (Format.make 101 "opus" 48000).withChannels 2
    let formats : FormatTable := ⟨[.make 0 "PCMU" 8000, codec]⟩
    let n := symmetric .audio formats
    formats.Distinct ∧ n.supported.toList = [.make 0 "PCMU" 8000, Profile.telephoneEvent] ∧
    n.supported.supports codec = false ∧
    (n.select ⟨[codec.renumbered 111]⟩).toOption = none := by
  decide +kernel

end Negotiator

end MediaGateway
