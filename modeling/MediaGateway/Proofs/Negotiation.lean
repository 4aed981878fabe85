import MediaGateway.Negotiation
import MediaGateway.Proofs.Format.Table

/-!
# What an agreement consists of

A selection takes the first acceptable media format of an offered table and the first acceptable
format of telephone events. What is agreed on is therefore one media format and at most one format
of telephone events, as the other side has offered them.
-/

namespace MediaGateway

namespace Sdp.MediaSection

variable {m : MediaSection} {f : Format}

/-- A payload number means a format with this number. -/
theorem payloadType_of_resolve? {payloadType : UInt8} (h : m.resolve? payloadType = some f) :
    f.payloadType = payloadType := by
  rcases Option.or_eq_some_iff.1 h with hformat | ⟨-, hstatic⟩
  · obtain ⟨g, hg, rfl⟩ := Option.map_eq_some_iff.1 hformat
    simpa using List.find?_some hg
  · simp only [Profile.staticFormat?] at hstatic
    split at hstatic
    · simpa using List.find?_some hstatic
    · simp at hstatic

/-- What a section offers are payload numbers of the section with what they mean. -/
theorem mem_offered (h : f ∈ m.offered.toList) :
    f.payloadType ∈ m.payloadTypes ∧ m.resolve? f.payloadType = some f := by
  obtain ⟨n, hn, hf⟩ := List.mem_filterMap.1 (FormatTable.mem_ofList h)
  obtain rfl := payloadType_of_resolve? hf
  exact ⟨hn, hf⟩

end Sdp.MediaSection

namespace Negotiator

/-- The scan ends early, but not too early. -/
theorem scan_eq (acceptable : Format → Bool) (media event : Option Format) (formats : List Format) :
    scan acceptable media event formats =
      (media.or (formats.find? fun f => acceptable f && !f.isTelephoneEvent),
        event.or (formats.find? fun f => acceptable f && f.isTelephoneEvent)) := by
  induction formats generalizing media event with
  | nil => simp [scan]
  | cons f rest ih =>
    simp only [scan, ih, List.find?_cons]
    cases ha : acceptable f with
    | false => simp
    | true =>
      cases ht : f.isTelephoneEvent <;> cases media <;> cases event <;> simp

/-- A selection is the first acceptable media format and the first acceptable format of telephone
events. -/
theorem select_eq (n : Negotiator) (offered : FormatTable) :
    n.select offered =
      match offered.toList.find? fun f => n.supported.supports f && !f.isTelephoneEvent with
      | some media => .ok (.ofList (media ::
          (offered.toList.find? fun f => n.supported.supports f && f.isTelephoneEvent).toList))
      | none => .error (.codecsNotNegotiated n.media) := by
  simp only [select, scan_eq, Option.none_or]
  cases offered.toList.find? fun f => n.supported.supports f && !f.isTelephoneEvent <;> rfl

/-- What an agreement about an offered table consists of. -/
structure Agreement (n : Negotiator) (offered agreed : FormatTable) (media : Format)
    (event : Option Format) : Prop where
  /-- There is nothing but the two. -/
  formats : agreed.toList = media :: event.toList
  /-- They were offered, -/
  offered : ∀ f ∈ agreed.toList, f ∈ offered.toList
  /-- this side supports them, -/
  supported : ∀ f ∈ agreed.toList, n.supported.supports f = true
  /-- and their numbers differ. -/
  distinct : agreed.Distinct
  /-- One is media, -/
  media_isMedia : media.isTelephoneEvent = false
  /-- and the other one is not. -/
  event_isEvent : ∀ e ∈ event, e.isTelephoneEvent = true

theorem select_ok {n : Negotiator} {offered agreed : FormatTable} (hd : offered.Distinct)
    (h : n.select offered = .ok agreed) : ∃ media event, n.Agreement offered agreed media event := by
  rw [select_eq] at h
  cases hm : offered.toList.find? fun f => n.supported.supports f && !f.isTelephoneEvent with
  | none => simp [hm] at h
  | some media =>
    simp only [hm, Except.ok.injEq] at h
    generalize he : (offered.toList.find? fun f =>
      n.supported.supports f && f.isTelephoneEvent) = event at h
    have hmedia := List.find?_some hm
    have hmem := List.mem_of_find?_eq_some hm
    simp only [Bool.and_eq_true, Bool.not_eq_true'] at hmedia
    have hevent : ∀ e ∈ event, e ∈ offered.toList ∧ n.supported.supports e = true ∧
        e.isTelephoneEvent = true := by
      intro e hmem
      rw [Option.mem_def] at hmem
      subst hmem
      have := List.find?_some he
      simp only [Bool.and_eq_true] at this
      exact ⟨List.mem_of_find?_eq_some he, this⟩
    -- The two differ in kind, so they are two entries of the offered table.
    have hnodup : ((media :: event.toList).map Format.payloadType).Nodup := by
      cases event with
      | none => simp
      | some e =>
        obtain ⟨hin, -, hkind⟩ := hevent e rfl
        have hne : media.payloadType ≠ e.payloadType := fun heq => by
          rw [hd.eq_of_payloadType hmem hin heq, hkind] at hmedia
          simp at hmedia
        simpa using hne
    rw [FormatTable.ofList_of_nodup hnodup] at h
    subst h
    refine ⟨media, event, rfl, ?_, ?_, hnodup, hmedia.2, fun e hin => (hevent e hin).2.2⟩
    · intro f hf
      rcases List.mem_cons.1 hf with rfl | hf
      · exact hmem
      · exact (hevent f (Option.mem_toList.1 hf)).1
    · intro f hf
      rcases List.mem_cons.1 hf with rfl | hf
      · exact hmedia.1
      · exact (hevent f (Option.mem_toList.1 hf)).2.1

namespace Agreement

variable {n : Negotiator} {offered agreed : FormatTable} {media : Format} {event : Option Format}

theorem hasMedia (h : n.Agreement offered agreed media event) : agreed.hasMedia = true := by
  simp [FormatTable.hasMedia, h.formats, h.media_isMedia]

/-- There is exactly one format other than telephone events. -/
theorem filter_media (h : n.Agreement offered agreed media event) :
    agreed.toList.filter (fun f => !f.isTelephoneEvent) = [media] := by
  have he : event.toList.filter (fun f => !f.isTelephoneEvent) = [] := by
    simpa using h.event_isEvent
  rw [h.formats, List.filter_cons, he]
  simp [h.media_isMedia]

/-- A side that supports what was agreed on agrees on nothing else when it is told. -/
theorem select_agreed (h : n.Agreement offered agreed media event) {n' : Negotiator}
    (hs : ∀ f ∈ agreed.toList, n'.supported.supports f = true) : n'.select agreed = .ok agreed := by
  obtain ⟨formats⟩ := agreed
  obtain rfl : formats = media :: event.toList := h.formats
  have hmedia : n'.supported.supports media = true := hs media List.mem_cons_self
  have hevent : (media :: event.toList).find?
      (fun f => n'.supported.supports f && f.isTelephoneEvent) = event := by
    have hhead : (n'.supported.supports media && media.isTelephoneEvent) = false := by
      simp only [h.media_isMedia, Bool.and_false]
    rw [List.find?_cons_of_neg (by simp [hhead])]
    cases event with
    | none => rfl
    | some e =>
      have he : n'.supported.supports e = true :=
        hs e (List.mem_cons_of_mem _ (Option.mem_toList.2 rfl))
      have hk : e.isTelephoneEvent = true := h.event_isEvent e rfl
      simp [he, hk]
  rw [select_eq, List.find?_cons_of_pos (by simp [hmedia, h.media_isMedia])]
  simp only [hevent]
  exact congrArg _ (FormatTable.ofList_of_nodup h.distinct)

end Agreement

/-! ## What a side supports -/

theorem distinct_withTelephoneEvents {t : FormatTable} (h : t.Distinct) (media : MediaType) :
    (withTelephoneEvents media t).Distinct := by
  simp only [withTelephoneEvents]
  split
  · exact h.add _
  · exact h

/-- A side that can send what it can receive supports all of it. -/
theorem supported_symmetric {t : FormatTable} (h : t.Distinct) (media : MediaType) :
    (symmetric media t).supported = withTelephoneEvents media t := by
  have hd : (withTelephoneEvents media t).Distinct := distinct_withTelephoneEvents h media
  have hall : (withTelephoneEvents media t).toList.filter (withTelephoneEvents media t).supports =
      (withTelephoneEvents media t).toList :=
    List.filter_eq_self.2 fun f hf => FormatTable.supports_of_mem hf
  rw [supported, symmetric, make, FormatTable.intersection, hall]
  exact FormatTable.ofList_of_nodup hd

end Negotiator

end MediaGateway
