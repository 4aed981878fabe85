import MediaGateway.Proofs.Negotiation
import MediaGateway.Proofs.Result

/-!
# Which formats of an offer are taken

A side takes an encoding if it can receive and send it. Of what it is offered, it selects the first
media format of such an encoding, and behind it the first format of telephone events of such an
encoding if there is one. `Selects` says so without the scan, whose early end is of no consequence,
and without the tables that a side keeps: which of them is for receiving makes no difference.
-/

namespace MediaGateway

namespace Negotiator

variable {n n' : Negotiator} {f : Format}

/-! ## What works in both directions -/

/-- Some format that can be received has the encoding of `f`, and some format that can be sent. -/
def WorksBothWays (n : Negotiator) (f : Format) : Prop :=
  (∃ g ∈ n.receivable.toList, g.sameEncoding f = true) ∧
    ∃ g ∈ n.sendable.toList, g.sameEncoding f = true

theorem supports_supported_iff (h : n.receivable.Distinct) :
    n.supported.supports f = true ↔ n.WorksBothWays f := by
  unfold supported WorksBothWays
  rw [h.supports_intersection, FormatTable.supports_iff, FormatTable.supports_iff]

theorem worksBothWays_swap (media : MediaType) (t u : FormatTable) :
    (make media u t).WorksBothWays f ↔ (make media t u).WorksBothWays f :=
  And.comm

/-- A selection depends on nothing but what is supported. -/
theorem select_congr (hmedia : n'.media = n.media)
    (h : ∀ f, n'.supported.supports f = n.supported.supports f) (offered : FormatTable) :
    n'.select offered = n.select offered := by
  have hsupports : n'.supported.supports = n.supported.supports := funext h
  rw [select_eq, select_eq, hsupports, hmedia]

/-! ## The scan to the end -/

/-- The scan of an offer that goes on when both formats are found. -/
def scanWhole (acceptable : Format → Bool) :
    (media event : Option Format) → List Format → Option Format × Option Format
  | media, event, [] => (media, event)
  | media, event, f :: rest =>
    if !acceptable f then scanWhole acceptable media event rest
    else if f.isTelephoneEvent then scanWhole acceptable media (event.or (some f)) rest
    else scanWhole acceptable (media.or (some f)) event rest

/-- What was found stays, so a scan that has found both formats finds nothing more. -/
theorem scanWhole_of_found (acceptable : Format → Bool) (media event : Format)
    (formats : List Format) :
    scanWhole acceptable (some media) (some event) formats = (some media, some event) := by
  induction formats with
  | nil => rfl
  | cons f rest ih =>
    unfold scanWhole
    split
    · exact ih
    · split <;> exact ih

/-- By induction on the offer; the scans part only where both formats are found. -/
theorem scan_eq_scanWhole (acceptable : Format → Bool) (media event : Option Format)
    (formats : List Format) :
    scan acceptable media event formats = scanWhole acceptable media event formats := by
  induction formats generalizing media event with
  | nil => rfl
  | cons f rest ih =>
    unfold scan scanWhole
    by_cases hacceptable : acceptable f = true
    · simp only [hacceptable, Bool.not_true, Bool.false_eq_true, if_false]
      by_cases hevent : f.isTelephoneEvent = true
      · simp only [hevent, if_true, ih]
        split
        · rename_i hfound
          obtain ⟨hm, he⟩ := Bool.and_eq_true_iff.1 hfound
          obtain ⟨m, rfl⟩ := Option.isSome_iff_exists.1 hm
          obtain ⟨e, he⟩ := Option.isSome_iff_exists.1 he
          rw [he, scanWhole_of_found]
        · rfl
      · simp only [hevent, Bool.false_eq_true, if_false, ih]
        split
        · rename_i hfound
          obtain ⟨hm, he⟩ := Bool.and_eq_true_iff.1 hfound
          obtain ⟨m, hm⟩ := Option.isSome_iff_exists.1 hm
          obtain ⟨e, rfl⟩ := Option.isSome_iff_exists.1 he
          rw [hm, scanWhole_of_found]
        · rfl
    · simp only [hacceptable, Bool.not_false, if_true]
      exact ih media event

/-! ## The first matches -/

/-- `f` is the first of some formats with a property. -/
def IsFirst (p : Format → Prop) (formats : List Format) (f : Format) : Prop :=
  p f ∧ ∃ before after, formats = before ++ f :: after ∧ ∀ g ∈ before, ¬ p g

theorem find?_eq_some_iff_isFirst {p : Format → Bool} {P : Format → Prop}
    (h : ∀ f, p f = true ↔ P f) (formats : List Format) :
    formats.find? p = some f ↔ IsFirst P formats f := by
  unfold IsFirst
  rw [List.find?_eq_some_iff_append, h]
  have hnot : ∀ g, (!p g) = true ↔ ¬ P g := by
    intro g
    rw [← h, Bool.not_eq_true', Bool.not_eq_true]
  simp only [hnot]

/-- What is selected of an offer: the first media format that works in both directions, and the
first format of telephone events that does. -/
structure Selects (n : Negotiator) (offered : List Format) (media : Format)
    (event : Option Format) : Prop where
  media : IsFirst (fun f => n.WorksBothWays f ∧ f.isTelephoneEvent = false) offered media
  /-- Without such a format of telephone events there is none. -/
  event : ∀ e, event = some e ↔
    IsFirst (fun f => n.WorksBothWays f ∧ f.isTelephoneEvent = true) offered e

/-- Either no media format works in both directions, or the first matches are agreed on. -/
theorem select_cases (h : n.receivable.Distinct) (offered : FormatTable) :
    (n.select offered = .error (.codecsNotNegotiated n.media) ∧
      ∀ f ∈ offered.toList, ¬ (n.WorksBothWays f ∧ f.isTelephoneEvent = false)) ∨
    ∃ media event, n.Selects offered.toList media event ∧
      n.select offered = .ok (.ofList (media :: event.toList)) := by
  have hmedia : ∀ f, (n.supported.supports f && !f.isTelephoneEvent) = true ↔
      n.WorksBothWays f ∧ f.isTelephoneEvent = false := by
    intro f
    rw [Bool.and_eq_true, supports_supported_iff h, Bool.not_eq_true']
  have hevent : ∀ f, (n.supported.supports f && f.isTelephoneEvent) = true ↔
      n.WorksBothWays f ∧ f.isTelephoneEvent = true := by
    intro f
    rw [Bool.and_eq_true, supports_supported_iff h]
  rw [select_eq]
  cases hfind : offered.toList.find? fun f => n.supported.supports f && !f.isTelephoneEvent with
  | none =>
    left
    refine ⟨rfl, ?_⟩
    intro f hf hworks
    exact List.find?_eq_none.1 hfind f hf ((hmedia f).2 hworks)
  | some media =>
    right
    refine ⟨media, _, ⟨(find?_eq_some_iff_isFirst hmedia _).1 hfind, ?_⟩, rfl⟩
    intro e
    exact find?_eq_some_iff_isFirst hevent _

theorem IsFirst.mem {p : Format → Prop} {formats : List Format} (h : IsFirst p formats f) :
    f ∈ formats := by
  obtain ⟨-, before, after, rfl, -⟩ := h
  exact List.mem_append_right before List.mem_cons_self

namespace Selects

variable {offered : FormatTable} {media : Format} {event : Option Format}

/-- There is one media format and at most one format of telephone events. -/
theorem kinds (h : n.Selects offered.toList media event) :
    (media :: event.toList).countP (fun f => !f.isTelephoneEvent) = 1 ∧
      (media :: event.toList).countP Format.isTelephoneEvent ≤ 1 := by
  have hmedia : media.isTelephoneEvent = false := h.media.1.2
  cases event with
  | none => simp [hmedia]
  | some e =>
    have hevent : e.isTelephoneEvent = true := ((h.event e).1 rfl).1.2
    simp [hmedia, hevent]

/-- The two differ in kind, so they are two entries of the offered table. -/
theorem nodup (h : n.Selects offered.toList media event) (hoffered : offered.Distinct) :
    ((media :: event.toList).map Format.payloadType).Nodup := by
  cases event with
  | none => exact List.nodup_singleton _
  | some e =>
    have hevent := (h.event e).1 rfl
    have hne : media.payloadType ≠ e.payloadType := by
      intro hnumber
      have hsame : media = e :=
        hoffered.eq_of_payloadType h.media.mem hevent.mem hnumber
      have hkind : media.isTelephoneEvent = true := hsame ▸ hevent.1.2
      rw [h.media.1.2] at hkind
      cases hkind
    simpa using hne

end Selects

/-- A side agrees exactly if some offered media format works in both directions. It then agrees on
the first one as it was offered, followed by the first such format of telephone events as it was
offered, and on nothing else. It makes no difference that the scan of the offer ends early, nor which
of the two tables is for receiving. -/
theorem selection_is_first_match (media : MediaType) {receivable sendable offered : FormatTable}
    (hreceivable : receivable.Distinct) (hsendable : sendable.Distinct)
    (hoffered : offered.Distinct) :
    let n := make media receivable sendable
    (n.select offered = .error (.codecsNotNegotiated media) ↔
      ∀ f ∈ offered.toList, ¬ (n.WorksBothWays f ∧ f.isTelephoneEvent = false)) ∧
    ((∃ f ∈ offered.toList, n.WorksBothWays f ∧ f.isTelephoneEvent = false) →
      ∃ codec event, n.Selects offered.toList codec event ∧
        n.select offered = .ok ⟨codec :: event.toList⟩) ∧
    (∀ agreed, n.select offered = .ok agreed →
      agreed.toList.countP (fun f => !f.isTelephoneEvent) = 1 ∧
      agreed.toList.countP Format.isTelephoneEvent ≤ 1 ∧ agreed.Distinct) ∧
    scan n.supported.supports none none offered.toList =
      scanWhole n.supported.supports none none offered.toList ∧
    (make media sendable receivable).select offered = n.select offered := by
  intro n
  have hn : n.receivable.Distinct := distinct_withTelephoneEvents hreceivable media
  have hswapped : (make media sendable receivable).receivable.Distinct :=
    distinct_withTelephoneEvents hsendable media
  have hswap : (make media sendable receivable).select offered = n.select offered := by
    have hmedia : (make media sendable receivable).media = n.media := rfl
    apply select_congr hmedia
    intro f
    rw [Bool.eq_iff_iff, supports_supported_iff hswapped, supports_supported_iff hn]
    exact worksBothWays_swap media receivable sendable
  have hscan := scan_eq_scanWhole n.supported.supports none none offered.toList
  rcases select_cases hn offered with ⟨herror, hnone⟩ | ⟨codec, event, hselects, hok⟩
  · refine ⟨⟨fun _ => hnone, fun _ => herror⟩, ?_, ?_, hscan, hswap⟩
    · rintro ⟨f, hf, hworks⟩
      exact absurd hworks (hnone f hf)
    · intro agreed hagreed
      rw [herror] at hagreed
      cases hagreed
  · have hnodup := hselects.nodup hoffered
    rw [FormatTable.ofList_of_nodup hnodup] at hok
    refine ⟨⟨?_, ?_⟩, fun _ => ⟨codec, event, hselects, hok⟩, ?_, hscan, hswap⟩
    · intro herror
      rw [hok] at herror
      cases herror
    · intro hnone
      exact absurd hselects.media.1 (hnone codec hselects.media.mem)
    · intro agreed hagreed
      rw [hok] at hagreed
      cases hagreed
      exact ⟨hselects.kinds.1, hselects.kinds.2, hnodup⟩

/-- Of an offer with two rates of telephone events, with two formats of one encoding and with numbers
that mean something else to the side, it takes the first ones that it can both receive and send. -/
theorem selection_is_first_match_of_wide_offer :
    let receivable : FormatTable := ⟨[.make 0 "PCMU" 8000, .make 8 "PCMA" 8000, .make 9 "PCMA" 8000]⟩
    let sendable : FormatTable := ⟨[.make 96 "PCMA" 8000, .make 0 "G722" 8000]⟩
    let offered : FormatTable := ⟨[.make 96 "telephone-event" 16000, .make 0 "PCMU" 8000,
      .make 9 "telephone-event" 8000, .make 97 "PCMA" 8000, .make 8 "PCMA" 8000]⟩
    let n := make .audio receivable sendable
    receivable.Distinct ∧ sendable.Distinct ∧ offered.Distinct ∧
    (∃ f ∈ offered.toList, n.WorksBothWays f ∧ f.isTelephoneEvent = false) ∧
    (make .audio sendable receivable).select offered =
      .ok ⟨[.make 97 "PCMA" 8000, .make 9 "telephone-event" 8000]⟩ := by
  intro receivable sendable offered n
  have hreceivable : receivable.Distinct := by decide
  have hsendable : sendable.Distinct := by decide
  have hoffered : offered.Distinct := by decide
  have hselect : n.select offered =
      .ok ⟨[.make 97 "PCMA" 8000, .make 9 "telephone-event" 8000]⟩ :=
    ok_of_toOption (by decide +kernel)
  obtain ⟨hfails, -, -, -, hswap⟩ :=
    selection_is_first_match .audio hreceivable hsendable hoffered
  refine ⟨hreceivable, hsendable, hoffered, ?_, hswap.trans hselect⟩
  by_contra hnone
  have herror : n.select offered = .error (.codecsNotNegotiated .audio) := by
    apply hfails.2
    intro f hf hworks
    exact hnone ⟨f, hf, hworks⟩
  rw [hselect] at herror
  cases herror

end Negotiator

end MediaGateway
