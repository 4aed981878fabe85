import MediaGateway.Proofs.JitterBuffer.Times
import MediaGateway.Proofs.Session.Setup

/-!
# Agreeing is all or nothing

A session that is to agree with a section of a description has four things to find out, each of which
can end it, and six things to note. `negotiateInTurn` does one after the other: whatever it has noted
stays if it comes to an end later. `negotiate` finds out everything first. They do the same, since the
last thing to find out comes before the first one to note.

What a section implies is said without the functions that read it: where media and control packets are
to go (`Places`), why that cannot be told (`Misplaces`), and why a session refuses (`Refuses`).
-/

namespace MediaGateway

namespace Sdp

variable {d : Description} {m : MediaSection}

/-! ## Where packets are to go -/

/-- Where a section wants control packets, if it wants media at an address. -/
inductive MediaSection.PlacesControl (m : MediaSection) (rtp : SocketAddress) : SocketAddress → Prop
  /-- With the media. -/
  | shared (hmux : m.rtcpMux = true) : m.PlacesControl rtp rtp
  /-- At a port of another address. -/
  | elsewhere {port : UInt16} {text : String} {ip : IpAddress} (hmux : m.rtcpMux = false)
    (hrtcp : m.rtcp = some ⟨port, some text⟩) (hip : IpAddress.ofText? text = some ip) :
    m.PlacesControl rtp ⟨ip, port⟩
  /-- At another port. -/
  | apart {port : UInt16} (hmux : m.rtcpMux = false) (hrtcp : m.rtcp = some ⟨port, none⟩) :
    m.PlacesControl rtp ⟨rtp.ip, port⟩
  /-- At the next port, which is zero behind the last one. -/
  | next {port : UInt16} (hmux : m.rtcpMux = false) (hrtcp : m.rtcp = none)
    (hport : port.toNat = (rtp.port.toNat + 1) % 2 ^ 16) : m.PlacesControl rtp ⟨rtp.ip, port⟩

/-- Where a description wants the media and the control packets of a section. -/
inductive Description.Places (d : Description) (m : MediaSection) :
    Option SocketAddress → Option SocketAddress → Prop
  /-- Without connection data that hold for the section it does not say. -/
  | nowhere (hc : d.effectiveConnection m = none) : d.Places m none none
  | somewhere {c : ConnectionData} {ip : IpAddress} {rtcp : SocketAddress}
    (hc : d.effectiveConnection m = some c) (hip : IpAddress.ofText? c.address = some ip)
    (hrtcp : m.PlacesControl ⟨ip, m.port⟩ rtcp) : d.Places m (some ⟨ip, m.port⟩) (some rtcp)

/-- Why it cannot be told where a description wants the packets of a section. -/
inductive Description.Misplaces (d : Description) (m : MediaSection) : SdpError → Prop
  /-- The address for media is not one. -/
  | media {c : ConnectionData} (hc : d.effectiveConnection m = some c)
    (hip : IpAddress.ofText? c.address = none) : d.Misplaces m (.address c.address)
  /-- The address for control packets is not one, and is needed. -/
  | control {c : ConnectionData} {ip : IpAddress} {port : UInt16} {text : String}
    (hc : d.effectiveConnection m = some c) (hip : IpAddress.ofText? c.address = some ip)
    (hmux : m.rtcpMux = false) (hrtcp : m.rtcp = some ⟨port, some text⟩)
    (htext : IpAddress.ofText? text = none) : d.Misplaces m (.address text)

theorem rtcpAddressBeside_of_placesControl {rtp rtcp : SocketAddress}
    (h : m.PlacesControl rtp rtcp) : Description.rtcpAddressBeside m rtp = .ok rtcp := by
  unfold Description.rtcpAddressBeside
  cases h with
  | shared hmux => rw [if_pos hmux]
  | elsewhere hmux hrtcp hip => simp only [hmux, hrtcp, hip, Bool.false_eq_true, if_false]
  | apart hmux hrtcp => simp only [hmux, hrtcp, Bool.false_eq_true, if_false]
  | next hmux hrtcp hport =>
    have hnext : rtp.port + 1 = _ :=
      UInt16.toNat_inj.1 ((UInt16.toNat_add rtp.port 1).trans hport.symm)
    simp only [hmux, hrtcp, hnext, Bool.false_eq_true, if_false]

/-- The place for control packets fails to be told only where the section names an address for them
that is not one. -/
theorem exists_placesControl (m : MediaSection) (rtp : SocketAddress) :
    (∃ rtcp, m.PlacesControl rtp rtcp) ∨
    ∃ port text, m.rtcpMux = false ∧ m.rtcp = some ⟨port, some text⟩ ∧
      IpAddress.ofText? text = none := by
  cases hmux : m.rtcpMux with
  | true => exact .inl ⟨rtp, .shared hmux⟩
  | false =>
    cases hrtcp : m.rtcp with
    | none => exact .inl ⟨⟨rtp.ip, rtp.port + 1⟩, .next hmux hrtcp (UInt16.toNat_add rtp.port 1)⟩
    | some a =>
      obtain ⟨port, address⟩ := a
      cases address with
      | none => exact .inl ⟨⟨rtp.ip, port⟩, .apart hmux hrtcp⟩
      | some text =>
        cases hip : IpAddress.ofText? text with
        | some ip => exact .inl ⟨⟨ip, port⟩, .elsewhere hmux hrtcp hip⟩
        | none => exact .inr ⟨port, text, rfl, rfl, hip⟩

theorem places_or_misplaces (d : Description) (m : MediaSection) :
    (∃ rtp rtcp, d.Places m rtp rtcp) ∨ ∃ e, d.Misplaces m e := by
  cases hc : d.effectiveConnection m with
  | none => exact .inl ⟨none, none, .nowhere hc⟩
  | some c =>
    cases hip : IpAddress.ofText? c.address with
    | none => exact .inr ⟨.address c.address, .media hc hip⟩
    | some ip =>
      rcases exists_placesControl m ⟨ip, m.port⟩ with ⟨rtcp, hrtcp⟩ |
        ⟨port, text, hmux, hrtcp, htext⟩
      · exact .inl ⟨some ⟨ip, m.port⟩, some rtcp, .somewhere hc hip hrtcp⟩
      · exact .inr ⟨.address text, .control hc hip hmux hrtcp htext⟩

theorem rtpAddress_of_ofText {c : ConnectionData} {ip : IpAddress}
    (hc : d.effectiveConnection m = some c) (hip : IpAddress.ofText? c.address = some ip) :
    d.rtpAddress m = .ok (some ⟨ip, m.port⟩) := by
  simp only [Description.rtpAddress, hc, ConnectionData.ip, hip]
  rfl

theorem rtcpAddress_of_rtpAddress {rtp : SocketAddress} (h : d.rtpAddress m = .ok (some rtp)) :
    d.rtcpAddress m = (Description.rtcpAddressBeside m rtp).map some := by
  unfold Description.rtcpAddress
  rw [h]
  show (Description.rtcpAddressBeside m rtp >>= fun a => .ok (some a)) = _
  cases Description.rtcpAddressBeside m rtp <;> rfl

theorem addresses_of_places {rtp rtcp : Option SocketAddress} (h : d.Places m rtp rtcp) :
    d.rtpAddress m = .ok rtp ∧ d.rtcpAddress m = .ok rtcp := by
  cases h with
  | nowhere hc =>
    have hrtp : d.rtpAddress m = .ok none := by rw [Description.rtpAddress, hc]
    refine ⟨hrtp, ?_⟩
    rw [Description.rtcpAddress, hrtp]
    rfl
  | somewhere hc hip hrtcp =>
    have hrtp := rtpAddress_of_ofText hc hip
    refine ⟨hrtp, ?_⟩
    rw [rtcpAddress_of_rtpAddress hrtp, rtcpAddressBeside_of_placesControl hrtcp]
    rfl

/-- The address for media is looked at first. -/
theorem addresses_of_misplaces {e : SdpError} (h : d.Misplaces m e) :
    d.rtpAddress m = .error e ∨ ∃ rtp, d.rtpAddress m = .ok rtp ∧ d.rtcpAddress m = .error e := by
  cases h with
  | media hc hip =>
    left
    simp only [Description.rtpAddress, hc, ConnectionData.ip, hip]
    rfl
  | control hc hip hmux hrtcp htext =>
    have hrtp := rtpAddress_of_ofText hc hip
    refine .inr ⟨_, hrtp, ?_⟩
    rw [rtcpAddress_of_rtpAddress hrtp, Description.rtcpAddressBeside]
    simp only [hmux, hrtcp, htext, Bool.false_eq_true, if_false]
    rfl

end Sdp

namespace MediaClock

/-- Nothing but the rate is set. -/
theorem setRate_eq (c : MediaClock) (rate : UInt32) :
    c.setRate rate =
      { c with rate := (c.setRate rate).rate, rate_pos := (c.setRate rate).rate_pos } := by
  unfold setRate
  split <;> rfl

end MediaClock

namespace Negotiator

variable {n : Negotiator} {offered : FormatTable}

/-- A table has a format other than telephone events that a side supports. -/
def HasCommon (n : Negotiator) (offered : FormatTable) : Prop :=
  ∃ f ∈ offered.toList, f.isTelephoneEvent = false ∧ n.supported.supports f = true

theorem select_of_hasCommon (h : n.HasCommon offered) :
    ∃ formats, n.select offered = .ok formats := by
  obtain ⟨f, hf, hkind, hsupports⟩ := h
  have hfound : (offered.toList.find? fun f =>
      n.supported.supports f && !f.isTelephoneEvent).isSome = true :=
    List.find?_isSome.2 ⟨f, hf, by simp [hkind, hsupports]⟩
  obtain ⟨media, hmedia⟩ := Option.isSome_iff_exists.1 hfound
  rw [select_eq, hmedia]
  exact ⟨_, rfl⟩

theorem select_of_not_hasCommon (h : ¬ n.HasCommon offered) :
    n.select offered = .error (.codecsNotNegotiated n.media) := by
  have hnone : offered.toList.find?
      (fun f => n.supported.supports f && !f.isTelephoneEvent) = none := by
    refine List.find?_eq_none.2 fun f hf hfound => h ⟨f, hf, ?_⟩
    simpa [and_comm] using hfound
  rw [select_eq, hnone]

end Negotiator

namespace MediaSession

variable {s s' : MediaSession} {d : Sdp.Description} {m : Sdp.MediaSection} {formats : FormatTable}
  {e : NegotiationError}

/-! ## One step after the other -/

/-- Steps on a session, any of which can be the last one. -/
abbrev Steps (α : Type) : Type := ExceptT NegotiationError (StateM MediaSession) α

namespace Steps

variable {α β : Type}

/-- What the steps come to on a session, and what they leave the session as. -/
def on (p : Steps α) (s : MediaSession) : Except NegotiationError α × MediaSession :=
  StateT.run (ExceptT.run p) s

/-- A step that ends it keeps what the ones before have done to the session. -/
theorem on_bind (p : Steps α) (k : α → Steps β) (s : MediaSession) :
    on (p >>= k) s = match on p s with
      | (.ok a, t) => on (k a) t
      | (.error e, t) => (.error e, t) := by
  unfold on ExceptT.run StateT.run
  simp only [bind, ExceptT.bind, ExceptT.mk, StateT.bind, ExceptT.bindCont]
  cases p s with
  | mk r t => cases r <;> rfl

theorem on_pure (a : α) (s : MediaSession) : on (pure a) s = (.ok a, s) := rfl

theorem on_get (s : MediaSession) : on get s = (.ok s, s) := rfl

theorem on_modify (f : MediaSession → MediaSession) (s : MediaSession) :
    on (modify f) s = (.ok (), f s) := rfl

theorem on_ofExcept (r : Except NegotiationError α) (s : MediaSession) :
    on (ofExcept r) s = (r, s) := by
  cases r <;> rfl

end Steps

/-- Notes where media is to go, which has to be known unless the session waits for a packet. -/
def noteRtp (rtp : Option SocketAddress) : Steps Unit := do
  if (← get).ice.isNone then
    if rtp.isNone then throw (.noRemoteAddress (← get).media)
    modify fun s => { s with remoteRtp := rtp }

/-- Notes what was agreed on, and sets the clock. -/
def noteFormats (formats : FormatTable) : Steps Unit := do
  if let some f := formats.media? then
    modify fun s =>
      { s with jitter := { s.jitter with clock := s.jitter.clock.setRate f.clockRate } }
  modify fun s => { s with jitter := { s.jitter with formats } }
  modify fun s => { s with negotiated := formats }

/-- Agreeing with a section of a description as a sequence of steps on the session. Where it ends, the
session is as the steps before have left it. -/
def negotiateInTurn (d : Sdp.Description) (m : Sdp.MediaSection) : Steps FormatTable := do
  let formats ← ofExcept ((← get).negotiator.negotiate m)
  let rtp ← ofExcept ((d.rtpAddress m).mapError .description)
  let rtcp ← ofExcept ((d.rtcpAddress m).mapError .description)
  noteRtp rtp
  modify fun s => { s with remoteRtcp := rtcp }
  modify fun s => { s with remoteSsrc := m.source.map Sdp.SourceAttribute.ssrc }
  noteFormats formats
  return formats

theorem on_noteRtp (rtp : Option SocketAddress) (s : MediaSession) :
    (noteRtp rtp).on s =
      if s.ice.isNone && rtp.isNone then (.error (.noRemoteAddress s.media), s)
      else (.ok (), { s with remoteRtp := if s.ice.isNone then rtp else s.remoteRtp }) := by
  unfold noteRtp
  simp only [Steps.on_bind, Steps.on_get]
  by_cases hice : s.ice.isNone = true
  · simp only [hice, if_true, Bool.true_and]
    cases rtp <;> rfl
  · simp only [hice]
    rfl

theorem on_noteFormats (formats : FormatTable) (s : MediaSession) :
    (noteFormats formats).on s =
      (.ok (), { s with
        jitter := { s.jitter with
          clock := match formats.media? with
            | some f => s.jitter.clock.setRate f.clockRate
            | none => s.jitter.clock
          formats }
        negotiated := formats }) := by
  unfold noteFormats
  cases formats.media? <;> rfl

/-- With formats and addresses, all that can be missing is an address to send media to. -/
theorem terms_of_ok {rtp rtcp : Option SocketAddress} (hn : s.negotiator.negotiate m = .ok formats)
    (hrtp : d.rtpAddress m = .ok rtp) (hrtcp : d.rtcpAddress m = .ok rtcp) :
    s.terms d m = if s.ice.isNone && rtp.isNone then .error (.noRemoteAddress s.media)
      else .ok (formats, rtp, rtcp) := by
  unfold terms
  rw [hn, hrtp, hrtcp]
  show (if _ then _ else _) = _
  by_cases hlost : (s.ice.isNone && rtp.isNone) = true
  · rw [if_pos hlost, if_pos hlost]
    rfl
  · rw [if_neg hlost, if_neg hlost]
    rfl

/-- Nothing has been noted when a step ends it. -/
theorem on_negotiateInTurn (s : MediaSession) (d : Sdp.Description) (m : Sdp.MediaSection) :
    (negotiateInTurn d m).on s = s.negotiate d m := by
  unfold negotiateInTurn negotiate
  simp only [Steps.on_bind, Steps.on_get, Steps.on_ofExcept]
  cases hn : s.negotiator.negotiate m with
  | error e =>
    rw [terms, hn]
    rfl
  | ok formats =>
  cases hrtp : d.rtpAddress m with
  | error e =>
    rw [terms, hn, hrtp]
    rfl
  | ok rtp =>
  cases hrtcp : d.rtcpAddress m with
  | error e =>
    rw [terms, hn, hrtp, hrtcp]
    rfl
  | ok rtcp =>
  simp only [terms_of_ok hn hrtp hrtcp, Except.mapError, on_noteRtp]
  -- The last thing that can end it is looked at before the first one is noted.
  by_cases hlost : (s.ice.isNone && rtp.isNone) = true
  · simp only [hlost, if_true]
  · simp only [hlost, Steps.on_modify, on_noteFormats, Steps.on_pure, adopt]
    rfl

/-! ## Refusing

The reasons exclude each other: an address is asked for if there is a common format, and missed if
there would have been one to read. -/

/-- Why a session refuses a section of a description. -/
inductive Refuses (s : MediaSession) (d : Sdp.Description) (m : Sdp.MediaSection) :
    NegotiationError → Prop
  /-- There is no common format. -/
  | formats (hno : ¬ s.negotiator.HasCommon m.offered) :
    s.Refuses d m (.codecsNotNegotiated s.negotiator.media)
  /-- An address is not one. -/
  | address {e : SdpError} (hcommon : s.negotiator.HasCommon m.offered) (he : d.Misplaces m e) :
    s.Refuses d m (.description e)
  /-- Nobody says where media is to go, and the session does not wait for a packet. -/
  | nowhere (hcommon : s.negotiator.HasCommon m.offered) (hice : s.ice = none)
    (hc : d.effectiveConnection m = none) : s.Refuses d m (.noRemoteAddress s.media)

/-- What a session is like after it has agreed on formats with a section of a description. -/
structure AgreesOn (s : MediaSession) (d : Sdp.Description) (m : Sdp.MediaSection)
    (formats : FormatTable) (s' : MediaSession) : Prop where
  /-- The formats are those that are to be selected, -/
  selected : s.negotiator.select m.offered = .ok formats
  /-- and they are held twice: for sending -/
  negotiated : s'.negotiated = formats
  /-- and for receiving. -/
  decoded : s'.jitter.formats = formats
  /-- One of them is not of telephone events, and the clock runs at its rate if it has one. -/
  rate : ∃ f, formats.toList.filter (fun f => !f.isTelephoneEvent) = [f] ∧
    s'.jitter.clock.rate = if 0 < f.clockRate.toNat then f.clockRate else s.jitter.clock.rate
  /-- Media and control packets go where the description wants them. A session that waits for a
  packet goes on waiting, and one that does not knows where to send media. -/
  places : ∃ rtp, d.Places m rtp s'.remoteRtcp ∧
    if s.ice.isSome then s'.remoteRtp = s.remoteRtp else s'.remoteRtp = rtp ∧ rtp.isSome = true
  /-- The source is the one that the section announces. -/
  source : s'.remoteSsrc = m.source.map Sdp.SourceAttribute.ssrc
  /-- The rest is as it was. -/
  rest : s' = { s with
    remoteRtp := s'.remoteRtp
    remoteRtcp := s'.remoteRtcp
    remoteSsrc := s'.remoteSsrc
    negotiated := s'.negotiated
    jitter := { s.jitter with
      formats := s'.jitter.formats
      clock := { s.jitter.clock with
        rate := s'.jitter.clock.rate
        rate_pos := s'.jitter.clock.rate_pos } } }
/-- A reason to refuse is what the session ends with. -/
theorem terms_of_refuses (h : s.Refuses d m e) : s.terms d m = .error e := by
  cases h with
  | formats hno =>
    have hn : s.negotiator.negotiate m = _ := Negotiator.select_of_not_hasCommon hno
    rw [terms, hn]
    rfl
  | address hcommon he =>
    obtain ⟨formats, hn⟩ : ∃ formats, s.negotiator.negotiate m = .ok formats :=
      Negotiator.select_of_hasCommon hcommon
    rcases Sdp.addresses_of_misplaces he with hrtp | ⟨rtp, hrtp, hrtcp⟩
    · rw [terms, hn, hrtp]
      rfl
    · rw [terms, hn, hrtp, hrtcp]
      rfl
  | nowhere hcommon hice hc =>
    obtain ⟨formats, hn⟩ : ∃ formats, s.negotiator.negotiate m = .ok formats :=
      Negotiator.select_of_hasCommon hcommon
    obtain ⟨hrtp, hrtcp⟩ := Sdp.addresses_of_places (.nowhere hc)
    rw [terms_of_ok hn hrtp hrtcp, hice]
    rfl

/-- Without a reason to refuse there is all that it takes to agree. -/
theorem refuses_or_terms (s : MediaSession) (d : Sdp.Description) (m : Sdp.MediaSection) :
    (∃ e, s.Refuses d m e) ∨
    ∃ formats rtp rtcp, s.negotiator.select m.offered = .ok formats ∧ d.Places m rtp rtcp ∧
      (s.ice = none → rtp.isSome = true) ∧ s.terms d m = .ok (formats, rtp, rtcp) := by
  by_cases hcommon : s.negotiator.HasCommon m.offered
  · rcases Sdp.places_or_misplaces d m with ⟨rtp, rtcp, hplaces⟩ | ⟨e, he⟩
    · obtain ⟨formats, hselect⟩ := Negotiator.select_of_hasCommon hcommon
      obtain ⟨hrtp, hrtcp⟩ := Sdp.addresses_of_places hplaces
      have hterms := terms_of_ok hselect hrtp hrtcp
      by_cases hlost : (s.ice.isNone && rtp.isNone) = true
      · obtain ⟨hice, hnone⟩ := Bool.and_eq_true_iff.1 hlost
        refine .inl ⟨_, .nowhere hcommon (Option.isNone_iff_eq_none.1 hice) ?_⟩
        cases hplaces with
        | nowhere hc => exact hc
        | somewhere _ _ _ => simp at hnone
      · rw [if_neg hlost] at hterms
        refine .inr ⟨formats, rtp, rtcp, hselect, hplaces, fun hice => ?_, hterms⟩
        simpa [hice, Option.isSome_iff_ne_none] using hlost
    · exact .inl ⟨_, .address hcommon he⟩
  · exact .inl ⟨_, .formats hcommon⟩

/-! ## Agreeing -/

theorem agreesOn_adopt {rtp rtcp : Option SocketAddress}
    (hselect : s.negotiator.select m.offered = .ok formats) (hplaces : d.Places m rtp rtcp)
    (hknown : s.ice = none → rtp.isSome = true) :
    s.AgreesOn d m formats (s.adopt formats rtp rtcp m) := by
  obtain ⟨media, event, hagree⟩ := Negotiator.select_ok (FormatTable.distinct_ofList _) hselect
  have hmedia : formats.media? = some media := by
    have hfirst := congrArg List.head? hagree.filter_media
    rwa [List.head?_filter] at hfirst
  have hclock : (s.adopt formats rtp rtcp m).jitter.clock =
      s.jitter.clock.setRate media.clockRate := by
    simp only [adopt, hmedia]
  refine
    { selected := hselect
      negotiated := rfl
      decoded := rfl
      rate := ⟨media, hagree.filter_media, ?_⟩
      places := ⟨rtp, hplaces, ?_⟩
      source := rfl
      rest := ?_ }
  · rw [hclock]
    exact s.jitter.clock.rate_setRate media.clockRate
  · cases hice : s.ice with
    | some c => simp [adopt, hice]
    | none => exact ⟨by simp [adopt, hice], hknown hice⟩
  · have hkept := s.jitter.clock.setRate_eq media.clockRate
    rw [← hclock] at hkept
    rw [← hkept]
    rfl

theorem negotiate_of_refuses (h : s.Refuses d m e) : s.negotiate d m = (.error e, s) := by
  rw [negotiate, terms_of_refuses h]

/-- A session refuses, or agrees. -/
theorem refuses_or_agreesOn (s : MediaSession) (d : Sdp.Description) (m : Sdp.MediaSection) :
    (∃ e, s.Refuses d m e) ∨
    ∃ formats s', s.negotiate d m = (.ok formats, s') ∧ s.AgreesOn d m formats s' := by
  rcases refuses_or_terms s d m with hrefuses |
    ⟨formats, rtp, rtcp, hselect, hplaces, hknown, hterms⟩
  · exact .inl hrefuses
  · refine .inr ⟨formats, s.adopt formats rtp rtcp m, ?_, agreesOn_adopt hselect hplaces hknown⟩
    rw [negotiate, hterms]

/-- A session refuses a section for one of the reasons there are, and is then as before, or it agrees
on formats with it, and is then as one that agrees on them is. Done one after the other, the steps of
agreeing come to the same. -/
theorem negotiate_all_or_nothing (s : MediaSession) (d : Sdp.Description) (m : Sdp.MediaSection) :
    (negotiateInTurn d m).on s = s.negotiate d m ∧
    (∀ e s', s.negotiate d m = (.error e, s') ↔ s.Refuses d m e ∧ s' = s) ∧
    (∀ formats s', s.negotiate d m = (.ok formats, s') → s.AgreesOn d m formats s') ∧
    ((∀ e, ¬ s.Refuses d m e) → ∃ formats s', s.negotiate d m = (.ok formats, s')) := by
  refine ⟨on_negotiateInTurn s d m, fun e s' => ⟨fun h => ?_, ?_⟩, fun formats s' h => ?_, ?_⟩
  · rcases refuses_or_agreesOn s d m with ⟨e', hrefuses⟩ | ⟨formats, t, hagreed, -⟩
    · obtain ⟨rfl, rfl⟩ : e' = e ∧ s = s' := by simpa [negotiate_of_refuses hrefuses] using h
      exact ⟨hrefuses, rfl⟩
    · simp [hagreed] at h
  · rintro ⟨hrefuses, rfl⟩
    exact negotiate_of_refuses hrefuses
  · rcases refuses_or_agreesOn s d m with ⟨e, hrefuses⟩ | ⟨formats', t, hagreed, hagrees⟩
    · simp [negotiate_of_refuses hrefuses] at h
    · obtain ⟨rfl, rfl⟩ : formats' = formats ∧ t = s' := by simpa [hagreed] using h
      exact hagrees
  · intro hwilling
    rcases refuses_or_agreesOn s d m with ⟨e, hrefuses⟩ | ⟨formats, t, hagreed, -⟩
    · exact absurd hrefuses (hwilling e)
    · exact ⟨formats, t, hagreed⟩

/-- An agreement with a section at the last port sets the clock and puts control packets at port zero.
It stays when the session then refuses a section that names no address for control packets. -/
theorem negotiate_all_or_nothing_at_last_port :
    let opus : Format := .make 96 "opus" 48000
    let offered : Sdp.MediaSection :=
      { media := "audio", port := 65535, formats := ["96"], rtpmaps := [opus] }
    let strange : Sdp.MediaSection := { offered with rtcp := some ⟨9, some "nowhere"⟩ }
    let d : Sdp.Description :=
      { origin := .make "1" "127.0.0.1", sessionName := "-", connection := some (.make "127.0.0.1")
        media := [offered, strange] }
    let s := make ⟨1, .audio⟩ ⟨.default, .ofList [opus], none⟩ default
    ∃ formats s', s.negotiate d offered = (.ok formats, s') ∧ s.AgreesOn d offered formats s' ∧
      s'.jitter.clock.rate = 48000 ∧ s'.remoteRtcp = some ⟨.loopback, 0⟩ ∧
      s'.negotiate d strange = (.error (.description (.address "nowhere")), s') := by
  intro opus offered strange d s
  obtain ⟨-, hrefused, hagreed, hwilling⟩ := negotiate_all_or_nothing s d offered
  obtain ⟨formats, s', hn⟩ := hwilling fun e hrefuses => by
    have hok : (s.negotiate d offered).1.toOption.isSome = true := by decide +kernel
    rw [(hrefused e s).2 ⟨hrefuses, rfl⟩] at hok
    simp [Except.toOption] at hok
  have hs' : s' = (s.negotiate d offered).2 := by rw [hn]
  refine ⟨formats, s', hn, hagreed _ _ hn, ?_, ?_, ?_⟩
  · rw [hs']
    decide +kernel
  · rw [hs']
    decide +kernel
  · have hcommon : s'.negotiator.HasCommon strange.offered := by
      refine ⟨opus, ?_⟩
      rw [hs']
      decide +kernel
    have hip : IpAddress.ofText? "127.0.0.1" = some .loopback := by decide +kernel
    have htext : IpAddress.ofText? "nowhere" = none := by decide +kernel
    have hmisplaces : d.Misplaces strange (.address "nowhere") :=
      .control (c := .make "127.0.0.1") rfl hip rfl rfl htext
    exact ((negotiate_all_or_nothing s' d strange).2.1 _ _).2 ⟨.address hcommon hmisplaces, rfl⟩

end MediaSession

end MediaGateway
