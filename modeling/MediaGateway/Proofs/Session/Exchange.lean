import MediaGateway.Proofs.Sdp.Building
import MediaGateway.Proofs.Session.Answer

/-!
# Two sessions that agree

A session that was prepared for an offer or an answer is ready: it has its sockets, and it takes part
in connectivity checks and protection exactly if both sides are to. What a ready session contributes
to a description names the addresses of its sockets, so a session of the other side that agrees with
the section sends to them.
-/

namespace MediaGateway

/-- What the host and the source of credentials do for a session. -/
structure Surroundings.Serves (w : Surroundings) (seat : Seat) : Prop where
  /-- A bound socket has the address that was asked for -/
  ip : ∀ channel requested, (w.host.network.assigned seat channel requested).ip = requested.ip
  /-- and some port, -/
  port : ∀ channel requested, (w.host.network.assigned seat channel requested).port ≠ 0
  /-- and credentials are words that can be written. -/
  credentials : (w.credentials seat).IsWritable

/-- Telephone events can be written, so audio can be written with them. -/
theorem FormatTable.IsWritable.withTelephoneEvents {t : FormatTable} (h : t.IsWritable)
    (media : MediaType) : (Negotiator.withTelephoneEvents media t).IsWritable := by
  have hevent : Profile.telephoneEvent.IsWritable := by decide
  have hmem : ∀ f ∈ (Negotiator.withTelephoneEvents media t).toList,
      f = Profile.telephoneEvent ∨ f ∈ t.toList := by
    intro f hf
    simp only [Negotiator.withTelephoneEvents] at hf
    split at hf
    · exact FormatTable.mem_add hf
    · exact .inr hf
  constructor
  · exact Negotiator.distinct_withTelephoneEvents h.distinct media
  · intro f hf
    rcases hmem f hf with rfl | hf
    · exact hevent
    · exact h.formats f hf
  · intro f hf p hp
    rcases hmem f hf with rfl | hf
    · simp [Profile.telephoneEvent, Format.make] at hp
    · exact h.parameters f hf p hp

namespace MediaSession

variable {s s' : MediaSession} {w : Surroundings} {ports ports' : PortRange}

/-! ## Sockets -/

/-- A closed session that was prepared has a socket for media, and one for control packets unless
the two share a port. -/
theorem prepare_closed {mux : Bool} (hs : s.transport = none) (hw : w.Serves s.seat)
    (he : s.prepare w ports mux = (.ok (), s', ports')) :
    ∃ t, s' = { s with rtcpMux := mux, transport := some t } ∧ t.rtp.address.port ≠ 0 ∧
      (∀ r ∈ t.rtcp, r.address.ip = t.rtp.address.ip) ∧ t.rtcp.isNone = mux := by
  simp only [prepare, openOn, hs] at he
  rcases hb : bindRtp w.host s.seat bindRetries ports with ⟨e | socket, ports₁⟩
  · simp [hb] at he
  · obtain ⟨port, rfl⟩ := bindRtp_ok hb
    simp only [hb, configureRtcp] at he
    cases mux with
    | true =>
      simp only [if_true, Prod.mk.injEq, true_and] at he
      obtain ⟨rfl, -⟩ := he
      exact ⟨_, rfl, hw.port _ _, by simp, rfl⟩
    | false =>
      simp only [Bool.false_eq_true, if_false, Option.isSome_none] at he
      split at he
      · rename_i socket' hr
        obtain rfl := Host.bind_ok hr
        simp only [Prod.mk.injEq, true_and] at he
        obtain ⟨rfl, -⟩ := he
        refine ⟨_, rfl, hw.port _ _, ?_, rfl⟩
        rintro r hr
        obtain rfl := Option.some.inj hr
        have hmedia := hw.ip .rtp ⟨w.host.ip, port⟩
        exact (hw.ip .rtcp _).trans hmedia.symm
      · simp at he

/-! ## Ready sessions -/

/-- A session that can come to an agreement, with checks and protection if `browser` holds. -/
structure IsReady (browser : Bool) (s : MediaSession) : Prop where
  /-- It has a socket for media, -/
  rtp : ∃ a, s.localRtp = some a ∧ a.port ≠ 0
  /-- and one for control packets, unless they share the port. -/
  rtcp : s.localRtcp.isNone = browser
  ip : ∀ a ∈ s.localRtp, ∀ r ∈ s.localRtcp, r.ip = a.ip
  rtcpMux : s.rtcpMux = browser
  /-- It takes part in checks -/
  ice : s.ice.isSome = browser
  credentials : ∀ i ∈ s.ice, i.IsWritable
  /-- and in protection. -/
  dtls : s.dtls = browser
  certificate : browser = true → s.fingerprint.isSome = true

/-- What a blank session has become before it agrees on anything. -/
theorem isReady_protectIf {browser : Bool} {s₁ : MediaSession} (hs : s.IsBlank)
    (hw : w.Serves s.seat) (hp : s.prepare w ports browser = (.ok (), s₁, ports'))
    (hq : (s₁.checkIf w browser).protectIf browser = (.ok (), s')) : s'.IsReady browser := by
  obtain ⟨t, rfl, hport, hip, hrtcp⟩ := prepare_closed hs.transport hw hp
  have hip' : ∀ r ∈ t.rtcp.map BoundSocket.address, r.ip = t.rtp.address.ip := by
    intro r hr
    obtain ⟨socket, hsocket, rfl⟩ := Option.map_eq_some_iff.1 hr
    exact hip socket hsocket
  obtain ⟨rfl, hcertificate⟩ := protectIf_ok hq
  constructor
  · exact ⟨_, rfl, hport⟩
  · simpa [localRtcp] using hrtcp
  · rintro a ha r hr
    obtain rfl := Option.some.inj ha
    exact hip' r hr
  · rfl
  · cases browser <;> simp [hs.ice]
  · intro i hi
    cases browser with
    | true =>
      obtain rfl : w.credentials s.seat = i := by simpa [hs.ice] using hi
      exact hw.credentials
    | false => simp [hs.ice] at hi
  · simp [hs.dtls]
  · exact hcertificate

/-- A session that was prepared to be offered is ready. -/
theorem isReady_prepareOffer {browser : Bool} {l : Sdp.LocalMedia} (hs : s.IsBlank)
    (hw : w.Serves s.seat) (he : s.prepareOffer w ports browser = (.ok l, s', ports')) :
    s'.IsReady browser ∧ s'.localMedia true = .ok l := by
  simp only [prepareOffer] at he
  split at he
  · simp at he
  · rename_i s₁ ports₁ hp
    split at he
    · simp at he
    · rename_i s₂ hq
      simp only [Prod.mk.injEq] at he
      obtain ⟨hl, rfl, -⟩ := he
      exact ⟨isReady_protectIf hs hw hp hq, hl⟩

/-- A session that was prepared to answer a section was ready and has agreed with the section. -/
theorem isReady_prepareAnswer {browser : Bool} {d : Sdp.Description} {m : Sdp.MediaSection}
    {l : Sdp.LocalMedia} (hs : s.IsBlank) (hw : w.Serves s.seat) (hmux : m.rtcpMux = browser)
    (hice : d.containsIce = browser) (hdtls : d.containsDtls = browser)
    (he : s.prepareAnswer w ports d m = (.ok l, s', ports')) :
    ∃ (s₁ : MediaSession) (formats : FormatTable), s₁.setup = s.setup ∧ s₁.IsReady browser ∧
      s₁.negotiate d m = (.ok formats, s') ∧ s'.localMedia false = .ok l := by
  simp only [prepareAnswer, hmux, hice, hdtls] at he
  split at he
  · simp at he
  · rename_i s₁ ports₁ hp
    have h₁ := setup_prepare s w ports browser
    rw [hp] at h₁
    split at he
    · simp at he
    · rename_i s₂ hq
      have h₂ := setup_protectIf (s₁.checkIf w browser) browser
      rw [hq] at h₂
      split at he
      · simp at he
      · rename_i formats s₃ hn
        simp only [Prod.mk.injEq] at he
        obtain ⟨hl, rfl, -⟩ := he
        refine ⟨s₂, formats, ?_, isReady_protectIf hs hw hp hq, hn, hl⟩
        exact h₂.trans ((setup_checkIf s₁ w browser).trans h₁)

theorem IsReady.isOpen {browser : Bool} (h : s.IsReady browser) : s.isOpen = true := by
  obtain ⟨a, ha, -⟩ := h.rtp
  obtain ⟨t, ht, -⟩ := Option.map_eq_some_iff.1 ha
  simp [MediaSession.isOpen, ht]

/-- What was agreed on does not make a session less ready. -/
theorem IsReady.adopt {browser : Bool} (h : s.IsReady browser) (formats : FormatTable)
    (rtp rtcp : Option SocketAddress) (m : Sdp.MediaSection) :
    (s.adopt formats rtp rtcp m).IsReady browser :=
  ⟨h.rtp, h.rtcp, h.ip, h.rtcpMux, h.ice, h.credentials, h.dtls, h.certificate⟩

/-- A ready session keeps its sockets when it is told again whether they share a port. -/
theorem IsReady.configureRtcp {browser : Bool} (h : s.IsReady browser) (host : Host) :
    s.configureRtcp host browser = (.ok (), s) := by
  obtain ⟨a, ha, -⟩ := h.rtp
  obtain ⟨t, ht, -⟩ := Option.map_eq_some_iff.1 ha
  have hmux : { s with rtcpMux := browser } = s := by rw [← h.rtcpMux]
  have hrtcp : t.rtcp.isNone = browser := by simpa [localRtcp, ht] using h.rtcp
  simp only [MediaSession.configureRtcp, ht]
  cases browser with
  | true =>
    have hnone : { t with rtcp := none } = t := by
      rw [← Option.isNone_iff_eq_none.1 hrtcp]
    simp only [if_true, hnone, ← ht]
    rw [hmux]
  | false =>
    have hsome : t.rtcp.isSome = true := by
      cases hr : t.rtcp <;> simp_all
    simp only [Bool.false_eq_true, if_false, hsome, if_true]
    rw [← ht, hmux]

/-- A ready session takes the section of an answer if it agrees with it. -/
theorem IsReady.connect {browser : Bool} (h : s.IsReady browser) {d : Sdp.Description}
    {m : Sdp.MediaSection} {formats : FormatTable} (hmux : m.rtcpMux = browser)
    (hn : s.negotiate d m = (.ok formats, s')) : s.connect w d m = (.ok (), s') := by
  simp only [MediaSession.connect, hmux, h.configureRtcp, hn]

/-! ## What a ready session contributes -/

/-- The contribution of a ready session: its addresses, and what protects the media. -/
structure Contributes (browser : Bool) (s : MediaSession) (l : Sdp.LocalMedia) : Prop where
  media : l.media = s.media
  rtp : s.localRtp = some l.rtpAddress
  port : l.rtpAddress.port ≠ 0
  rtcp : s.localRtcp = l.rtcpAddress
  shared : l.rtcpAddress.isNone = browser
  ip : ∀ a ∈ l.rtcpAddress, a.ip = l.rtpAddress.ip
  ice : l.ice.isSome = browser
  credentials : ∀ i ∈ l.ice, i.IsWritable
  dtls : l.dtls.isSome = browser
  certificate : ∀ f ∈ l.dtls, browser = true ∧ s.fingerprint = some f

theorem IsReady.contributes {browser offer : Bool} {l : Sdp.LocalMedia} (h : s.IsReady browser)
    (he : s.localMedia offer = .ok l) :
    s.Contributes browser l ∧
      l.formats = if offer then s.negotiator.supported else s.negotiated := by
  obtain ⟨a, ha, hport⟩ := h.rtp
  obtain ⟨t, ht, rfl⟩ := Option.map_eq_some_iff.1 ha
  have hlocal : s.localRtcp = t.rtcp.map BoundSocket.address := by
    simp only [localRtcp, ht, Option.bind_some]
  have hshared := h.rtcp
  have hrtcp : (if s.rtcpMux then none else t.rtcp.map BoundSocket.address) = s.localRtcp := by
    rw [h.rtcpMux, hlocal]
    rw [hlocal] at hshared
    cases browser with
    | true => exact (Option.isNone_iff_eq_none.1 hshared).symm
    | false => rfl
  simp only [localMedia, ht, Except.ok.injEq] at he
  subst he
  refine ⟨?_, rfl⟩
  constructor
  · rfl
  · exact ha
  · exact hport
  · exact hrtcp.symm
  · exact (congrArg Option.isNone hrtcp).trans hshared
  · intro r hr
    exact h.ip _ ha r (hrtcp ▸ hr)
  · exact h.ice
  · exact h.credentials
  · show (if s.dtls then s.fingerprint else none).isSome = browser
    rw [h.dtls]
    cases browser with
    | true => exact h.certificate rfl
    | false => rfl
  · intro f hf
    replace hf : (if s.dtls then s.fingerprint else none) = some f := hf
    rw [h.dtls] at hf
    cases browser with
    | true => exact ⟨rfl, hf⟩
    | false => simp at hf

/-! ## Agreeing -/

/-- To agree with a section of a session means to agree with what it lists, and to send to the
addresses of the session. -/
theorem negotiate_mediaSection {b : Sdp.Builder} {offer : Bool} {cname : String}
    {l : Sdp.LocalMedia} (hb : b.externalAddress = none) (hd : l.formats.Distinct)
    (hip : ∀ a ∈ l.rtcpAddress, a.ip = l.rtpAddress.ip) (s : MediaSession) (d : Sdp.Description) :
    s.negotiate d (b.mediaSection offer cname l) =
      match s.negotiator.select (Sdp.Builder.listed offer l) with
      | .ok formats => (.ok formats, s.adopt formats (some l.rtpAddress)
          (some (l.rtcpAddress.getD l.rtpAddress)) (b.mediaSection offer cname l))
      | .error e => (.error e, s) := by
  have hn : s.negotiator.negotiate (b.mediaSection offer cname l) =
      s.negotiator.select (Sdp.Builder.listed offer l) := by
    rw [Negotiator.negotiate, Sdp.Builder.offered_mediaSection hd]
  simp only [negotiate, terms, hn, Sdp.Builder.rtpAddress_mediaSection hb,
    Sdp.Builder.rtcpAddress_mediaSection hb d hip, bind, Except.bind, Except.mapError]
  cases s.negotiator.select (Sdp.Builder.listed offer l) with
  | error e => rfl
  | ok formats => simp [pure, Except.pure]

/-- A session that sends to the sockets of another one. -/
structure SendsTo (s t : MediaSession) : Prop where
  rtp : s.remoteRtp = t.localRtp
  rtcp : s.remoteRtcp = t.localRtcp

/-- Two sessions that are usable with the same formats; without checks, each of them sends to the
sockets of the other one. -/
structure AgreesWith (browser : Bool) (s t : MediaSession) : Prop where
  usable : s.isUsable = true
  other_usable : t.isUsable = true
  negotiated : s.negotiated = t.negotiated
  sends : browser = false → s.SendsTo t
  other_sends : browser = false → t.SendsTo s

theorem IsAgreed.isUsable (h : s.IsAgreed) : s.isUsable = true := by
  obtain ⟨f, hf⟩ := h.media
  have hmedia : s.negotiated.hasMedia = true := by
    have hmem : f ∈ s.negotiated.toList.filter fun f => !f.isTelephoneEvent := by simp [hf]
    obtain ⟨hin, hkind⟩ := List.mem_filter.1 hmem
    exact List.any_eq_true.2 ⟨f, hin, hkind⟩
  have hremote : (s.remoteRtp.isSome || s.ice.isSome) = true := by
    simpa using h.remote
  rw [MediaSession.isUsable, h.isOpen, hmedia, hremote]
  rfl

/-- What a session has become that has agreed with a section of another session. -/
theorem negotiate_mediaSection_ok {b : Sdp.Builder} {offer : Bool} {cname : String}
    {l : Sdp.LocalMedia} {d : Sdp.Description} {formats : FormatTable}
    (hb : b.externalAddress = none) (hd : l.formats.Distinct)
    (hip : ∀ a ∈ l.rtcpAddress, a.ip = l.rtpAddress.ip)
    (h : s.negotiate d (b.mediaSection offer cname l) = (.ok formats, s')) :
    s.negotiator.select (Sdp.Builder.listed offer l) = .ok formats ∧
      s' = s.adopt formats (some l.rtpAddress) (some (l.rtcpAddress.getD l.rtpAddress))
        (b.mediaSection offer cname l) := by
  rw [negotiate_mediaSection hb hd hip] at h
  cases hn : s.negotiator.select (Sdp.Builder.listed offer l) with
  | error e => simp [hn] at h
  | ok formats' =>
    simp only [hn, Prod.mk.injEq, Except.ok.injEq] at h
    obtain ⟨rfl, rfl⟩ := h
    exact ⟨rfl, rfl⟩

/-- Without checks, a session that has agreed with a section of another one sends to it. -/
theorem sendsTo_adopt {t : MediaSession} {l : Sdp.LocalMedia} (hs : s.IsReady false)
    (ht : t.Contributes false l) (formats : FormatTable) (m : Sdp.MediaSection) :
    (s.adopt formats (some l.rtpAddress) (some (l.rtcpAddress.getD l.rtpAddress)) m).SendsTo t := by
  have hice : s.ice.isNone = true := by
    have := hs.ice
    cases hi : s.ice <;> simp_all
  constructor
  · rw [ht.rtp]
    simp only [adopt, hice, if_true]
  · rw [ht.rtcp]
    cases hr : l.rtcpAddress with
    | none => exact absurd ht.shared (by simp [hr])
    | some a => simp [adopt]

section Answered

variable {browser : Bool} {t₁ t : MediaSession} {l l' : Sdp.LocalMedia} {b : Sdp.Builder}
  {cname : String} {d : Sdp.Description} {formats : FormatTable}
  (hb : b.externalAddress = none) (hs : s.IsReady browser) (hl : s.localMedia true = .ok l)
  (hf : s.negotiator.supported.IsWritable)
  (hanswer : t₁.negotiate d (b.mediaSection true cname l) = (.ok formats, t))

include hb hs hl hf hanswer

/-- What a session has agreed on with an offer can be written, as the offer could. -/
theorem isWritable_negotiated : t.negotiated = formats ∧ formats.IsWritable := by
  obtain ⟨hc, hformats⟩ := hs.contributes hl
  rw [if_pos rfl] at hformats
  obtain ⟨hselect, rfl⟩ := negotiate_mediaSection_ok hb (hformats ▸ hf.distinct) hc.ip hanswer
  have hd : (Sdp.Builder.listed true l).Distinct :=
    Sdp.Builder.distinct_listed (hformats ▸ hf.distinct)
  obtain ⟨media, event, hagree⟩ := Negotiator.select_ok hd hselect
  have hin : ∀ f ∈ formats.toList, f ∈ s.negotiator.supported.toList := fun f hm =>
    hformats ▸ List.mem_of_mem_filter (hagree.offered f hm)
  exact ⟨rfl, hagree.distinct, fun f hm => hf.formats f (hin f hm),
    fun f hm => hf.parameters f (hin f hm)⟩

/-- A session that has agreed with an offer answers with what was agreed on. -/
theorem contributes_of_answer (ht : t₁.IsReady browser) (hl' : t.localMedia false = .ok l') :
    t.Contributes browser l' ∧ l'.formats = formats := by
  obtain ⟨hnegotiated, -⟩ := isWritable_negotiated hb hs hl hf hanswer
  obtain ⟨hc, hformats⟩ := hs.contributes hl
  rw [if_pos rfl] at hformats
  obtain ⟨-, hadopt⟩ := negotiate_mediaSection_ok hb (hformats ▸ hf.distinct) hc.ip hanswer
  have hready : t.IsReady browser := hadopt ▸ ht.adopt _ _ _ _
  obtain ⟨hc', hformats'⟩ := hready.contributes hl'
  rw [if_neg (by simp), hnegotiated] at hformats'
  exact ⟨hc', hformats'⟩

/-- A session agrees with the answer to its offer, on the formats of the answer. -/
theorem agreesWith_of_answer (ht : t₁.IsReady browser) (hl' : t.localMedia false = .ok l')
    {b' : Sdp.Builder} (hb' : b'.externalAddress = none) (cname' : String) (d' : Sdp.Description) :
    ∃ s', s.negotiate d' (b'.mediaSection false cname' l') = (.ok formats, s') ∧
      s'.AgreesWith browser t := by
  obtain ⟨hnegotiated, hwritable⟩ := isWritable_negotiated hb hs hl hf hanswer
  obtain ⟨hc', hformats'⟩ := contributes_of_answer hb hs hl hf hanswer ht hl'
  obtain ⟨hc, hformats⟩ := hs.contributes hl
  rw [if_pos rfl] at hformats
  have hd : (Sdp.Builder.listed true l).Distinct :=
    Sdp.Builder.distinct_listed (hformats ▸ hf.distinct)
  obtain ⟨hselect, hadopt⟩ := negotiate_mediaSection_ok hb (hformats ▸ hf.distinct) hc.ip hanswer
  obtain ⟨media, event, hagree⟩ := Negotiator.select_ok hd hselect
  have hlisted : Sdp.Builder.listed false l' = formats :=
    (Sdp.Builder.listed_answer l').trans hformats'
  -- What was agreed on was offered, so the side that made the offer supports it.
  have hagain : s.negotiator.select (Sdp.Builder.listed false l') = .ok formats := by
    rw [hlisted]
    refine hagree.select_agreed fun f hm => FormatTable.supports_of_mem ?_
    exact hformats ▸ List.mem_of_mem_filter (hagree.offered f hm)
  have hn : s.negotiate d' (b'.mediaSection false cname' l') =
      (.ok formats, s.adopt formats (some l'.rtpAddress)
        (some (l'.rtcpAddress.getD l'.rtpAddress)) (b'.mediaSection false cname' l')) := by
    rw [negotiate_mediaSection hb' (hformats' ▸ hwritable.distinct) hc'.ip, hagain]
  refine ⟨_, hn, ?_⟩
  constructor
  · exact (isAgreed_negotiate hs.isOpen hn).isUsable
  · exact (isAgreed_negotiate ht.isOpen hanswer).isUsable
  · exact hnegotiated.symm
  · rintro rfl
    exact sendsTo_adopt hs hc' _ _
  · rintro rfl
    rw [hadopt]
    have hback := sendsTo_adopt ht hc formats (b.mediaSection true cname l)
    exact ⟨hback.rtp, hback.rtcp⟩

end Answered

end MediaSession

end MediaGateway
