import MediaGateway.Connection.Call
import MediaGateway.Proofs.Negotiation

/-!
# What becomes of a session

What a session is set up with is never changed by what is done to it. Whether it has sockets is
changed by opening and closing it only. A closed session is blank: nothing of an earlier exchange is
left in it.

`IsAgreed` says what a session is after a successful exchange, whichever side made the offer.
-/

namespace MediaGateway

/-- What a session is set up with. -/
structure SessionSetup where
  /-- The connection and the medium. -/
  seat : Seat
  /-- What the session can do. -/
  negotiator : Negotiator
  /-- The certificate, if there is one. -/
  fingerprint : Option Sdp.Fingerprint
deriving DecidableEq, Repr

namespace MediaSession

variable {s : MediaSession} {w : Surroundings}

/-- What the session is set up with. -/
def setup (s : MediaSession) : SessionSetup := ⟨s.seat, s.negotiator, s.fingerprint⟩

theorem media_eq_of_setup {t : MediaSession} (h : s.setup = t.setup) : s.media = t.media :=
  congrArg (fun u : SessionSetup => u.seat.media) h

/-! ## The setup stays -/

@[simp] theorem setup_close (s : MediaSession) : s.close.setup = s.setup := rfl

@[simp] theorem setup_openOn (s : MediaSession) (h : Host) (ports : PortRange) :
    (s.openOn h ports).2.1.setup = s.setup := by
  simp only [openOn]
  split
  · rfl
  · split <;> rfl

@[simp] theorem setup_configureRtcp (s : MediaSession) (h : Host) (mux : Bool) :
    (s.configureRtcp h mux).2.setup = s.setup := by
  simp only [configureRtcp]
  repeat' split
  all_goals rfl

@[simp] theorem setup_checkIf (s : MediaSession) (w : Surroundings) (wanted : Bool) :
    (s.checkIf w wanted).setup = s.setup := by
  cases wanted <;> rfl

@[simp] theorem setup_protectIf (s : MediaSession) (wanted : Bool) :
    (s.protectIf wanted).2.setup = s.setup := by
  simp only [protectIf, enableDtls]
  repeat' split
  all_goals rfl

@[simp] theorem setup_negotiate (s : MediaSession) (d : Sdp.Description) (m : Sdp.MediaSection) :
    (s.negotiate d m).2.setup = s.setup := by
  simp only [negotiate]
  split <;> rfl

@[simp] theorem setup_prepare (s : MediaSession) (w : Surroundings) (ports : PortRange)
    (mux : Bool) : (s.prepare w ports mux).2.1.setup = s.setup := by
  have ho := setup_openOn s w.host ports
  simp only [prepare]
  split
  · simp_all
  · simp_all

@[simp] theorem setup_prepareOffer (s : MediaSession) (w : Surroundings) (ports : PortRange)
    (browser : Bool) : (s.prepareOffer w ports browser).2.1.setup = s.setup := by
  have hp := setup_prepare s w ports browser
  simp only [prepareOffer]
  split
  · simp_all
  · rename_i s' ports' he
    have hq := setup_protectIf (s'.checkIf w browser) browser
    split <;> simp_all

@[simp] theorem setup_prepareAnswer (s : MediaSession) (w : Surroundings) (ports : PortRange)
    (d : Sdp.Description) (m : Sdp.MediaSection) :
    (s.prepareAnswer w ports d m).2.1.setup = s.setup := by
  have hp := setup_prepare s w ports m.rtcpMux
  simp only [prepareAnswer]
  split
  · simp_all
  · rename_i s' ports' he
    have hq := setup_protectIf (s'.checkIf w d.containsIce) d.containsDtls
    split
    · simp_all
    · rename_i s'' he'
      have hn := setup_negotiate s'' d m
      split <;> simp_all

@[simp] theorem setup_connect (s : MediaSession) (w : Surroundings) (d : Sdp.Description)
    (m : Sdp.MediaSection) : (s.connect w d m).2.setup = s.setup := by
  have hc := setup_configureRtcp s w.host m.rtcpMux
  simp only [connect]
  split
  · simp_all
  · rename_i s' he
    have hn := setup_negotiate s' d m
    split <;> simp_all

@[simp] theorem setup_drain (s : MediaSession) (now : Nat) : (s.drain now).2.setup = s.setup := by
  simp only [drain]
  split <;> rfl

@[simp] theorem setup_receivePacket (s : MediaSession) (m : Metrics) (now : Nat) (p : Packet)
    (source : SocketAddress) : (s.receivePacket m now p source).1.setup = s.setup := by
  simp only [receivePacket, latch, follow, record]
  repeat' split
  all_goals rfl

theorem setup_processInbox (now : Nat) (inbox : List Arrival) (s : MediaSession) (m : Metrics) :
    (processInbox now inbox s m).2.1.setup = s.setup := by
  induction inbox generalizing s m with
  | nil => rfl
  | cons a rest ih =>
    cases a with
    | rtp p source =>
      rw [processInbox_rtp, ih]
      exact s.setup_receivePacket m now p source
    | rtcp _ _ => exact ih _ _
    | rtpFailure _ => rfl
    | rtcpFailure _ => exact ih _ _

@[simp] theorem setup_poll (s : MediaSession) (m : Metrics) (now : Nat) :
    (s.poll m now).2.1.setup = s.setup := by
  rw [poll_session]
  exact setup_processInbox now _ s m

@[simp] theorem setup_transmit (s : MediaSession) (m : Metrics) (network : Network) (now : Nat)
    (p : Payload) (overflow : Overflow) :
    (s.transmit m network now p overflow).2.1.setup = s.setup := by
  simp only [transmit]
  repeat' split
  all_goals rfl

/-! ## Sockets

Where a session receives media is settled when it is opened, and stays until it is closed. -/

theorem isOpen_eq (s : MediaSession) : s.isOpen = s.localRtp.isSome := by
  simp [isOpen, localRtp]

/-- A session that receives media where another one does is open if that one is. -/
theorem isOpen_of_localRtp {t : MediaSession} (h : s.localRtp = t.localRtp) : s.isOpen = t.isOpen := by
  rw [isOpen_eq, h, isOpen_eq]

theorem localRtp_configureRtcp (s : MediaSession) (h : Host) (mux : Bool) :
    (s.configureRtcp h mux).2.localRtp = s.localRtp := by
  simp only [configureRtcp]
  cases ht : s.transport with
  | none => simp [localRtp, ht]
  | some t =>
    simp only
    repeat' split
    all_goals simp [localRtp, ht]

theorem localRtp_checkIf (s : MediaSession) (w : Surroundings) (wanted : Bool) :
    (s.checkIf w wanted).localRtp = s.localRtp := by
  cases wanted <;> rfl

theorem localRtp_protectIf (s : MediaSession) (wanted : Bool) :
    (s.protectIf wanted).2.localRtp = s.localRtp := by
  simp only [protectIf, enableDtls]
  repeat' split
  all_goals rfl

theorem localRtp_negotiate (s : MediaSession) (d : Sdp.Description) (m : Sdp.MediaSection) :
    (s.negotiate d m).2.localRtp = s.localRtp := by
  simp only [negotiate]
  split <;> rfl

theorem localRtp_connect (s : MediaSession) (w : Surroundings) (d : Sdp.Description)
    (m : Sdp.MediaSection) : (s.connect w d m).2.localRtp = s.localRtp := by
  have hc := localRtp_configureRtcp s w.host m.rtcpMux
  simp only [connect]
  split
  · simp_all
  · rename_i s' he
    have hn := localRtp_negotiate s' d m
    split <;> simp_all

theorem localRtp_receivePacket (s : MediaSession) (m : Metrics) (now : Nat) (p : Packet)
    (source : SocketAddress) : (s.receivePacket m now p source).1.localRtp = s.localRtp := by
  simp only [receivePacket, latch, follow, record]
  repeat' split
  all_goals rfl

theorem localRtp_processInbox (now : Nat) (inbox : List Arrival) (s : MediaSession) (m : Metrics) :
    (processInbox now inbox s m).2.1.localRtp = s.localRtp := by
  induction inbox generalizing s m with
  | nil => simp [processInbox, localRtp, Function.comp_def]
  | cons a rest ih =>
    cases a with
    | rtp p source =>
      rw [processInbox_rtp, ih]
      exact s.localRtp_receivePacket m now p source
    | rtcp _ _ => exact ih _ _
    | rtpFailure _ => simp [processInbox, localRtp, Function.comp_def]
    | rtcpFailure _ => exact (ih _ _).trans (by simp [localRtp, Function.comp_def])

theorem localRtp_poll (s : MediaSession) (m : Metrics) (now : Nat) :
    (s.poll m now).2.1.localRtp = s.localRtp := by
  rw [poll_session]
  exact localRtp_processInbox now _ s m

theorem localRtp_drain (s : MediaSession) (now : Nat) :
    (s.drain now).2.localRtp = s.localRtp := by
  simp only [drain]
  split <;> rfl

theorem localRtp_deliver (s : MediaSession) (a : Arrival) :
    (s.deliver a).localRtp = s.localRtp := by
  simp [deliver, localRtp, Function.comp_def]

theorem localRtp_transmit (s : MediaSession) (m : Metrics) (network : Network) (now : Nat)
    (p : Payload) (overflow : Overflow) :
    (s.transmit m network now p overflow).2.1.localRtp = s.localRtp := by
  simp only [transmit]
  repeat' split
  all_goals rfl

/-- A session is open if it could be prepared. -/
theorem isOpen_prepare {s' : MediaSession} {ports ports' : PortRange} {mux : Bool}
    (h : s.prepare w ports mux = (.ok (), s', ports')) : s'.isOpen = true := by
  simp only [prepare] at h
  split at h
  · simp at h
  · simp only [Prod.mk.injEq] at h
    obtain ⟨hr, rfl, -⟩ := h
    simp only [configureRtcp] at hr ⊢
    repeat' split at hr
    all_goals simp_all [isOpen]

/-- A session is open if it could be prepared to be offered. -/
theorem isOpen_prepareOffer {s' : MediaSession} {ports ports' : PortRange} {browser : Bool}
    {l : Sdp.LocalMedia} (h : s.prepareOffer w ports browser = (.ok l, s', ports')) :
    s'.isOpen = true := by
  simp only [prepareOffer] at h
  repeat' split at h
  · simp at h
  · simp at h
  · simp only [Prod.mk.injEq] at h
    obtain ⟨hl, rfl, -⟩ := h
    simp only [localMedia] at hl
    split at hl <;> simp_all [isOpen]

/-! ## Blank sessions -/

/-- A closed session has no trace of an exchange. -/
structure IsBlank (s : MediaSession) : Prop where
  /-- It has no sockets, -/
  transport : s.transport = none
  /-- knows no other side, -/
  remoteRtp : s.remoteRtp = none
  remoteRtcp : s.remoteRtcp = none
  /-- has agreed on nothing, -/
  negotiated : s.negotiated = .empty
  rtcpMux : s.rtcpMux = false
  /-- and takes part neither in checks nor in protection. -/
  ice : s.ice = none
  dtls : s.dtls = false

theorem isBlank_close (s : MediaSession) : s.close.IsBlank := ⟨rfl, rfl, rfl, rfl, rfl, rfl, rfl⟩

theorem isBlank_make (seat : Seat) (config : SessionConfig) (n : Numbering) :
    (make seat config n).IsBlank := ⟨rfl, rfl, rfl, rfl, rfl, rfl, rfl⟩

namespace IsBlank

theorem isOpen (h : s.IsBlank) : s.isOpen = false := by
  simp [MediaSession.isOpen, h.transport]

theorem updateMode (h : s.IsBlank) (mode : Mode) : (s.updateMode mode).IsBlank :=
  ⟨h.transport, h.remoteRtp, h.remoteRtcp, h.negotiated, h.rtcpMux, h.ice, h.dtls⟩

/-- What arrives for a blank session is lost. -/
theorem deliver (h : s.IsBlank) (a : Arrival) : (s.deliver a).IsBlank :=
  ⟨by simp [MediaSession.deliver, h.transport], h.remoteRtp, h.remoteRtcp, h.negotiated, h.rtcpMux,
    h.ice, h.dtls⟩

theorem drain (h : s.IsBlank) (now : Nat) : (s.drain now).2.IsBlank := by
  simp only [MediaSession.drain]
  split
  · exact ⟨h.transport, h.remoteRtp, h.remoteRtcp, h.negotiated, h.rtcpMux, h.ice, h.dtls⟩
  · exact h

theorem transmit (h : s.IsBlank) (m : Metrics) (network : Network) (now : Nat) (p : Payload)
    (overflow : Overflow) : (s.transmit m network now p overflow).2.1.IsBlank := by
  simp only [MediaSession.transmit]
  repeat' split
  all_goals exact ⟨h.transport, h.remoteRtp, h.remoteRtcp, h.negotiated, h.rtcpMux, h.ice, h.dtls⟩

end IsBlank

/-! ## Contributions -/

/-- What a session contributes to a description is about itself. -/
theorem contribution_of_localMedia {offer : Bool} {l : Sdp.LocalMedia}
    (h : s.localMedia offer = .ok l) :
    l.media = s.media ∧ l.mode = s.mode ∧
      l.formats = if offer then s.negotiator.supported else s.negotiated := by
  unfold localMedia at h
  split at h
  · cases h
  · obtain rfl := Except.ok.inj h
    exact ⟨rfl, rfl, rfl⟩

/-! ## Agreed sessions -/

/-- A session after a successful exchange: it is open, there is exactly one format other than
telephone events, and the other side is known or will be with its first packet. -/
structure IsAgreed (s : MediaSession) : Prop where
  /-- It has sockets. -/
  isOpen : s.isOpen = true
  /-- There is one format for media. -/
  media : ∃ f, s.negotiated.toList.filter (fun f => !f.isTelephoneEvent) = [f]
  /-- Media can be sent, or is waited for. -/
  remote : s.remoteRtp.isSome ∨ s.ice.isSome

/-- What a section leads to has an address, unless the session waits for a packet. -/
theorem terms_ok {d : Sdp.Description} {m : Sdp.MediaSection} {formats : FormatTable}
    {rtp rtcp : Option SocketAddress} (h : s.terms d m = .ok (formats, rtp, rtcp)) :
    s.negotiator.negotiate m = .ok formats ∧ d.rtpAddress m = .ok rtp ∧
      d.rtcpAddress m = .ok rtcp ∧ (s.ice.isNone = true → rtp.isSome = true) := by
  simp only [terms, bind, Except.bind] at h
  cases hn : s.negotiator.negotiate m with
  | error e => simp [hn] at h
  | ok f =>
    cases hr : d.rtpAddress m with
    | error e => simp [hn, hr, Except.mapError] at h
    | ok a =>
      cases hc : d.rtcpAddress m with
      | error e => simp [hn, hr, hc, Except.mapError] at h
      | ok b =>
        simp only [hn, hr, hc, Except.mapError] at h
        split at h
        · simp [throw, throwThe, MonadExceptOf.throw] at h
        · rename_i hcond
          simp only [pure, Except.pure, Except.ok.injEq, Prod.mk.injEq] at h
          obtain ⟨rfl, rfl, rfl⟩ := h
          refine ⟨rfl, rfl, rfl, fun hice => ?_⟩
          cases a <;> simp_all

/-- A session that comes to an agreement with a section adopts what the section leads to. -/
theorem adopt_of_negotiate {s' : MediaSession} {d : Sdp.Description} {m : Sdp.MediaSection}
    {formats : FormatTable} (h : s.negotiate d m = (.ok formats, s')) :
    ∃ rtp rtcp, s.terms d m = .ok (formats, rtp, rtcp) ∧ s' = s.adopt formats rtp rtcp m := by
  unfold negotiate at h
  split at h
  · rename_i rtp rtcp hterms
    obtain ⟨hformats, hs'⟩ := Prod.mk.inj h
    obtain rfl := Except.ok.inj hformats
    exact ⟨rtp, rtcp, hterms, hs'.symm⟩
  · cases h

/-- An open session that comes to an agreement with a section is agreed. -/
theorem isAgreed_negotiate {s' : MediaSession} {d : Sdp.Description} {m : Sdp.MediaSection}
    {formats : FormatTable} (ho : s.isOpen = true) (h : s.negotiate d m = (.ok formats, s')) :
    s'.IsAgreed := by
  obtain ⟨rtp, rtcp, hterms, rfl⟩ := adopt_of_negotiate h
  obtain ⟨hn, -, -, hremote⟩ := terms_ok hterms
  obtain ⟨media, event, hagree⟩ := Negotiator.select_ok (FormatTable.distinct_ofList _) hn
  refine ⟨ho, ⟨media, hagree.filter_media⟩, ?_⟩
  cases hi : s.ice with
  | none => exact .inl (by simpa [adopt, hi] using hremote (by simp [hi]))
  | some _ => exact .inr (by simp [adopt, hi])

/-- A session is agreed if it could be prepared to answer. -/
theorem isAgreed_prepareAnswer {s' : MediaSession} {ports ports' : PortRange}
    {d : Sdp.Description} {m : Sdp.MediaSection} {l : Sdp.LocalMedia}
    (h : s.prepareAnswer w ports d m = (.ok l, s', ports')) : s'.IsAgreed := by
  simp only [prepareAnswer] at h
  split at h
  · simp at h
  · rename_i s₁ ports₁ hp
    have ho : s₁.isOpen = true := isOpen_prepare hp
    split at h
    · simp at h
    · rename_i s₂ hq
      have ht : s₂.isOpen = true := by
        have he : ((s₁.checkIf w d.containsIce).protectIf d.containsDtls).2.isOpen = s₁.isOpen :=
          isOpen_of_localRtp ((localRtp_protectIf _ _).trans (localRtp_checkIf s₁ w _))
        rw [hq] at he
        exact he.trans ho
      split at h
      · simp at h
      · rename_i s₃ hn
        simp only [Prod.mk.injEq] at h
        obtain ⟨-, rfl, -⟩ := h
        exact isAgreed_negotiate ht hn

/-- A session is agreed if it could take the section of an answer. -/
theorem isAgreed_connect {s' : MediaSession} {d : Sdp.Description} {m : Sdp.MediaSection}
    (h : s.connect w d m = (.ok (), s')) : s'.IsAgreed := by
  simp only [connect] at h
  split at h
  · simp at h
  · rename_i s₁ hc
    have ho : s₁.isOpen = true := by
      simp only [configureRtcp] at hc
      repeat' split at hc
      all_goals simp_all [isOpen]
      all_goals simp [← hc]
    split at h
    · simp at h
    · rename_i s₂ hn
      simp only [Prod.mk.injEq] at h
      obtain ⟨-, rfl⟩ := h
      exact isAgreed_negotiate ho hn

end MediaSession

end MediaGateway
