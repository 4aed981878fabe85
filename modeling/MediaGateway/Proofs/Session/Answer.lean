import MediaGateway.Proofs.Session.Setup

/-!
# A session answers a section

A session that answers a section of an offer first gets its sockets and then settles with the section
what is sent over them. Only the sockets concern the host. What was settled is told in the
contribution of the session to the answer: some of the offered formats, and whether control packets
share the port of the media, as the section says.
-/

namespace MediaGateway

/-- The host binds sockets at real ports. -/
def Network.BindsRealPorts (n : Network) : Prop :=
  ∀ seat channel requested, (n.assigned seat channel requested).port ≠ 0

/-- A socket has the address that the host assigned to it. -/
theorem Host.bind_ok {h : Host} {seat : Seat} {channel : Channel} {port : UInt16}
    {socket : BoundSocket} (he : h.bind seat channel port = .ok socket) :
    socket = ⟨⟨h.ip, port⟩, h.network.assigned seat channel ⟨h.ip, port⟩⟩ := by
  simp only [bind] at he
  split at he
  · simp at he
  · split at he
    · simp at he
    · exact (Except.ok.inj he).symm

/-- What a session contributes to an answer that accepts a section. -/
structure Sdp.LocalMedia.Takes (l : Sdp.LocalMedia) (m : Sdp.MediaSection) : Prop where
  /-- Control packets share the port of the media if they do in the section. -/
  rtcp : l.rtcpAddress.isNone = m.rtcpMux
  /-- What is agreed on was offered. -/
  formats : ∃ (n : Negotiator) (media : Format) (event : Option Format),
    n.Agreement m.offered l.formats media event

namespace MediaSession

variable {s s' : MediaSession} {w : Surroundings} {ports ports' : PortRange}

/-! ## Sockets -/

theorem bindRtp_ok {h : Host} {seat : Seat} {retries : Nat} {socket : BoundSocket}
    (he : bindRtp h seat retries ports = (.ok socket, ports')) :
    ∃ port, socket = ⟨⟨h.ip, port⟩, h.network.assigned seat .rtp ⟨h.ip, port⟩⟩ := by
  induction retries generalizing ports with
  | zero =>
    rw [bindRtp] at he
    simp only at he
    split at he
    · rename_i socket' hb
      simp only [Prod.mk.injEq, Except.ok.injEq] at he
      exact ⟨_, he.1 ▸ Host.bind_ok hb⟩
    · simp at he
  | succ n ih =>
    rw [bindRtp] at he
    simp only at he
    split at he
    · rename_i socket' hb
      simp only [Prod.mk.injEq, Except.ok.injEq] at he
      exact ⟨_, he.1 ▸ Host.bind_ok hb⟩
    · exact ih he

/-- An open session has a socket for control packets unless these share the port of the media. -/
theorem configureRtcp_ok {h : Host} {mux : Bool} (he : s.configureRtcp h mux = (.ok (), s')) :
    ∃ t, s' = { s with rtcpMux := mux, transport := some t } ∧ t.rtcp.isNone = mux := by
  simp only [configureRtcp] at he
  cases ht : s.transport with
  | none => simp [ht] at he
  | some t =>
    simp only [ht] at he
    cases mux with
    | true =>
      simp only [if_true, Prod.mk.injEq, true_and] at he
      exact ⟨_, he.symm, rfl⟩
    | false =>
      simp only [Bool.false_eq_true, if_false] at he
      split at he
      · rename_i hrtcp
        simp only [Prod.mk.injEq, true_and] at he
        refine ⟨t, he.symm, ?_⟩
        cases hr : t.rtcp <;> simp_all
      · split at he
        · simp only [Prod.mk.injEq, true_and] at he
          exact ⟨_, he.symm, rfl⟩
        · simp at he

theorem prepare_ok {mux : Bool} (he : s.prepare w ports mux = (.ok (), s', ports')) :
    ∃ t, s' = { s with rtcpMux := mux, transport := some t } ∧ t.rtcp.isNone = mux := by
  simp only [prepare] at he
  split at he
  · simp at he
  · rename_i a s₁ ports₁ ho
    simp only [Prod.mk.injEq] at he
    obtain ⟨t, hs', hrtcp⟩ := configureRtcp_ok (Prod.ext he.1 he.2.1)
    refine ⟨t, ?_, hrtcp⟩
    simp only [openOn] at ho
    repeat' split at ho
    all_goals simp only [Prod.mk.injEq, Except.ok.injEq, reduceCtorEq, false_and] at ho
    all_goals
      obtain ⟨-, rfl, -⟩ := ho
      exact hs'

/-! ## Ports -/

/-- If the session has a socket for media, it is at a real port. -/
def IsAtRealPort (s : MediaSession) : Prop := ∀ a ∈ s.localRtp, a.port ≠ 0

theorem IsAtRealPort.congr (h : s.IsAtRealPort) (hs : s'.localRtp = s.localRtp) :
    s'.IsAtRealPort := by
  intro a ha
  exact h a (hs ▸ ha)

theorem IsAtRealPort.of_transport (h : s.transport = none) : s.IsAtRealPort := by
  intro a ha
  simp [localRtp, h] at ha

theorem IsAtRealPort.prepare (h : s.IsAtRealPort) (hw : w.host.network.BindsRealPorts)
    (ports : PortRange) (mux : Bool) : (s.prepare w ports mux).2.1.IsAtRealPort := by
  have hopen : (s.openOn w.host ports).2.1.IsAtRealPort := by
    simp only [openOn]
    split
    · exact h
    · split
      · rename_i socket ports₁ hb
        obtain ⟨port, rfl⟩ := bindRtp_ok hb
        intro a ha
        obtain rfl := Option.some.inj ha
        exact hw _ _ _
      · exact h
  simp only [MediaSession.prepare]
  split
  · rename_i e s₁ ports₁ ho
    rwa [ho] at hopen
  · rename_i a s₁ ports₁ ho
    rw [ho] at hopen
    exact hopen.congr (localRtp_configureRtcp s₁ w.host mux)

theorem IsAtRealPort.prepareOffer (h : s.IsAtRealPort) (hw : w.host.network.BindsRealPorts)
    (ports : PortRange) (browser : Bool) :
    (s.prepareOffer w ports browser).2.1.IsAtRealPort := by
  have hp := h.prepare hw ports browser
  simp only [MediaSession.prepareOffer]
  split
  · simp_all
  · rename_i s₁ ports₁ he
    rw [he] at hp
    have hq := hp.congr ((localRtp_protectIf _ browser).trans (localRtp_checkIf s₁ w browser))
    split <;> simp_all

/-! ## Settling -/

/-- Checks and protection are added to those that a session has, and protection takes a
certificate. -/
theorem protectIf_ok {checked secured : Bool}
    (he : (s.checkIf w checked).protectIf secured = (.ok (), s')) :
    s' = { s with
        ice := if checked then some (s.ice.getD (w.credentials s.seat)) else s.ice
        remoteRtp := if checked then none else s.remoteRtp
        dtls := s.dtls || secured } ∧
      (secured = true → s.fingerprint.isSome = true) := by
  have hcheck : s.checkIf w checked = { s with
      ice := if checked then some (s.ice.getD (w.credentials s.seat)) else s.ice
      remoteRtp := if checked then none else s.remoteRtp } := by
    cases checked <;> rfl
  rw [hcheck] at he
  cases secured with
  | false =>
    simp only [protectIf, Bool.false_eq_true, if_false, Prod.mk.injEq, true_and] at he
    simp [he]
  | true =>
    simp only [protectIf, enableDtls, if_true] at he
    split at he
    · simp [Except.mapError] at he
    · rename_i hcertificate
      simp only [Prod.mk.injEq] at he
      refine ⟨by simp [he.2], fun _ => ?_⟩
      simpa [Option.isNone_iff_eq_none, Option.isSome_iff_ne_none] using hcertificate

/-- What a session with sockets does to answer a section. -/
def settle (s : MediaSession) (w : Surroundings) (d : Sdp.Description) (m : Sdp.MediaSection) :
    Except SessionError Sdp.LocalMedia × MediaSession :=
  match (s.checkIf w d.containsIce).protectIf d.containsDtls with
  | (.error e, s) => (.error e, s)
  | (.ok _, s) =>
    match s.negotiate d m with
    | (.error e, s) => (.error (.negotiation e), s)
    | (.ok _, s) => (s.localMedia false, s)

theorem prepareAnswer_eq (s : MediaSession) (w : Surroundings) (ports : PortRange)
    (d : Sdp.Description) (m : Sdp.MediaSection) :
    s.prepareAnswer w ports d m =
      match s.prepare w ports m.rtcpMux with
      | (.error e, s, ports) => (.error e, s, ports)
      | (.ok _, s, ports) => ((s.settle w d m).1, (s.settle w d m).2, ports) := by
  simp only [prepareAnswer, settle]
  repeat' split
  all_goals simp_all

theorem localRtp_settle (s : MediaSession) (w : Surroundings) (d : Sdp.Description)
    (m : Sdp.MediaSection) : (s.settle w d m).2.localRtp = s.localRtp := by
  have hq := (localRtp_protectIf _ d.containsDtls).trans (localRtp_checkIf s w d.containsIce)
  simp only [settle]
  split
  · simp_all
  · rename_i s₁ he
    have hn := localRtp_negotiate s₁ d m
    split <;> simp_all

theorem IsAtRealPort.prepareAnswer (h : s.IsAtRealPort) (hw : w.host.network.BindsRealPorts)
    (ports : PortRange) (d : Sdp.Description) (m : Sdp.MediaSection) :
    (s.prepareAnswer w ports d m).2.1.IsAtRealPort := by
  have hp := h.prepare hw ports m.rtcpMux
  rw [prepareAnswer_eq]
  split
  · simp_all
  · rename_i s₁ ports₁ he
    rw [he] at hp
    exact hp.congr (localRtp_settle s₁ w d m)

/-- What a session contributes to an answer that it has settled. -/
theorem settle_ok {t : Transport} {d : Sdp.Description} {m : Sdp.MediaSection}
    {l : Sdp.LocalMedia} (ht : s.transport = some t) (he : s.settle w d m = (.ok l, s')) :
    ∃ formats, s.negotiator.negotiate m = .ok formats ∧
      (d.containsDtls = true → s.fingerprint.isSome = true) ∧
      l = {
        media := s.media
        rtpAddress := t.rtp.address
        rtcpAddress := if s.rtcpMux then none else t.rtcp.map BoundSocket.address
        formats
        mode := s.mode
        ssrc := s.numbering.ssrc
        ice := if d.containsIce then some (s.ice.getD (w.credentials s.seat)) else s.ice
        dtls := if s.dtls || d.containsDtls then s.fingerprint else none } := by
  simp only [settle] at he
  split at he
  · simp at he
  · rename_i s₁ hs₁
    obtain ⟨rfl, hcertificate⟩ := protectIf_ok hs₁
    split at he
    · simp at he
    · rename_i formats s₂ hn
      simp only [Prod.mk.injEq] at he
      obtain ⟨hl, -⟩ := he
      obtain ⟨rtp, rtcp, hterms, rfl⟩ := adopt_of_negotiate hn
      simp only [localMedia, adopt, ht, Except.ok.injEq] at hl
      exact ⟨formats, (terms_ok hterms).1, hcertificate, hl.symm⟩

/-- A session that answers a section takes it, where it receives media. -/
theorem takes_of_prepareAnswer {d : Sdp.Description} {m : Sdp.MediaSection} {l : Sdp.LocalMedia}
    (he : s.prepareAnswer w ports d m = (.ok l, s', ports')) :
    l.media = s.media ∧ l.Takes m ∧ s'.localRtp = some l.rtpAddress := by
  rw [prepareAnswer_eq] at he
  split at he
  · simp at he
  · rename_i s₁ ports₁ hp
    simp only [Prod.mk.injEq] at he
    obtain ⟨hl, rfl, -⟩ := he
    obtain ⟨t, rfl, hrtcp⟩ := prepare_ok hp
    obtain ⟨formats, hnegotiate, -, rfl⟩ := settle_ok rfl (Prod.ext hl rfl)
    refine ⟨rfl, ⟨?_, ?_⟩, ?_⟩
    · cases hmux : m.rtcpMux with
      | true => simp
      | false => simpa [hmux] using hrtcp
    · obtain ⟨media, event, hagree⟩ :=
        Negotiator.select_ok (FormatTable.distinct_ofList _) hnegotiate
      exact ⟨_, media, event, hagree⟩
    · rw [localRtp_settle]
      rfl

/-- What a session contributes to an answer takes part in checks and is protected if the session was
set up so before, or the offer asks for it. -/
theorem secured_of_prepareAnswer {d : Sdp.Description} {m : Sdp.MediaSection} {l : Sdp.LocalMedia}
    (hcertificate : s.dtls = true → s.fingerprint.isSome = true)
    (he : s.prepareAnswer w ports d m = (.ok l, s', ports')) :
    l.ice.isSome = (s.ice.isSome || d.containsIce) ∧
      l.dtls.isSome = (s.dtls || d.containsDtls) := by
  rw [prepareAnswer_eq] at he
  split at he
  · simp at he
  · rename_i s₁ ports₁ hp
    simp only [Prod.mk.injEq] at he
    obtain ⟨hl, -, -⟩ := he
    obtain ⟨t, rfl, -⟩ := prepare_ok hp
    obtain ⟨formats, -, hwanted, rfl⟩ := settle_ok rfl (Prod.ext hl rfl)
    refine ⟨?_, ?_⟩
    · cases d.containsIce <;> simp
    · cases hdtls : s.dtls || d.containsDtls with
      | false => simp
      | true =>
        rw [Bool.or_eq_true] at hdtls
        simpa using hdtls.elim hcertificate hwanted

end MediaSession

end MediaGateway
