import MediaGateway.Proofs.Sdp.Building
import MediaGateway.Proofs.Session.Answer

/-!
# Sessions that are alike

Two sessions resemble each other if they differ in their sockets and credentials only, and so do what
they contribute to descriptions, and the sections made of it.

A session that was offered differs from what it was before in what an offer sets up: its sockets, and
for a browser connectivity checks and protection. When it then answers a section that has these as
well, it resembles the session that answers the section without having been offered.
-/

namespace MediaGateway

/-- Two steps lead to results that are related, or fail for the same reason. -/
inductive SameResult {ε α : Type} (R : α → α → Prop) : Except ε α → Except ε α → Prop
  | ok {a a' : α} (h : R a a') : SameResult R (.ok a) (.ok a')
  | error (e : ε) : SameResult R (.error e) (.error e)

/-- Whether a socket could not be bound. -/
def SessionError.isBind : SessionError → Bool
  | bind _ _ => true
  | _ => false

/-- A step has not failed to bind a socket. -/
def BindsAll {α : Type} (r : Except SessionError α) : Prop :=
  ∀ e, r = .error e → e.isBind = false

theorem BindsAll.of_map {α β : Type} {f : α → β} {r : Except SessionError α}
    (h : BindsAll (r.map f)) : BindsAll r := by
  intro e he
  exact h e (by rw [he]; rfl)

namespace Sdp

/-! ## Descriptions -/

/-- Contributions that differ in addresses and credentials only. -/
structure LocalMedia.Resembles (l l' : LocalMedia) : Prop where
  rest : { l with rtpAddress := l'.rtpAddress, rtcpAddress := l'.rtcpAddress, ice := l'.ice } = l'
  rtcp : l.rtcpAddress.isSome = l'.rtcpAddress.isSome
  ice : l.ice.isSome = l'.ice.isSome

/-- Sections that differ in addresses, ports and credentials only. -/
structure MediaSection.Resembles (a a' : MediaSection) : Prop where
  rest : { a with
    port := a'.port, connection := a'.connection, rtcp := a'.rtcp, ice := a'.ice
    candidates := a'.candidates } = a'
  rtcp : a.rtcp.isSome = a'.rtcp.isSome
  ice : a.ice.isSome = a'.ice.isSome
  candidates : a.candidates.length = a'.candidates.length

/-- Descriptions that differ in their number and in addresses, ports and credentials only. -/
structure Description.Resembles (d d' : Description) : Prop where
  rest : { d with
    origin := { d.origin with sessionId := d'.origin.sessionId }, media := d'.media } = d'
  media : List.Forall₂ MediaSection.Resembles d.media d'.media

theorem MediaSection.Resembles.refl (a : MediaSection) : a.Resembles a := ⟨rfl, rfl, rfl, rfl⟩

theorem resembles_mediaSection {l l' : LocalMedia} (h : l.Resembles l') (b : Builder)
    (offer : Bool) (cname : String) :
    (b.mediaSection offer cname l).Resembles (b.mediaSection offer cname l') := by
  obtain ⟨rtp, rtcp, ice, rfl⟩ : ∃ rtp rtcp ice,
      l' = { l with rtpAddress := rtp, rtcpAddress := rtcp, ice } := ⟨_, _, _, h.rest.symm⟩
  have hrtcp : l.rtcpAddress.isSome = rtcp.isSome := h.rtcp
  have hice : l.ice.isSome = ice.isSome := h.ice
  have hmux : l.rtcpAddress.isNone = rtcp.isNone := by
    rw [← Option.not_isSome, ← Option.not_isSome, hrtcp]
  have hcandidates : l.rtcpAddress.toList.length = rtcp.toList.length := by
    cases hl : l.rtcpAddress <;> cases rtcp <;> simp_all
  rw [Builder.mediaSection_eq, Builder.mediaSection_eq]
  constructor
  · simp only [Builder.frameSection, Builder.listed, hmux]
    rfl
  · simpa [Builder.frameSection] using hrtcp
  · exact hice
  · simp only [Builder.frameSection, hice]
    split
    · simp [Builder.candidates, hcandidates]
    · rfl

theorem MediaSection.Resembles.containsIce {a a' : MediaSection} (h : a.Resembles a') :
    a.containsIce = a'.containsIce := by
  have hempty : a.candidates.isEmpty = a'.candidates.isEmpty := by
    rw [Bool.eq_iff_iff, List.isEmpty_iff_length_eq_zero, List.isEmpty_iff_length_eq_zero,
      h.candidates]
  simp only [MediaSection.containsIce, h.ice, hempty]

theorem MediaSection.Resembles.fingerprint {a a' : MediaSection} (h : a.Resembles a') :
    a.fingerprint = a'.fingerprint := by
  rw [← h.rest]

namespace Description.Resembles

variable {d d' : Description}

/-- Whether a section has a property is told by any that resembles it. -/
theorem any_eq {p : MediaSection → Bool} (h : d.Resembles d')
    (hp : ∀ a a' : MediaSection, a.Resembles a' → p a = p a') : d.media.any p = d'.media.any p := by
  have hmedia := h.media
  generalize d.media = ms, d'.media = ms' at hmedia
  induction hmedia with
  | nil => rfl
  | cons ha _ ih => simp only [List.any_cons, hp _ _ ha, ih]

theorem containsIce (h : d.Resembles d') : d.containsIce = d'.containsIce := by
  have hany := h.any_eq fun _ _ ha => ha.containsIce
  have hlite : d.iceLite = d'.iceLite := by rw [← h.rest]
  have hice : d.ice = d'.ice := by rw [← h.rest]
  simp only [Description.containsIce, hany, hlite, hice]

theorem containsDtls (h : d.Resembles d') : d.containsDtls = d'.containsDtls := by
  have hany := h.any_eq (p := fun a => a.fingerprint.isSome) fun _ _ ha => by rw [ha.fingerprint]
  have hfingerprint : d.fingerprint = d'.fingerprint := by rw [← h.rest]
  simp only [Description.containsDtls, hany, hfingerprint]

end Description.Resembles

end Sdp

namespace MediaSession

variable {s s' s₀ : MediaSession} {w w' : Surroundings} {ports ports' ports₁ ports₁' : PortRange}
  {d : Sdp.Description} {m : Sdp.MediaSection} {browser : Bool}

/-! ## Sessions -/

/-- Sessions that differ in their sockets and credentials only. -/
structure Resembles (s s' : MediaSession) : Prop where
  rest : { s with transport := s'.transport, ice := s'.ice } = s'
  isOpen : s.isOpen = s'.isOpen
  rtcp : s.localRtcp.isSome = s'.localRtcp.isSome
  ice : s.ice.isSome = s'.ice.isSome

/-- A session is what another one has become by being offered. -/
structure IsOfferOf (browser : Bool) (s₀ s : MediaSession) : Prop where
  rest : { s₀ with
    transport := s.transport, rtcpMux := s.rtcpMux, ice := s.ice, dtls := s.dtls } = s
  isOpen : s.isOpen = true
  ice : s.ice.isSome = browser
  dtls : s.dtls = browser
  certificate : browser = true → s₀.fingerprint.isSome = true

theorem Resembles.refl (s : MediaSession) : s.Resembles s := ⟨rfl, rfl, rfl, rfl⟩

theorem Resembles.setup (h : s.Resembles s') : s.setup = s'.setup := by
  rw [← h.rest]
  rfl

/-- Closed sessions are alike if they were before. -/
theorem Resembles.close_eq (h : s.Resembles s') : s.close = s'.close := by
  rw [← h.rest]
  rfl

theorem IsOfferOf.setup (h : IsOfferOf browser s₀ s) : s.setup = s₀.setup := by
  rw [← h.rest]
  rfl

/-- Closing a session takes back what an offer has set up. -/
theorem IsOfferOf.close_eq (h : IsOfferOf browser s₀ s) : s.close = s₀.close := by
  rw [← h.rest]
  rfl

/-- A blank session that was got ready to be offered. -/
theorem isOfferOf_of_prepareOffer {l : Sdp.LocalMedia} (hs : s₀.IsBlank)
    (he : s₀.prepareOffer w ports browser = (.ok l, s, ports')) : IsOfferOf browser s₀ s := by
  simp only [prepareOffer] at he
  split at he
  · simp at he
  · rename_i s₁ ports₁ hp
    obtain ⟨t, rfl, -⟩ := prepare_ok hp
    split at he
    · simp at he
    · rename_i s₂ hq
      simp only [Prod.mk.injEq] at he
      obtain ⟨-, rfl, -⟩ := he
      obtain ⟨rfl, hcertificate⟩ := protectIf_ok hq
      refine ⟨?_, rfl, ?_, ?_, hcertificate⟩
      · cases browser <;> simp [hs.remoteRtp]
      · cases browser <;> simp [hs.ice]
      · simp [hs.dtls]

/-! ## Two sessions that answer a section -/

theorem bindRtp_error {h : Host} {seat : Seat} {retries : Nat} {e : SessionError}
    (he : bindRtp h seat retries ports = (.error e, ports')) : e.isBind = true := by
  induction retries generalizing ports with
  | zero =>
    rw [bindRtp] at he
    simp only at he
    split at he
    · simp at he
    · simp only [Prod.mk.injEq, Except.error.injEq] at he
      rw [← he.1]
      rfl
  | succ n ih =>
    rw [bindRtp] at he
    simp only at he
    split at he
    · simp at he
    · exact ih he

/-- Sockets are all that can be missing to prepare a session. -/
theorem prepare_error {mux : Bool} {e : SessionError}
    (he : s.prepare w ports mux = (.error e, s', ports')) : e.isBind = true := by
  have hconfigure {s : MediaSession} {h : Host} {r : Except SessionError Unit × MediaSession}
      (ho : s.isOpen = true) (hr : s.configureRtcp h mux = r) (hfail : r.1 = .error e) :
      e.isBind = true := by
    obtain ⟨t, ht⟩ := Option.isSome_iff_exists.1 ho
    simp only [configureRtcp, ht] at hr
    subst hr
    repeat' split at hfail
    all_goals simp only [reduceCtorEq, Except.error.injEq] at hfail
    subst hfail
    rfl
  simp only [prepare, openOn] at he
  cases ht : s.transport with
  | some t =>
    simp only [ht, Prod.mk.injEq] at he
    exact hconfigure (by simp [isOpen, ht]) rfl he.1
  | none =>
    rcases hb : bindRtp w.host s.seat bindRetries ports with ⟨e' | socket, ports₁⟩
    · simp only [ht, hb, Prod.mk.injEq, Except.error.injEq] at he
      exact he.1 ▸ bindRtp_error hb
    · simp only [ht, hb, Prod.mk.injEq] at he
      exact hconfigure rfl rfl he.1

/-- Agreeing with a section does not depend on sockets and credentials. -/
theorem Resembles.negotiate (h : s.Resembles s') (d : Sdp.Description) (m : Sdp.MediaSection) :
    (s.negotiate d m).1 = (s'.negotiate d m).1 ∧
      (s.negotiate d m).2.Resembles (s'.negotiate d m).2 := by
  obtain ⟨transport, ice, rfl⟩ : ∃ transport ice, s' = { s with transport, ice } :=
    ⟨_, _, h.rest.symm⟩
  have hice : s.ice.isSome = ice.isSome := h.ice
  have hnone : s.ice.isNone = ice.isNone := by
    rw [← Option.not_isSome, ← Option.not_isSome, hice]
  have hterms : s.terms d m = terms { s with transport, ice } d m := by
    simp only [terms, media, hnone]
  simp only [MediaSession.negotiate, ← hterms]
  split
  · exact ⟨rfl, by simp only [adopt, hnone], h.isOpen, h.rtcp, h.ice⟩
  · exact ⟨rfl, h⟩

/-- What two sessions that are alike contribute to an answer is alike. -/
theorem Resembles.localMedia (h : s.Resembles s') :
    SameResult Sdp.LocalMedia.Resembles (s.localMedia false) (s'.localMedia false) := by
  obtain ⟨transport, ice, rfl⟩ : ∃ transport ice, s' = { s with transport, ice } :=
    ⟨_, _, h.rest.symm⟩
  have hopen : s.transport.isSome = transport.isSome := h.isOpen
  have hrtcp : ((s.transport.bind Transport.rtcp).map BoundSocket.address).isSome =
      ((transport.bind Transport.rtcp).map BoundSocket.address).isSome := h.rtcp
  cases ht : s.transport with
  | none =>
    obtain rfl : transport = none := by
      rw [← Option.isNone_iff_eq_none, ← Option.not_isSome, ← hopen, ht]
      rfl
    simp only [MediaSession.localMedia, ht]
    exact .error _
  | some t =>
    obtain ⟨t', rfl⟩ := Option.isSome_iff_exists.1 (hopen.symm.trans (by simp [ht]))
    simp only [MediaSession.localMedia, ht]
    refine .ok ⟨rfl, ?_, h.ice⟩
    simp only
    split
    · rfl
    · simpa [ht] using hrtcp

theorem Resembles.checkIf (h : s.Resembles s') (w w' : Surroundings) (wanted : Bool) :
    (s.checkIf w wanted).Resembles (s'.checkIf w' wanted) := by
  cases wanted with
  | true =>
    obtain ⟨transport, ice, rfl⟩ : ∃ transport ice, s' = { s with transport, ice } :=
      ⟨_, _, h.rest.symm⟩
    exact ⟨rfl, h.isOpen, h.rtcp, rfl⟩
  | false => exact h

theorem Resembles.protectIf (h : s.Resembles s') (wanted : Bool) :
    (s.protectIf wanted).1 = (s'.protectIf wanted).1 ∧
      (s.protectIf wanted).2.Resembles (s'.protectIf wanted).2 := by
  obtain ⟨transport, ice, rfl⟩ : ∃ transport ice, s' = { s with transport, ice } :=
    ⟨_, _, h.rest.symm⟩
  simp only [MediaSession.protectIf, enableDtls]
  repeat' split
  · exact ⟨rfl, h⟩
  · exact ⟨rfl, rfl, h.isOpen, h.rtcp, h.ice⟩
  · exact ⟨rfl, h⟩

/-- Checks and protection are set up alike in two sessions with sockets, though one was offered
before, if whatever that has set up is asked for. -/
theorem resembles_protectIf {t t₀ : Transport} (w w' : Surroundings) (mux : Bool)
    (ho : IsOfferOf browser s₀ s) (hs : s₀.IsBlank) (hice : browser = true → d.containsIce = true)
    (hdtls : browser = true → d.containsDtls = true) (hrtcp : t.rtcp.isSome = t₀.rtcp.isSome) :
    let r := (checkIf { s with rtcpMux := mux, transport := some t } w d.containsIce).protectIf
      d.containsDtls
    let r₀ := (checkIf { s₀ with rtcpMux := mux, transport := some t₀ } w' d.containsIce).protectIf
      d.containsDtls
    r.1 = r₀.1 ∧ r.2.Resembles r₀.2 := by
  have hrtcp' : ((some t).bind Transport.rtcp |>.map BoundSocket.address).isSome =
      ((some t₀).bind Transport.rtcp |>.map BoundSocket.address).isSome := by
    simpa using hrtcp
  obtain ⟨transport, rtcpMux, ice, dtls, rfl⟩ : ∃ transport rtcpMux ice dtls,
      s = { s₀ with transport, rtcpMux, ice, dtls } := ⟨_, _, _, _, ho.rest.symm⟩
  obtain rfl : dtls = browser := ho.dtls
  cases dtls with
  | true =>
    have hcertificate : s₀.fingerprint.isNone = false := by
      rw [← Option.not_isSome, ho.certificate rfl]
      rfl
    simp only [hice rfl, hdtls rfl, checkIf, protectIf, enableIce, enableDtls, if_true, hcertificate,
      Bool.false_eq_true, if_false, true_and]
    exact ⟨rfl, rfl, hrtcp', rfl⟩
  | false =>
    have hnone : ice.isSome = s₀.ice.isSome := by
      rw [hs.ice]
      exact ho.ice
    have hsame : Resembles
        { s₀ with transport := some t, rtcpMux := mux, ice := ice, dtls := false }
        { s₀ with transport := some t₀, rtcpMux := mux } :=
      ⟨by simp only [hs.dtls], rfl, hrtcp', hnone⟩
    exact (hsame.checkIf w w' _).protectIf _

/-- The session that answers a section after it was offered and the one that answers it afresh come
to the same result, if whatever the offer has set up is asked for and all sockets are bound. -/
theorem IsOfferOf.prepareAnswer (ho : IsOfferOf browser s₀ s) (hs : s₀.IsBlank)
    (hice : browser = true → d.containsIce = true) (hdtls : browser = true → d.containsDtls = true)
    (hb : BindsAll (s.prepareAnswer w ports d m).1)
    (hb₀ : BindsAll (s₀.prepareAnswer w' ports' d m).1) :
    SameResult Sdp.LocalMedia.Resembles (s.prepareAnswer w ports d m).1
        (s₀.prepareAnswer w' ports' d m).1 ∧
      (s.prepareAnswer w ports d m).2.1.Resembles (s₀.prepareAnswer w' ports' d m).2.1 := by
  have hprepared {s : MediaSession} {w : Surroundings} {ports : PortRange}
      (hb : BindsAll (s.prepareAnswer w ports d m).1) :
      ∃ s₁ ports₁, s.prepare w ports m.rtcpMux = (.ok (), s₁, ports₁) := by
    rcases hp : s.prepare w ports m.rtcpMux with ⟨e | u, s₁, ports₁⟩
    · have hbind := prepare_error hp
      rw [prepareAnswer_eq, hp] at hb
      simp [hb e rfl] at hbind
    · exact ⟨s₁, ports₁, rfl⟩
  obtain ⟨s₁, ports₁, hp⟩ := hprepared hb
  obtain ⟨s₁', ports₁', hp₀⟩ := hprepared hb₀
  obtain ⟨t, rfl, hrtcp⟩ := prepare_ok hp
  obtain ⟨t₀, rfl, hrtcp₀⟩ := prepare_ok hp₀
  have hsockets : t.rtcp.isSome = t₀.rtcp.isSome := by
    rw [← Option.not_isNone, ← Option.not_isNone, hrtcp, hrtcp₀]
  obtain ⟨hresult, hsame⟩ := resembles_protectIf w w' m.rtcpMux ho hs hice hdtls
    hsockets
  simp only [prepareAnswer_eq, hp, hp₀, settle]
  rcases hq : (checkIf { s with rtcpMux := m.rtcpMux, transport := some t } w
    d.containsIce).protectIf d.containsDtls with ⟨r, s₂⟩
  rcases hq₀ : (checkIf { s₀ with rtcpMux := m.rtcpMux, transport := some t₀ } w'
    d.containsIce).protectIf d.containsDtls with ⟨r₀, s₂'⟩
  simp only [hq, hq₀] at hresult hsame
  obtain rfl : r = r₀ := hresult
  cases r with
  | error e => exact ⟨.error e, hsame⟩
  | ok u =>
    obtain ⟨hterms, hagreed⟩ := hsame.negotiate d m
    rcases hn : s₂.negotiate d m with ⟨r, s₃⟩
    rcases hn₀ : s₂'.negotiate d m with ⟨r₀, s₃'⟩
    simp only [hn, hn₀] at hterms hagreed
    obtain rfl : r = r₀ := hterms
    simp only [hn, hn₀]
    cases r with
    | error e => exact ⟨.error _, hagreed⟩
    | ok formats => exact ⟨hagreed.localMedia, hagreed⟩

end MediaSession

end MediaGateway
