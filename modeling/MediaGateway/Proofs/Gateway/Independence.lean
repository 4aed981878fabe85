import MediaGateway.Proofs.Connection.Independence
import MediaGateway.Proofs.Gateway.Agreement
import MediaGateway.Proofs.Gateway.Mirroring

/-!
# Answers and own offers

A connection that was just bound may make an offer and then answer one of the other side. What it
answers is what it would have answered at once, unless its own offer has set up more than the other
side asks for: checks and protection for a browser stay in the answer, and sessions that nobody asks
for stay open.
-/

namespace MediaGateway

namespace Gateway

variable {g g₁ : Gateway} {handle : Nat} {c : Connection} {call : Call} {browser : Bool}
  {own answer : Sdp.Description} {text : String} {d : Sdp.Description}

/-- An operation has not failed to bind a socket. -/
def HasBound {α : Type} (r : Except ConnectionError α × Gateway) : Prop :=
  ∀ e, r.1 = .error (.session e) → e.isBind = false

/-- A connection answers an offer in two gateways with the same outcome: it fails for the same reason
in both, or gives answers that differ in their number and in addresses, ports and credentials only. It
is then in the same state in both, and its sessions differ in their sockets and credentials only. -/
structure SameOutcome (handle : Nat) (r r' : Except ConnectionError Sdp.Description × Gateway) :
    Prop where
  answer : SameResult Sdp.Description.Resembles r.1 r'.1
  connection : ∃ c c' call call', r.2.get? handle = some c ∧ c.call? = some call ∧
    r'.2.get? handle = some c' ∧ c'.call? = some call' ∧ c.life.state = c'.life.state ∧
    call.Resembles call'

/-! ## Answering -/

theorem bindsAll_of_hasBound (hc : g.get? handle = some c) (hcall : c.call? = some call)
    (hstate : c.life.state = .halfOpen) (hq : c.IsQuiet) (h : HasBound (g.processOffer handle text)) :
    BindsAll (call.answerOffer (g.surroundings handle) g.ports text).1 := by
  intro e he
  rcases ha : call.answerOffer (g.surroundings handle) g.ports text with ⟨r, call', ports⟩
  rw [ha] at he
  obtain rfl : r = .error e := he
  obtain ⟨g', hp, -⟩ := processOffer_of_error hc hcall hstate hq ha
  exact h e (by rw [hp])

/-! ## Two connections -/

/-- A connection that was just bound, and the same one after it has made an offer of its own. -/
structure IsOffered (browser : Bool) (handle : Nat) (g₁ g : Gateway) (c : Connection)
    (call₁ call : Call) : Prop where
  fresh : g.IsFresh handle c call
  get? : g₁.get? handle = some { c with leg := .call call₁ }
  follows : call₁.Follows browser [] call
  blank : ∀ s ∈ call.sessions, s.IsBlank

theorem isOffered_of_generateOffer (h : g.IsFresh handle c call) (hg : g.CallsSound)
    (ho : g.generateOffer handle browser = (.ok own, g₁)) (environment : Environment) :
    ∃ call₁, IsOffered browser handle { g₁ with environment } g c call₁ call := by
  have hsound := h.sound hg
  obtain ⟨hnone, hblank⟩ := hsound.fresh h.state h.outbound
  obtain ⟨call₁, ports, hmake, hget⟩ := generateOffer_ok h hnone ho
  exact ⟨call₁, h, hget, Call.follows_of_makeOffer hsound.isSeated hblank hmake, hblank⟩

namespace IsOffered

variable {call₁ : Call} (h : IsOffered browser handle g₁ g c call₁ call)

include h

/-- The connection that has made an offer answers one as the connection without an own offer does, if
the offer asks for the checks and the protection of the own one. -/
theorem sameResult (hd : ∀ d, Sdp.Description.ofText text = .ok d → d.Covers browser)
    (hb₁ : HasBound (g₁.processOffer handle text)) (hb : HasBound (g.processOffer handle text)) :
    SameResult Sdp.Description.Resembles (g₁.processOffer handle text).1
        (g.processOffer handle text).1 ∧
      ((∀ d answer, Sdp.Description.ofText text = .ok d →
          (g.processOffer handle text).1 = .ok answer → d.AsksFor call) →
        SameOutcome handle (g₁.processOffer handle text) (g.processOffer handle text)) := by
  have hfresh := h.fresh
  obtain ⟨hresult, hclosed, halike⟩ := h.follows.answerOffer hd
    (bindsAll_of_hasBound h.get? rfl hfresh.state hfresh.quiet hb₁)
    (bindsAll_of_hasBound hfresh.get? hfresh.call? hfresh.state hfresh.quiet hb)
  rcases ha₁ : call₁.answerOffer (g₁.surroundings handle) g₁.ports text with ⟨r₁, call₁', ports₁⟩
  rcases ha : call.answerOffer (g.surroundings handle) g.ports text with ⟨r, call', ports⟩
  simp only [ha₁, ha] at hresult hclosed halike
  cases hresult with
  | error e =>
    obtain ⟨g₁', hp₁, c₁', hc₁', hcall₁', hstate₁'⟩ :=
      processOffer_of_error h.get? rfl hfresh.state hfresh.quiet ha₁
    obtain ⟨g', hp, c', hc', hcall', hstate'⟩ :=
      processOffer_of_error hfresh.get? hfresh.call? hfresh.state hfresh.quiet ha
    rw [hp₁, hp]
    refine ⟨.error _, fun _ => ⟨.error _, c₁', c', _, _, hc₁', hcall₁', hc', hcall', ?_, hclosed⟩⟩
    rw [hstate₁', hstate']
  | @ok answer₁ answer halikeAnswer =>
    obtain ⟨g₁', hp₁, c₁', hc₁', hcall₁', hstate₁'⟩ :=
      processOffer_of_ok h.get? rfl hfresh.state hfresh.quiet ha₁
    obtain ⟨g', hp, c', hc', hcall', hstate'⟩ :=
      processOffer_of_ok hfresh.get? hfresh.call? hfresh.state hfresh.quiet ha
    rw [hp₁, hp]
    obtain ⟨-, d, hread, -⟩ := Call.answerOffer_ok h.follows.seated ha
    refine ⟨.ok halikeAnswer, fun hasks => ⟨.ok halikeAnswer, c₁', c', call₁', call', hc₁', hcall₁',
      hc', hcall', ?_, halike d answer₁ hread rfl (hasks d answer hread rfl)⟩⟩
    rw [hstate₁', hstate']

/-- If the connection answers without an own offer, it does so alike after one only if the other side
asks for the checks and the protection of that offer, and its sessions are then alike only if the
other side asks for all of them. -/
theorem covers (hread : Sdp.Description.ofText text = .ok d)
    (ha : (g.processOffer handle text).1 = .ok answer) :
    (SameResult Sdp.Description.Resembles (g₁.processOffer handle text).1
        (g.processOffer handle text).1 → d.Covers browser) ∧
      (SameOutcome handle (g₁.processOffer handle text) (g.processOffer handle text) →
        d.AsksFor call) := by
  have hfresh := h.fresh
  obtain ⟨call', ports, g', ha, hp, c', hc', hcall', -⟩ :=
    exists_answerOffer_of_ok hfresh.get? hfresh.call? hfresh.state hfresh.quiet ha
  have hafter {r : Except ConnectionError Sdp.Description}
      (hr : SameResult Sdp.Description.Resembles r (.ok answer)) :
      ∃ answer₁, r = .ok answer₁ ∧ answer₁.Resembles answer := by
    cases hr with
    | ok halike => exact ⟨_, rfl, halike⟩
  rw [hp]
  refine ⟨fun hsame => ?_, fun hsame => ?_⟩
  · obtain ⟨answer₁, ha₁, halike⟩ := hafter hsame
    obtain ⟨call₁', ports₁, -, ha₁, -⟩ :=
      exists_answerOffer_of_ok h.get? rfl hfresh.state hfresh.quiet ha₁
    exact (h.follows.covers_of_answerOffer h.blank hread ha₁ ha).1 halike
  · obtain ⟨answer₁, ha₁, -⟩ := hafter hsame.answer
    obtain ⟨call₁', ports₁, g₁', ha₁, hp₁, c₁', hc₁', hcall₁', -⟩ :=
      exists_answerOffer_of_ok h.get? rfl hfresh.state hfresh.quiet ha₁
    obtain ⟨c₂, c₂', call₂, call₂', hc₂, hcall₂, hc₂', hcall₂', -, halike⟩ := hsame.connection
    rw [hp₁] at hc₂
    obtain rfl : c₁' = c₂ := Option.some.inj (hc₁'.symm.trans hc₂)
    obtain rfl : c' = c₂' := Option.some.inj (hc'.symm.trans hc₂')
    obtain rfl : call₁' = call₂ := Option.some.inj (hcall₁'.symm.trans hcall₂)
    obtain rfl : call' = call₂' := Option.some.inj (hcall'.symm.trans hcall₂')
    exact (h.follows.covers_of_answerOffer h.blank hread ha₁ ha).2 halike

/-- What a connection answers without an own offer has the checks and the protection that the other
side asks for. -/
theorem secures (hread : Sdp.Description.ofText text = .ok d)
    (ha : (g.processOffer handle text).1 = .ok answer) : answer.Secures d false := by
  have hfresh := h.fresh
  obtain ⟨call', ports, g', ha, -⟩ :=
    exists_answerOffer_of_ok hfresh.get? hfresh.call? hfresh.state hfresh.quiet ha
  exact Call.secures_of_answerOffer h.follows.seated (Call.isSecured_of_isBlank h.blank) hread ha

/-- What it answers after an own offer has those of that offer as well. -/
theorem secures_after (hread : Sdp.Description.ofText text = .ok d)
    (ha : (g₁.processOffer handle text).1 = .ok answer) : answer.Secures d browser := by
  have hfresh := h.fresh
  obtain ⟨call', ports, g', ha, -⟩ :=
    exists_answerOffer_of_ok h.get? rfl hfresh.state hfresh.quiet ha
  exact Call.secures_of_answerOffer (h.follows.setup ▸ h.follows.seated) h.follows.isSecured hread
    ha

end IsOffered

/-- A connection that was just bound makes an offer and then answers one, where all sockets can be
bound. That it does as it would have done at once if the other side asks for the checks and the
protection of the own offer and has an open section for each session; and if it would have come to an
answer at all, only then. At once, the answer has the checks and the protection that the other side
asks for, and after an own offer those of that offer as well. -/
theorem answer_after_own_offer (config : GatewayConfig) (environment environment' : Environment)
    (actions : List Action) (hfresh : ((make config environment).run actions).IsFresh handle c call)
    (hown : ((make config environment).run actions).generateOffer handle browser = (.ok own, g₁))
    (hbound : HasBound (((make config environment).run actions).processOffer handle text))
    (hbound' : HasBound ({ g₁ with environment := environment' }.processOffer handle text)) :
    let atOnce := ((make config environment).run actions).processOffer handle text
    let afterwards := { g₁ with environment := environment' }.processOffer handle text
    (∀ d answer, Sdp.Description.ofText text = .ok d → atOnce.1 = .ok answer →
      answer.Secures d false ∧
      (SameResult Sdp.Description.Resembles afterwards.1 atOnce.1 ↔ d.Covers browser) ∧
      (SameOutcome handle afterwards atOnce ↔ d.Covers browser ∧ d.AsksFor call)) ∧
    (∀ e, atOnce.1 = .error e →
      (∀ d, Sdp.Description.ofText text = .ok d → d.Covers browser) →
      SameOutcome handle afterwards atOnce) ∧
    ∀ d answer, Sdp.Description.ofText text = .ok d → afterwards.1 = .ok answer →
      answer.Secures d browser := by
  intro atOnce afterwards
  obtain ⟨call₁, h⟩ := isOffered_of_generateOffer hfresh
    (callsSound_run config environment actions) hown environment'
  refine ⟨fun d answer hread ha => ?_, fun e ha hcovers => ?_,
    fun d answer hread ha => h.secures_after hread ha⟩
  · obtain ⟨hcovers, hasks⟩ := h.covers hread ha
    have hone {d' : Sdp.Description} (hread' : Sdp.Description.ofText text = .ok d') : d = d' :=
      Except.ok.inj (hread.symm.trans hread')
    have hsame (hd : d.Covers browser) :=
      h.sameResult (fun d' hread' => hone hread' ▸ hd) hbound' hbound
    refine ⟨h.secures hread ha, ⟨hcovers, fun hd => (hsame hd).1⟩,
      fun ho => ⟨hcovers ho.answer, hasks ho⟩, fun ⟨hd, hasks⟩ => (hsame hd).2 ?_⟩
    intro d' _ hread' _
    exact hone hread' ▸ hasks
  · refine (h.sameResult hcovers hbound' hbound).2 fun d answer _ hok => ?_
    rw [ha] at hok
    simp at hok

/-! ## An offer with and without checks and protection -/

/-- A gateway with a certificate. -/
def certified : GatewayConfig :=
  { oneFormatEach with fingerprint := some ⟨"sha-256", "ab"⟩ }

/-- An offer of audio, from no browser. -/
def plainOffer : Sdp.Description where
  origin := .make "1" "192.0.2.1"
  sessionName := "-"
  connection := some (.make "192.0.2.1")
  media := [
    { media := "audio", port := 4000, protocol := "RTP/AVP", formats := ["108"]
      rtpmaps := [.make 108 "x" 8000] }]

/-- An offer of audio and video, from a browser. -/
def browserOffer : Sdp.Description :=
  { plainOffer with
    iceLite := true
    fingerprint := some ⟨"sha-256", "cd"⟩
    media := plainOffer.media ++ [
      { media := "video", port := 4002, protocol := "RTP/AVP", formats := ["97"]
        rtpmaps := [.make 97 "y" 90000], rtcpMux := true }] }

/-- A gateway with a certificate, in which a connection was just bound. -/
def justBound : Gateway := (make certified .isolated).run [.create .rtp, .bind 0]

/-- What is there to answer an offer, before and after an own one. -/
theorem exists_isOffered (browser : Bool) :
    ∃ c call own g₁ call₁, justBound.generateOffer 0 browser = (.ok own, g₁) ∧
      IsOffered browser 0 g₁ justBound c call₁ call ∧ (call.session? .video).isSome = true ∧
      g₁.canAnswer 0 plainOffer = true ∧ g₁.canAnswer 0 browserOffer = true := by
  have hbound : (justBound.callIn? 0 .halfOpen).any (fun call =>
      !call.exchange.outbound && call.video.isSome) = true := by
    decide +kernel
  have hown : (justBound.generateOffer 0 browser).1.toOption.isSome = true := by
    cases browser <;> decide +kernel
  obtain ⟨call, hcall, hcond⟩ := (Option.any_eq_true _ _).1 hbound
  obtain ⟨c, hget, hcall, hstate, hquiet⟩ := callIn?_eq_some hcall
  simp only [Bool.and_eq_true, Bool.not_eq_true'] at hcond
  obtain ⟨own, hown⟩ := Option.isSome_iff_exists.1 hown
  have hoffer : justBound.generateOffer 0 browser =
      (.ok own, (justBound.generateOffer 0 browser).2) := Prod.ext (ok_of_toOption hown) rfl
  obtain ⟨call₁, h⟩ := isOffered_of_generateOffer ⟨hget, hcall, hstate, hcond.1, hquiet⟩
    (callsSound_run certified .isolated _) hoffer (justBound.generateOffer 0 browser).2.environment
  refine ⟨c, call, own, _, call₁, hoffer, h, hcond.2, ?_, ?_⟩
  · cases browser <;> decide +kernel
  · cases browser <;> decide +kernel

/-- A browser's offer is answered alike before and after an own one for a browser. -/
theorem answer_after_own_offer_of_browser :
    ∃ own g₁, justBound.generateOffer 0 true = (.ok own, g₁) ∧
      (∃ answer g₂, justBound.processOffer 0 browserOffer.text = (.ok answer, g₂)) ∧
      SameOutcome 0 (g₁.processOffer 0 browserOffer.text)
        (justBound.processOffer 0 browserOffer.text) := by
  obtain ⟨c, call, own, g₁, call₁, hown, h, -, -, hafterwards⟩ := exists_isOffered true
  have hread : Sdp.Description.ofText browserOffer.text = .ok browserOffer := by
    rw [Sdp.Description.ofText_text_eq]
    refine ok_of_toOption ?_
    decide +kernel
  have hatOnce : justBound.canAnswer 0 browserOffer = true := by decide +kernel
  have haudio : (browserOffer.sectionFor? .audio).isSome = true := by decide +kernel
  obtain ⟨answer, g₂, ha⟩ := exists_processOffer_of_canAnswer hatOnce hread haudio
  obtain ⟨answer₁, g₂', ha₁⟩ := exists_processOffer_of_canAnswer hafterwards hread haudio
  have hbound : HasBound (justBound.processOffer 0 browserOffer.text) := by
    simp [HasBound, ha]
  have hbound₁ : HasBound (g₁.processOffer 0 browserOffer.text) := by
    simp [HasBound, ha₁]
  have hcovers : browserOffer.Covers true := ⟨fun _ => by decide, fun _ => by decide⟩
  have hasks : browserOffer.AsksFor call := by
    intro k hk
    cases k with
    | audio => exact haudio
    | video => decide +kernel
    | application => simp [Call.session?] at hk
  obtain ⟨hatOnce, -, -⟩ := answer_after_own_offer certified .isolated g₁.environment
    [.create .rtp, .bind 0] h.fresh hown hbound hbound₁
  exact ⟨own, g₁, hown, ⟨answer, g₂, ha⟩,
    (hatOnce browserOffer answer hread (congrArg Prod.fst ha)).2.2.2 ⟨hcovers, hasks⟩⟩

/-- An offer from no browser is answered with checks and protection after an own offer for a browser,
and leaves video open after any own offer. -/
theorem own_offer_changes_answer :
    plainOffer.containsIce = false ∧ plainOffer.containsDtls = false ∧ ∀ browser,
      ∃ own g₁ answer g₂, justBound.generateOffer 0 browser = (.ok own, g₁) ∧
        g₁.processOffer 0 plainOffer.text = (.ok answer, g₂) ∧
        answer.containsIce = browser ∧ answer.containsDtls = browser ∧
        ¬SameOutcome 0 (g₁.processOffer 0 plainOffer.text)
          (justBound.processOffer 0 plainOffer.text) := by
  have hice : plainOffer.containsIce = false := by decide
  have hdtls : plainOffer.containsDtls = false := by decide
  refine ⟨hice, hdtls, fun browser => ?_⟩
  obtain ⟨c, call, own, g₁, call₁, hown, h, hvideo, hafterwards, -⟩ := exists_isOffered browser
  have hread : Sdp.Description.ofText plainOffer.text = .ok plainOffer := by
    rw [Sdp.Description.ofText_text_eq]
    refine ok_of_toOption ?_
    decide +kernel
  have hatOnce : justBound.canAnswer 0 plainOffer = true := by decide +kernel
  have haudio : (plainOffer.sectionFor? .audio).isSome = true := by decide +kernel
  obtain ⟨answer, g₂, ha⟩ := exists_processOffer_of_canAnswer hatOnce hread haudio
  obtain ⟨answer₁, g₂', ha₁⟩ := exists_processOffer_of_canAnswer hafterwards hread haudio
  obtain ⟨hice₁, hdtls₁⟩ := h.secures_after hread (congrArg Prod.fst ha₁)
  rw [hice, Bool.or_false] at hice₁
  rw [hdtls, Bool.or_false] at hdtls₁
  refine ⟨own, g₁, answer₁, g₂', hown, ha₁, hice₁, hdtls₁, fun hsame => ?_⟩
  have hasked := (h.covers hread (congrArg Prod.fst ha)).2 hsame .video hvideo
  revert hasked
  decide +kernel

end Gateway

end MediaGateway
