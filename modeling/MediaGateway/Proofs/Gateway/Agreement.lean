import MediaGateway.Proofs.Connection.Exchange
import MediaGateway.Proofs.Gateway.OfferAnswer

/-!
# Offer and answer agree

Two connections that were just bound, in one gateway or in two, exchange an offer and an answer. If
the one side makes the offer and the other one answers it, then the first one takes the answer, and
the two of them use the same media in the same formats.
-/

namespace MediaGateway

open Text

/-- What the host and the random numbers do for a call: sockets have the address that was asked for
and some port, and what is chosen at random can be written. -/
structure Environment.Serves (e : Environment) (call : Call) : Prop where
  ip : ∀ s ∈ call.sessions, ∀ channel requested,
    (e.network.assigned s.seat channel requested).ip = requested.ip
  port : ∀ s ∈ call.sessions, ∀ channel requested,
    (e.network.assigned s.seat channel requested).port ≠ 0
  credentials : ∀ s ∈ call.sessions, (e.credentials s.seat).IsWritable
  cname : IsWord call.exchange.cname.toList
  descriptionId : IsWord e.descriptionId.toList

/-- A call that a host without any link gives ports to, with a name that can be written. -/
def Call.IsNumbered (call : Call) : Prop :=
  (∀ s ∈ call.sessions, ∀ channel ∈ [Channel.rtp, .rtcp], Network.seatPort s.seat channel ≠ 0) ∧
    IsWord call.exchange.cname.toList

instance {call : Call} : Decidable call.IsNumbered := inferInstanceAs (Decidable (_ ∧ _))

theorem Environment.serves_isolated {call : Call} (h : call.IsNumbered) :
    Environment.isolated.Serves call where
  ip := fun _ _ _ _ => rfl
  port := by
    intro s hs channel requested
    refine h.1 s hs channel ?_
    cases channel <;> decide
  credentials := by
    intro s _
    show Sdp.IceCredentials.IsWritable ⟨"user", "password"⟩
    exact ⟨by decide, by decide⟩
  cname := h.2
  descriptionId := by decide

namespace GatewayConfig

/-- A gateway that describes itself with its own address and, to browsers, with a certificate that
was read from a line. -/
structure IsPlain (config : GatewayConfig) (browser : Bool) : Prop where
  external : config.externalAddress = none
  certificate : browser = true → ∀ f ∈ config.fingerprint,
    ∃ line, '\n' ∉ line ∧ Sdp.Fingerprint.ofChars line = .ok f

/-- All that the sessions can do can be written. -/
structure HasWritableFormats (config : GatewayConfig) : Prop where
  audio : config.audio.IsWritable
  video : ∀ formats ∈ config.video, formats.IsWritable

/-- A session of a call is set up with the certificate and with some formats of the
configuration. -/
theorem exists_formats {config : GatewayConfig} {id : UInt32} {call : Call} {s : MediaSession}
    (h : call.setup = config.callSetup id) (hs : s ∈ call.sessions) :
    s.fingerprint = config.fingerprint ∧ ∃ media formats,
      s.negotiator = .symmetric media formats ∧ (formats = config.audio ∨ formats ∈ config.video) := by
  rcases Call.mem_sessions.1 hs with rfl | hv
  · have haudio : call.audio.setup = (config.callSetup id).audio := congrArg CallSetup.audio h
    have hnegotiator : call.audio.negotiator = .symmetric .audio config.audio :=
      congrArg SessionSetup.negotiator haudio
    exact ⟨congrArg SessionSetup.fingerprint haudio, .audio, config.audio, hnegotiator, .inl rfl⟩
  · have hvideo : call.video.map MediaSession.setup = (config.callSetup id).video :=
      congrArg CallSetup.video h
    rw [hv, Option.map_some] at hvideo
    obtain ⟨formats, hformats, hset⟩ := Option.map_eq_some_iff.1 hvideo.symm
    have hnegotiator : s.negotiator = .symmetric .video formats :=
      congrArg SessionSetup.negotiator hset.symm
    exact ⟨congrArg SessionSetup.fingerprint hset.symm, .video, formats, hnegotiator, .inr hformats⟩

theorem HasWritableFormats.supported {config : GatewayConfig} {id : UInt32} {call : Call}
    {s : MediaSession} (hw : config.HasWritableFormats) (h : call.setup = config.callSetup id)
    (hs : s ∈ call.sessions) : s.negotiator.supported.IsWritable := by
  obtain ⟨-, media, formats, hnegotiator, hin⟩ := exists_formats h hs
  have hformats : formats.IsWritable := by
    rcases hin with rfl | hv
    · exact hw.audio
    · exact hw.video formats hv
  rw [hnegotiator, Negotiator.supported_symmetric hformats.distinct]
  exact hformats.withTelephoneEvents media

end GatewayConfig

namespace Gateway

variable {g g' : Gateway} {handle : Nat} {c : Connection} {call : Call} {browser : Bool}
  {config : GatewayConfig}

/-- A connection that was just bound: nothing was offered or answered yet. -/
structure IsFresh (g : Gateway) (handle : Nat) (c : Connection) (call : Call) : Prop where
  get? : g.get? handle = some c
  call? : c.call? = some call
  state : c.life.state = .halfOpen
  outbound : call.exchange.outbound = false
  quiet : c.IsQuiet

/-- A connection that is open, with its call. -/
def HasOpened (g : Gateway) (handle : Nat) (call : Call) : Prop :=
  ∃ c, g.get? handle = some c ∧ c.call? = some call ∧ c.life.state = .opened

theorem IsFresh.sound (h : g.IsFresh handle c call) (hg : g.CallsSound) :
    CallView.Sound g.config ⟨c.life.state, c.life.mode, call⟩ := by
  refine hg handle ⟨c.life.state, c.life.mode, call⟩ ?_
  simp [view?, h.get?, Connection.view?, h.call?]

/-- The call of a connection that was just bound is fresh, and no offer is there to be repeated. -/
theorem IsFresh.isFresh_call (h : g.IsFresh handle c call) (hg : g.CallsSound)
    (hconfig : g.config.IsPlain browser) (he : g.environment.Serves call) :
    call.exchange.localDescription = none ∧ call.IsFresh (g.surroundings handle) browser := by
  have hsound := h.sound hg
  obtain ⟨hnone, hblank⟩ := hsound.fresh h.state h.outbound
  obtain ⟨id, hsetup⟩ := hsound.setup
  replace hsetup : call.setup = g.config.callSetup id := hsetup
  have hbuilder : call.builder = .make g.config.bindAddress.text g.config.externalAddress :=
    congrArg CallSetup.builder hsetup
  refine ⟨hnone, ?_⟩
  constructor
  · exact hsound.isSeated
  · exact hblank
  · exact fun s hs => ⟨he.ip s hs, he.port s hs, he.credentials s hs⟩
  · rw [hbuilder, hconfig.external]
    rfl
  · rw [hbuilder]
    exact Sdp.isAddress_text g.config.bindAddress
  · exact he.cname
  · exact he.descriptionId
  · intro hbrowser s hs f hf
    have hfingerprint := (GatewayConfig.exists_formats hsetup hs).1
    exact Sdp.Fingerprint.isWritable_iff.2 (hconfig.certificate hbrowser f (hfingerprint ▸ hf))

theorem IsFresh.supported (h : g.IsFresh handle c call) (hg : g.CallsSound)
    (hconfig : g.config.HasWritableFormats) :
    ∀ s ∈ call.sessions, s.negotiator.supported.IsWritable := by
  obtain ⟨id, hsetup⟩ := (h.sound hg).setup
  exact fun s hs => hconfig.supported hsetup hs

/-! ## The three steps -/

/-- A connection that was just bound makes an offer with its call, and waits. -/
theorem generateOffer_ok {offer : Sdp.Description} (h : g.IsFresh handle c call)
    (hnone : call.exchange.localDescription = none)
    (he : g.generateOffer handle browser = (.ok offer, g')) :
    ∃ call' ports, call.makeOffer (g.surroundings handle) g.ports browser = (.ok offer, call', ports) ∧
      g'.get? handle = some { c with leg := .call call' } := by
  have hb := beginCall_of_halfOpen h.get? h.call? h.state .generateOffer
  simp only [generateOffer, hb, hnone, Option.filter_none] at he
  rcases hm : call.makeOffer (g.surroundings handle) g.ports browser with ⟨e | offer', call', ports⟩
  · simp [hm] at he
  · simp only [hm, Prod.mk.injEq, Except.ok.injEq] at he
    obtain ⟨rfl, rfl⟩ := he
    exact ⟨call', ports, rfl, get?_putCall hb _ _⟩

/-- A connection that was just bound answers an offer with its call, and is open. -/
theorem processOffer_ok {answer : Sdp.Description} {text : String} (h : g.IsFresh handle c call)
    (he : g.processOffer handle text = (.ok answer, g')) :
    ∃ call' ports, call.answerOffer (g.surroundings handle) g.ports text =
      (.ok answer, call', ports) ∧ g'.HasOpened handle call' := by
  obtain ⟨call', ports, g₁, ha, hp, hopened⟩ :=
    exists_answerOffer_of_ok h.get? h.call? h.state h.quiet (congrArg Prod.fst he)
  obtain rfl : g₁ = g' := congrArg Prod.snd (hp.symm.trans he)
  exact ⟨call', ports, ha, hopened⟩

/-- A connection whose call takes an answer is open. -/
theorem processAnswer_of_applyAnswer {text : String} {call' : Call} (hc : g.get? handle = some c)
    (hcall : c.call? = some call) (hstate : c.life.state = .halfOpen) (hq : c.IsQuiet)
    (hout : call.exchange.outbound = true)
    (ha : call.applyAnswer (g.surroundings handle) text = (.ok (), call')) :
    ∃ g', g.processAnswer handle text = (.ok (), g') ∧ g'.HasOpened handle call' := by
  have hb := beginCall_of_halfOpen hc hcall hstate .processAnswer
  obtain ⟨g', ho, c', hc', hcall', hstate'⟩ := openConnection_putCall hb hq call' g.ports
  refine ⟨g', ?_, c', hc', hcall', hstate'⟩
  simp only [processAnswer, hb, hout, ha, ho, Bool.not_true, Bool.false_eq_true, if_false]

/-- Offer and answer agree. Two connections were just bound, in any gateways after any runs. If the
one makes an offer and the other one answers it, then the first one succeeds in taking the answer,
whatever has become of its gateway around it. Both connections are open, their audio sessions agree,
and their video sessions agree unless neither of them is open. -/
theorem exchange_agrees (config config' : GatewayConfig) (environment environment' : Environment)
    (actions actions' : List Action) {a b : Nat} {ca cb : Connection} {calla callb : Call}
    {offer answer : Sdp.Description} {ga ga₁ gb : Gateway}
    (ha : ((make config environment).run actions).IsFresh a ca calla)
    (hb : ((make config' environment').run actions').IsFresh b cb callb)
    (hconfig : config.IsPlain browser) (hconfig' : config'.IsPlain browser)
    (hformats : config.HasWritableFormats)
    (hserves : ((make config environment).run actions).environment.Serves calla)
    (hserves' : ((make config' environment').run actions').environment.Serves callb)
    (hoffer : ((make config environment).run actions).generateOffer a browser = (.ok offer, ga))
    (hanswer : ((make config' environment').run actions').processOffer b offer.text =
      (.ok answer, gb))
    (hsame : ga₁.get? a = ga.get? a) :
    ∃ ga₂ calla' callb', ga₁.processAnswer a answer.text = (.ok (), ga₂) ∧
      ga₂.HasOpened a calla' ∧ gb.HasOpened b callb' ∧ calla'.AgreesWith browser callb' := by
  have hsound := callsSound_run config environment actions
  have hsound' := callsSound_run config' environment' actions'
  obtain ⟨hnone, hfresh⟩ := ha.isFresh_call hsound
    (by rw [config_run]; exact hconfig) hserves
  obtain ⟨-, hfresh'⟩ := hb.isFresh_call hsound' (by rw [config_run]; exact hconfig') hserves'
  have hsupported := ha.supported hsound (by rw [config_run]; exact hformats)
  obtain ⟨calla₁, ports, hmake, hget⟩ := generateOffer_ok ha hnone hoffer
  obtain ⟨callb', ports', hanswered, hopened⟩ := processOffer_ok hb hanswer
  obtain ⟨-, hout, -⟩ := Call.makeOffer_ok hfresh.seated hmake
  obtain ⟨calla', happly, hagrees⟩ :=
    Call.agreesWith_of_exchange hfresh hfresh' hsupported hmake hanswered (ga₁.surroundings a)
  obtain ⟨ga₂, hprocess, hopened'⟩ := processAnswer_of_applyAnswer (hsame.trans hget) rfl ha.state
    ha.quiet hout happly
  exact ⟨ga₂, calla', callb', hprocess, hopened', hopened, hagrees⟩

/-! ## Runs on a host without any link -/

theorem exists_isFresh (he : g.environment = .isolated)
    (h : (g.callIn? handle .halfOpen).any (fun call =>
      !call.exchange.outbound && decide call.IsNumbered) = true) :
    ∃ c call, g.IsFresh handle c call ∧ g.environment.Serves call := by
  obtain ⟨call, hcall, hcond⟩ := (Option.any_eq_true _ _).1 h
  obtain ⟨c, hget, hcall, hstate, hquiet⟩ := callIn?_eq_some hcall
  simp only [Bool.and_eq_true, Bool.not_eq_true', decide_eq_true_eq] at hcond
  refine ⟨c, call, ⟨hget, hcall, hstate, hcond.1, hquiet⟩, ?_⟩
  rw [he]
  exact Environment.serves_isolated hcond.2

/-- An exchange between two connections, with the gateway as each of its steps left it. -/
structure Dialogue where
  offer : Sdp.Description
  answer : Sdp.Description
  offered : Gateway
  answered : Gateway
  concluded : Gateway

/-- The exchange between two connections of one gateway, if all of its steps succeed. -/
def dialogue? (g : Gateway) (handle handle' : Nat) (browser : Bool) : Option Dialogue :=
  (g.generateOffer handle browser).1.toOption.bind fun offer =>
    let offered := (g.generateOffer handle browser).2
    (offered.processOffer handle' offer.text).1.toOption.bind fun answer =>
      let answered := (offered.processOffer handle' offer.text).2
      (answered.processAnswer handle answer.text).1.toOption.map fun _ =>
        ⟨offer, answer, offered, answered, (answered.processAnswer handle answer.text).2⟩

theorem dialogue?_eq_some {browser : Bool} {d : Dialogue}
    (h : g.dialogue? handle handle' browser = some d) :
    g.generateOffer handle browser = (.ok d.offer, d.offered) ∧
      d.offered.processOffer handle' d.offer.text = (.ok d.answer, d.answered) ∧
      d.answered.processAnswer handle d.answer.text = (.ok (), d.concluded) := by
  obtain ⟨offer, hoffer, h⟩ := Option.bind_eq_some_iff.1 h
  obtain ⟨answer, hanswer, h⟩ := Option.bind_eq_some_iff.1 h
  obtain ⟨u, hconclusion, rfl⟩ := Option.map_eq_some_iff.1 h
  exact ⟨Prod.ext (ok_of_toOption hoffer) rfl, Prod.ext (ok_of_toOption hanswer) rfl,
    Prod.ext (ok_of_toOption hconclusion) rfl⟩

/-- Two connections of one gateway with audio and video; the video is used too. -/
theorem exchange_agrees_in_one_gateway :
    let g := (make oneFormatEach .isolated).run [.create .rtp, .create .rtp, .bind 0, .bind 1]
    ∃ offer answer g₁ g₂ g₃ calla callb, g.generateOffer 0 false = (.ok offer, g₁) ∧
      g₁.processOffer 1 offer.text = (.ok answer, g₂) ∧
      g₂.processAnswer 0 answer.text = (.ok (), g₃) ∧ g₃.HasOpened 0 calla ∧
      g₂.HasOpened 1 callb ∧ calla.AgreesWith false callb ∧
      ∃ s ∈ callb.video, s.isUsable = true := by
  intro g
  have hformats : oneFormatEach.HasWritableFormats := by
    refine ⟨by decide +kernel, fun formats hv => ?_⟩
    obtain rfl := Option.some.inj hv
    decide +kernel
  have hplain : oneFormatEach.IsPlain false := ⟨rfl, by simp⟩
  obtain ⟨ca, calla, ha, hserves⟩ : ∃ c call, g.IsFresh 0 c call ∧ g.environment.Serves call :=
    exists_isFresh rfl (by decide +kernel)
  have hrun : (g.dialogue? 0 1 false).any (fun d => d.answered.get? 0 = d.offered.get? 0 &&
      (d.answered.callIn? 1 .opened).any fun call => call.video.any fun s => s.isUsable) = true := by
    simp only [dialogue?, processOffer, processAnswer, Call.answerOffer, Call.applyAnswer,
      Call.readRemote, Sdp.Description.ofText_text_eq]
    decide +kernel
  obtain ⟨d, hd, hends⟩ := (Option.any_eq_true _ _).1 hrun
  obtain ⟨hkept, hvideo⟩ := Bool.and_eq_true_iff.1 hends
  obtain ⟨hoffer, hanswer, -⟩ := dialogue?_eq_some hd
  have hoffered : (make oneFormatEach .isolated).run [.create .rtp, .create .rtp, .bind 0, .bind 1,
      .generateOffer 0 false] = d.offered := congrArg Prod.snd hoffer
  obtain ⟨cb, callb, hb, hserves'⟩ : ∃ c call,
      ((make oneFormatEach .isolated).run [.create .rtp, .create .rtp, .bind 0, .bind 1,
        .generateOffer 0 false]).IsFresh 1 c call ∧ _ :=
    exists_isFresh rfl (by decide +kernel)
  obtain ⟨g₃, calla', callb', hprocess, hopen, hopen', hagrees⟩ := exchange_agrees oneFormatEach
    oneFormatEach .isolated .isolated _ _ ha hb hplain hplain hformats hserves hserves' hoffer
    (hoffered.symm ▸ hanswer) (of_decide_eq_true hkept)
  have husable : callb'.video.any (fun s => s.isUsable) = true := by
    obtain ⟨callb₁, hcallb₁, husable⟩ := (Option.any_eq_true _ _).1 hvideo
    obtain ⟨c₁, hc₁, hcall₁, -, -⟩ := callIn?_eq_some hcallb₁
    obtain ⟨c₂, hc₂, hcall₂, -⟩ := hopen'
    obtain rfl : c₁ = c₂ := Option.some.inj (hc₁.symm.trans hc₂)
    obtain rfl : callb₁ = callb' := Option.some.inj (hcall₁.symm.trans hcall₂)
    exact husable
  obtain ⟨s, hs, husable⟩ := (Option.any_eq_true _ _).1 husable
  exact ⟨d.offer, d.answer, d.offered, d.answered, g₃, calla', callb', hoffer, hanswer, hprocess,
    hopen, hopen', hagrees, s, hs, husable⟩

/-- A gateway with a certificate over two lines, of which the second one reads as a section about
video. -/
def twoLines : GatewayConfig where
  audio := ⟨[.make 0 "PCMU" 8000, .make 96 "X" 90000]⟩
  video := some ⟨[.make 96 "X" 90000]⟩
  fingerprint := some ⟨"sha-256", "AB\nm=video 9 RTP/AVP 96"⟩

/-- Such a certificate brings the two sides apart: the one closes its video, and the other one uses
it. -/
theorem exchange_disagrees_over_two_lines :
    let g := (make twoLines .isolated).run [.create .rtp, .create .rtp, .bind 0, .bind 1]
    twoLines.externalAddress = none ∧ twoLines.HasWritableFormats ∧
      (∃ c call, g.IsFresh 0 c call ∧ g.environment.Serves call) ∧
      (∃ c call, g.IsFresh 1 c call ∧ g.environment.Serves call) ∧
      ∃ offer answer g₁ g₂ g₃ calla callb, g.generateOffer 0 true = (.ok offer, g₁) ∧
        g₁.processOffer 1 offer.text = (.ok answer, g₂) ∧
        g₂.processAnswer 0 answer.text = (.ok (), g₃) ∧ g₃.HasOpened 0 calla ∧
        g₃.HasOpened 1 callb ∧ ¬calla.AgreesWith true callb := by
  intro g
  have he : g.environment = .isolated := rfl
  have haudio : twoLines.audio.IsWritable := by decide +kernel
  have hvideo : ∀ formats ∈ twoLines.video, formats.IsWritable := by
    rintro formats hv
    obtain rfl := Option.some.inj hv
    decide +kernel
  have hrun : (g.dialogue? 0 1 true).any (fun d =>
      (d.concluded.callIn? 0 .opened).any (fun call => call.video.any fun s => !s.isOpen) &&
        (d.concluded.callIn? 1 .opened).any fun call => call.video.any fun s => s.isUsable) =
      true := by
    simp only [dialogue?, processOffer, processAnswer, Call.answerOffer, Call.applyAnswer,
      Call.readRemote, Sdp.Description.ofText_text_eq]
    decide +kernel
  obtain ⟨d, hd, hcalls⟩ := (Option.any_eq_true _ _).1 hrun
  obtain ⟨hoffer, hanswer, hconclusion⟩ := dialogue?_eq_some hd
  simp only [Bool.and_eq_true, Option.any_eq_true] at hcalls
  obtain ⟨⟨calla, ha, s, hs, hclosed⟩, callb, hb, t, ht, husable⟩ := hcalls
  obtain ⟨ca, hgeta, hcalla, hstatea, -⟩ := callIn?_eq_some ha
  obtain ⟨cb, hgetb, hcallb, hstateb, -⟩ := callIn?_eq_some hb
  have hdisagree : ¬calla.AgreesWith true callb := by
    intro h
    rcases h.video with ⟨s', t', hs', -, hagrees⟩ | ⟨-, hclosedb⟩
    · obtain rfl := Option.some.inj (hs.symm.trans hs')
      have hopen := hagrees.usable
      simp_all [MediaSession.isUsable]
    · have hopen := hclosedb t ht
      simp_all [MediaSession.isUsable]
  refine ⟨rfl, ⟨haudio, hvideo⟩, exists_isFresh he (by decide +kernel),
    exists_isFresh he (by decide +kernel), d.offer, d.answer, d.offered, d.answered, d.concluded,
    calla, callb, hoffer, hanswer, hconclusion, ?_, ?_, hdisagree⟩
  · exact ⟨ca, hgeta, hcalla, hstatea⟩
  · exact ⟨cb, hgetb, hcallb, hstateb⟩

end Gateway

end MediaGateway
