import MediaGateway.Proofs.Gateway.Announcement
import MediaGateway.Proofs.Gateway.CallInvariant
import MediaGateway.Proofs.Result

/-!
# Offers and answers are all or nothing

A step of an exchange either does all that it is there for or takes the connection back to `NULL`,
however far it had come. In a state in which it is not allowed it changes nothing.
-/

namespace MediaGateway

namespace Gateway

variable {g : Gateway} {handle : Nat} {c : Connection}

/-- The call of a connection at a place that is in a state, if nobody listens to it. -/
def callIn? (g : Gateway) (handle : Nat) (state : ConnectionState) : Option Call :=
  ((g.get? handle).filter fun c => c.life.state = state ∧ c.listeners = []).bind Connection.call?

theorem callIn?_eq_some {call : Call} {state : ConnectionState}
    (h : g.callIn? handle state = some call) :
    ∃ c, g.get? handle = some c ∧ c.call? = some call ∧ c.life.state = state ∧ c.IsQuiet := by
  obtain ⟨c, hc, hcall⟩ := Option.bind_eq_some_iff.1 h
  obtain ⟨hget, hstate⟩ := Option.filter_eq_some_iff.1 hc
  obtain ⟨hstate, hnobody⟩ := of_decide_eq_true hstate
  exact ⟨c, hget, hcall, hstate, by simp [Connection.IsQuiet, hnobody]⟩

/-! ## The two ways in which a step ends -/

/-- The connection is open: audio is agreed with the other side, whose description is the text. -/
def IsConnected (g : Gateway) (handle : Nat) (text : String) : Prop :=
  ∃ c call d, g.get? handle = some c ∧ c.call? = some call ∧ c.life.state = .opened ∧
    call.audio.IsAgreed ∧ Sdp.Description.ofText text = .ok d ∧
    call.exchange.remoteDescription = some d

/-- The connection waits for the answer to an offer, with all its sessions open. -/
def IsOffering (g : Gateway) (handle : Nat) (offer : Sdp.Description) : Prop :=
  ∃ c call, g.get? handle = some c ∧ c.call? = some call ∧ c.life.state = .halfOpen ∧
    (∀ s ∈ call.sessions, s.isOpen = true) ∧ call.exchange.outbound = true ∧
    call.exchange.localDescription = some offer

/-- The connection `c` of `g` has failed with an error. -/
structure HasFailed (g : Gateway) (handle : Nat) (c : Connection) (e : ConnectionError)
    (g' : Gateway) : Prop where
  /-- It is idle, its sessions are closed and blank, and nobody owns it or is told if it fails. -/
  connection : ∃ c' call', g'.get? handle = some c' ∧ c'.call? = some call' ∧
    c'.life.state = .null ∧ c'.life.mode = .inactive ∧ c'.endpoint = none ∧
    c'.failureListener = none ∧ ∀ s ∈ call'.sessions, s.IsBlank ∧ s.mode = .inactive
  /-- The listeners were told about the transition, its endpoint about the mode and the end, and the
  failure listener about the failure, each once. -/
  log : g'.log = g.log ++ (c.listeners.map fun l => .transition l.name c.id c.life.state .null) ++
    ((g.endpointOf? c).map fun e =>
      (if c.life.mode = .inactive then [] else [.modeUpdated e.name c.life.mode .inactive]) ++
        [.released e.name c.id .rtp]).getD [] ++
    (c.failureListener.map fun l => .failed l.name).toList
  /-- It was counted, -/
  failures : g'.metrics.failures = g.metrics.failures + 1
  /-- and counted again if there was no agreement. -/
  negotiationFailures : g'.metrics.negotiationFailures =
    g.metrics.negotiationFailures + if e.isNegotiation then 1 else 0

/-- A step of an exchange comes to the end that it is there for, or the connection has failed. -/
def Settles {α : Type} (g : Gateway) (handle : Nat) (c : Connection) (done : α → Gateway → Prop) :
    Except ConnectionError α × Gateway → Prop
  | (.ok a, g') => done a g'
  | (.error e, g') => g.HasFailed handle c e g'

section Settles

variable {α : Type} {done : α → Gateway → Prop} {r : Except ConnectionError α × Gateway}

theorem Settles.of_isSome (h : g.Settles handle c done r) (hr : r.1.toOption.isSome = true) :
    ∃ a g', r = (.ok a, g') ∧ done a g' := by
  obtain ⟨e | a, g'⟩ := r
  · cases hr
  · exact ⟨a, g', rfl, h⟩

theorem Settles.of_isNone (h : g.Settles handle c done r) (hr : r.1.toOption.isNone = true) :
    ∃ e g', r = (.error e, g') ∧ g.HasFailed handle c e g' := by
  obtain ⟨e | a, g'⟩ := r
  · exact ⟨e, g', rfl, h⟩
  · cases hr

end Settles

/-! ## Failing -/

/-- What failing does to a connection with a call and quiet listeners. -/
theorem failConnection_eq {call : Call} (hc : g.get? handle = some c) (hl : c.leg = .call call)
    (hb : c.life.state.isBound = true) (hq : c.IsQuiet) :
    g.failConnection handle =
      noteAll { g.endCall handle with
        metrics := { (g.endCall handle).metrics with
          failures := (g.endCall handle).metrics.failures + 1 } }
        ((g.endOfCall handle c true).events c.listeners) := by
  obtain ⟨life, -, -, hget⟩ := get?_endCall hc hl
  simp only [failConnection, startFail, hc, if_pos hb, conclude, teardown_eq hl]
  have htell (metrics : Metrics) := announceAll_eq (g := { g.endCall handle with metrics })
    (g.endOfCall handle c true) hget hq
  exact htell _

theorem events_endOfCall (g : Gateway) (handle : Nat) (c : Connection) (listeners : List Listener) :
    (g.endOfCall handle c true).events listeners =
      (listeners.map fun l => .transition l.name c.id c.life.state .null) ++
      ((g.endpointOf? c).map fun e =>
        (if c.life.mode = .inactive then [] else [.modeUpdated e.name c.life.mode .inactive]) ++
          [.released e.name c.id .rtp]).getD [] ++
      (c.failureListener.map fun l => .failed l.name).toList := by
  simp only [Announcement.events, endOfCall]
  cases g.endpointOf? c with
  | none => simp
  | some e =>
    by_cases hm : c.life.mode = .inactive <;> simp [hm]

theorem countNegotiation_eq (g : Gateway) (e : SessionError) :
    g.countNegotiation e = { g with metrics := { g.metrics with
      negotiationFailures := g.metrics.negotiationFailures + if e.isNegotiation then 1 else 0 } } := by
  simp only [countNegotiation]
  split <;> simp

section FailedStep

variable {operation : Operation} {call call' : Call} {generation : Nat} {ports : PortRange}

/-- A connection whose step went wrong is idle, with its call closed. -/
theorem get?_failStep (hb : g.beginCall handle operation = .ok (c, call, generation))
    (hq : c.IsQuiet) (call' : Call) (ports : PortRange) (e : SessionError) :
    ∃ life, life.state = .null ∧ life.mode = .inactive ∧
      ((g.putCall handle call' ports).failStep handle e).2.get? handle = some { c with
        leg := .call call'.close
        life := life
        endpoint := none
        failureListener := none } := by
  obtain ⟨-, -, hstate, -⟩ := beginCall_ok hb
  have hget := (get?_countNegotiation (g.putCall handle call' ports) e handle).trans
    (get?_putCall hb call' ports)
  obtain ⟨life, hlife, hmode, hend⟩ := get?_endCall hget rfl
  have hfail := failConnection_eq hget rfl (by simp [hstate, ConnectionState.isBound]) hq
  refine ⟨life, hlife, hmode, ?_⟩
  rw [failStep_eq]
  simp only
  rw [hfail]
  exact hend

/-- A step that goes wrong fails the connection, whatever has become of the call until then. -/
theorem hasFailed_failStep (hb : g.beginCall handle operation = .ok (c, call, generation))
    (hq : c.IsQuiet) (e : SessionError) :
    g.HasFailed handle c (.session e) ((g.putCall handle call' ports).failStep handle e).2 := by
  obtain ⟨-, -, hstate, -⟩ := beginCall_ok hb
  obtain ⟨life, hlife, hmode, hend⟩ := get?_failStep hb hq call' ports e
  have hget := (get?_countNegotiation (g.putCall handle call' ports) e handle).trans
    (get?_putCall hb call' ports)
  have hfail := failConnection_eq hget rfl (by simp [hstate, ConnectionState.isBound]) hq
  obtain ⟨connections, scheduler, openConnections, heq⟩ :=
    endCall_eq ((g.putCall handle call' ports).countNegotiation e) handle
  constructor
  · refine ⟨_, call'.close, hend, rfl, hlife, hmode, rfl, rfl, fun s hs => ?_⟩
    obtain ⟨t, -, rfl⟩ := Call.mem_sessions_mapSessions.1 hs
    exact ⟨t.isBlank_close, rfl⟩
  all_goals
    rw [failStep_eq]
    simp only
    rw [hfail, heq, countNegotiation_eq]
  · rw [events_endOfCall]
    simp only [noteAll, List.append_assoc]
    rfl
  · rfl
  · rfl

end FailedStep

/-! ## Opening -/

/-- A connection whose exchange succeeded opens. -/
theorem openConnection_putCall {operation : Operation} {call : Call} {generation : Nat}
    (hb : g.beginCall handle operation = .ok (c, call, generation)) (hq : c.IsQuiet)
    (call' : Call) (ports : PortRange) :
    ∃ g', (g.putCall handle call' ports).openConnection handle (some generation) = (.ok (), g') ∧
      ∃ c', g'.get? handle = some c' ∧ c'.call? = some call' ∧ c'.life.state = .opened := by
  have hlife (l : Lifecycle) (t : Timeouts) (r : UInt32) :
      (l.enter t r .opened).1.state = .opened := by
    simp only [Lifecycle.enter, Lifecycle.rearm]
    repeat' split
    all_goals rfl
  have hget := get?_enter (g.putCall handle call' ports) handle handle .opened
  rw [if_pos rfl, get?_putCall hb] at hget
  obtain ⟨c', hc', hcall', hstate, hq'⟩ : ∃ c',
      ((g.putCall handle call' ports).enter handle .opened).get? handle = some c' ∧
        c'.call? = some call' ∧ c'.life.state = .opened ∧ c'.IsQuiet :=
    ⟨_, hget, rfl, hlife _ _ _, hq⟩
  simp only [openConnection, startOpen_putCall hb, conclude]
  refine ⟨_, rfl, c', ?_, hcall', hstate⟩
  rw [announceAll_eq _ hc' hq']
  exact hc'

/-! ## The steps -/

theorem beginCall_of_halfOpen {call : Call} (hc : g.get? handle = some c)
    (hcall : c.call? = some call) (hstate : c.life.state = .halfOpen) (operation : Operation) :
    g.beginCall handle operation = .ok (c, call, c.life.generation) := by
  simp [beginCall, hc, hcall, Connection.beginNegotiation, hstate, ConnectionState.on]

/-- Where an exchange may not begin, there is a reason. -/
theorem beginCall_of_not_halfOpen (hc : g.get? handle = some c)
    (hstate : c.life.state ≠ .halfOpen) :
    ∃ reason, ∀ operation, g.beginCall handle operation =
      .error (.illegalState operation c.life.state reason) := by
  cases hs : c.life.state with
  | null =>
    exact ⟨.notBound, fun o => by
      simp [beginCall, hc, Connection.beginNegotiation, hs, ConnectionState.on]⟩
  | halfOpen => exact absurd hs hstate
  | opened =>
    exact ⟨.alreadyOpen, fun o => by
      simp [beginCall, hc, Connection.beginNegotiation, hs, ConnectionState.on]⟩

section Answering

variable {call call' : Call} {ports : PortRange} {text : String} {answer : Sdp.Description}
  (hc : g.get? handle = some c) (hcall : c.call? = some call)
  (hstate : c.life.state = .halfOpen) (hq : c.IsQuiet)

include hc hcall hstate hq

/-- A connection whose call answers an offer is open. -/
theorem processOffer_of_ok
    (ha : call.answerOffer (g.surroundings handle) g.ports text = (.ok answer, call', ports)) :
    ∃ g', g.processOffer handle text = (.ok answer, g') ∧ ∃ c', g'.get? handle = some c' ∧
      c'.call? = some call' ∧ c'.life.state = .opened := by
  have hb := beginCall_of_halfOpen hc hcall hstate .processOffer
  obtain ⟨g', ho, hopened⟩ := openConnection_putCall hb hq call' ports
  refine ⟨g', ?_, hopened⟩
  simp only [processOffer, hb, ha, ho, Except.map]

/-- A connection whose call fails to answer an offer is idle, and the call is closed. -/
theorem processOffer_of_error {e : SessionError}
    (ha : call.answerOffer (g.surroundings handle) g.ports text = (.error e, call', ports)) :
    ∃ g', g.processOffer handle text = (.error (.session e), g') ∧ ∃ c', g'.get? handle = some c' ∧
      c'.call? = some call'.close ∧ c'.life.state = .null := by
  have hb := beginCall_of_halfOpen hc hcall hstate .processOffer
  obtain ⟨life, hlife, -, hget⟩ := get?_failStep hb hq call' ports e
  refine ⟨_, ?_, _, hget, rfl, hlife⟩
  simp only [processOffer, hb, ha, failStep_eq]

/-- An answer is that of the call. -/
theorem exists_answerOffer_of_ok (h : (g.processOffer handle text).1 = .ok answer) :
    ∃ call' ports g', call.answerOffer (g.surroundings handle) g.ports text =
      (.ok answer, call', ports) ∧ g.processOffer handle text = (.ok answer, g') ∧
      ∃ c', g'.get? handle = some c' ∧ c'.call? = some call' ∧ c'.life.state = .opened := by
  rcases ha : call.answerOffer (g.surroundings handle) g.ports text with ⟨e | answer', call', ports⟩
  · obtain ⟨g', hp, -⟩ := processOffer_of_error hc hcall hstate hq ha
    simp [hp] at h
  · obtain ⟨g', hp, hopened⟩ := processOffer_of_ok hc hcall hstate hq ha
    obtain rfl : answer' = answer := by simpa [hp] using h
    exact ⟨call', ports, g', rfl, hp, hopened⟩

end Answering

section Steps

variable {call : Call} (hc : g.get? handle = some c) (hcall : c.call? = some call)
  (hstate : c.life.state = .halfOpen) (hq : c.IsQuiet) (hseated : call.setup.IsSeated)

include hc hcall hstate hq hseated

theorem settles_processOffer (text : String) :
    g.Settles handle c (fun _ g' => g'.IsConnected handle text) (g.processOffer handle text) := by
  rcases ha : call.answerOffer (g.surroundings handle) g.ports text with ⟨e | answer, call', ports⟩
  · have hb := beginCall_of_halfOpen hc hcall hstate .processOffer
    simp only [processOffer, hb, ha]
    exact hasFailed_failStep hb hq e
  · obtain ⟨hagreed, d, hd, hremote⟩ := Call.answerOffer_ok hseated ha
    obtain ⟨g', hp, c', hc', hcall', hstate'⟩ := processOffer_of_ok hc hcall hstate hq ha
    rw [hp]
    exact ⟨c', call', d, hc', hcall', hstate', hagreed, hd, hremote⟩

theorem settles_processAnswer (hout : call.exchange.outbound = true) (text : String) :
    g.Settles handle c (fun _ g' => g'.IsConnected handle text) (g.processAnswer handle text) := by
  have hb := beginCall_of_halfOpen hc hcall hstate .processAnswer
  simp only [processAnswer, hb, hout]
  rcases ha : call.applyAnswer (g.surroundings handle) text with ⟨e | u, call'⟩
  · exact hasFailed_failStep hb hq e
  · obtain ⟨hagreed, d, hd, hremote⟩ := Call.applyAnswer_ok hseated ha
    obtain ⟨g', ho, c', hc', hcall', hstate'⟩ :=
      openConnection_putCall hb hq call' g.ports
    simp only [Bool.not_true, Bool.false_eq_true, if_false, ho]
    exact ⟨c', call', d, hc', hcall', hstate', hagreed, hd, hremote⟩

omit hq hseated in
/-- Without an own offer there is no answer to take. -/
theorem processAnswer_of_not_outbound (hout : call.exchange.outbound = false) (text : String) :
    g.processAnswer handle text =
      (.error (.illegalState .processAnswer .halfOpen .noLocalOffer), g) := by
  have hb := beginCall_of_halfOpen hc hcall hstate .processAnswer
  simp [processAnswer, hb, hout, hstate]

/-- An offer that was made before is made again, and its sessions are still open. -/
theorem settles_generateOffer (browser : Bool)
    (hoffering : call.exchange.outbound = true →
      call.exchange.localDescription.isSome = true ∧ ∀ s ∈ call.sessions, s.isOpen = true) :
    g.Settles handle c (fun offer g' => g'.IsOffering handle offer)
      (g.generateOffer handle browser) := by
  have hb := beginCall_of_halfOpen hc hcall hstate .generateOffer
  simp only [generateOffer, hb]
  cases hcached : call.exchange.localDescription.filter fun _ => call.exchange.outbound with
  | some offer =>
    obtain ⟨hlocal, hout⟩ := Option.filter_eq_some_iff.1 hcached
    exact ⟨c, call, hc, hcall, hstate, (hoffering hout).2, hout, hlocal⟩
  | none =>
    simp only
    rcases hm : call.makeOffer (g.surroundings handle) g.ports browser with
      ⟨e | offer, call', ports⟩
    · exact hasFailed_failStep hb hq e
    · obtain ⟨hopen, hout, hlocal⟩ := Call.makeOffer_ok hseated hm
      exact ⟨_, call', get?_putCall hb _ _, rfl, hstate, hopen, hout, hlocal⟩

end Steps

/-- Steps of an exchange are all or nothing, whatever was done to the gateway before. A connection
that waits for the other side is open with it after the step, or has made an offer, or has failed.
In any other state, and if there is no own offer that could be answered, the step is refused and
changes nothing. -/
theorem exchange_all_or_nothing (config : GatewayConfig) (environment : Environment)
    (actions : List Action) {call : Call}
    (hc : ((make config environment).run actions).get? handle = some c)
    (hcall : c.call? = some call) (hq : c.IsQuiet) (text : String) (browser : Bool) :
    let g := (make config environment).run actions
    (c.life.state = .halfOpen →
      g.Settles handle c (fun _ g' => g'.IsConnected handle text) (g.processOffer handle text) ∧
      (call.exchange.outbound = true →
        g.Settles handle c (fun _ g' => g'.IsConnected handle text)
          (g.processAnswer handle text)) ∧
      (call.exchange.outbound = false →
        g.processAnswer handle text =
          (.error (.illegalState .processAnswer .halfOpen .noLocalOffer), g)) ∧
      g.Settles handle c (fun offer g' => g'.IsOffering handle offer)
        (g.generateOffer handle browser)) ∧
    (c.life.state ≠ .halfOpen → ∃ reason,
      g.processOffer handle text =
        (.error (.illegalState .processOffer c.life.state reason), g) ∧
      g.processAnswer handle text =
        (.error (.illegalState .processAnswer c.life.state reason), g) ∧
      g.generateOffer handle browser =
        (.error (.illegalState .generateOffer c.life.state reason), g)) := by
  intro g
  have hsound : CallView.Sound config ⟨c.life.state, c.life.mode, call⟩ := by
    have h := callsSound_run config environment actions handle ⟨c.life.state, c.life.mode, call⟩
      (by simp [view?, hc, Connection.view?, hcall])
    rwa [config_run] at h
  have hseated := hsound.isSeated
  refine ⟨fun hstate => ⟨?_, fun hout => ?_, fun hout => ?_, ?_⟩, fun hstate => ?_⟩
  · exact settles_processOffer hc hcall hstate hq hseated text
  · exact settles_processAnswer hc hcall hstate hq hseated hout text
  · exact processAnswer_of_not_outbound hc hcall hstate hout text
  · exact settles_generateOffer hc hcall hstate hq hseated browser (hsound.offering hstate)
  · obtain ⟨reason, hb⟩ := beginCall_of_not_halfOpen hc hstate
    refine ⟨reason, ?_, ?_, ?_⟩
    · simp only [processOffer, g, hb]
    · simp only [processAnswer, g, hb]
    · simp only [generateOffer, g, hb]

/-- A gateway with one format for audio and one for video. -/
def oneFormatEach : GatewayConfig where
  audio := ⟨[.make 8 "x" 8000]⟩
  video := some ⟨[.make 96 "y" 90000]⟩

/-- An offer of audio. -/
def audioOffer : Sdp.Description where
  origin := .make "1" "192.0.2.1"
  sessionName := "-"
  connection := some (.make "192.0.2.1")
  media := [
    { media := "audio", port := 4000, protocol := "RTP/AVP", formats := ["8"]
      rtpmaps := [.make 8 "x" 8000] }]

/-- A connection that was just bound fails over a text that is no offer, is open after an offer, and
waits after it made one. -/
theorem exchange_all_or_nothing_bound :
    let g := (make oneFormatEach .isolated).run [.create .rtp, .bind 0]
    ∃ c call, g.get? 0 = some c ∧ c.call? = some call ∧ c.IsQuiet ∧ c.life.state = .halfOpen ∧
      (∃ e g', g.processOffer 0 "no offer" = (.error e, g') ∧ g.HasFailed 0 c e g') ∧
      (∃ answer g', g.processOffer 0 audioOffer.text = (.ok answer, g') ∧
        g'.IsConnected 0 audioOffer.text) ∧
      ∃ offer g', g.generateOffer 0 false = (.ok offer, g') ∧ g'.IsOffering 0 offer := by
  intro g
  obtain ⟨c, call, hc, hcall, hl, hs⟩ : ∃ c call, g.get? 0 = some c ∧ c.call? = some call ∧
      c.listeners = [] ∧ c.life.state = .halfOpen := ⟨_, _, rfl, rfl, rfl, rfl⟩
  have hq : c.IsQuiet := by simp [Connection.IsQuiet, hl]
  have hnone : (g.processOffer 0 "no offer").1.toOption.isNone = true := by decide +kernel
  have hsome : (g.processOffer 0 audioOffer.text).1.toOption.isSome = true := by
    simp only [processOffer, Call.answerOffer, Call.readRemote, Sdp.Description.ofText_text_eq]
    decide +kernel
  have hmade : (g.generateOffer 0 false).1.toOption.isSome = true := by decide +kernel
  have hends (text : String) := (exchange_all_or_nothing oneFormatEach .isolated
    [.create .rtp, .bind 0] hc hcall hq text false).1 hs
  have hfailed (text : String) (h : (g.processOffer 0 text).1.toOption.isNone = true) :
      ∃ e g', g.processOffer 0 text = (.error e, g') ∧ g.HasFailed 0 c e g' :=
    (hends text).1.of_isNone h
  have hopened (text : String) (h : (g.processOffer 0 text).1.toOption.isSome = true) :
      ∃ answer g', g.processOffer 0 text = (.ok answer, g') ∧ g'.IsConnected 0 text :=
    (hends text).1.of_isSome h
  exact ⟨c, call, hc, hcall, hq, hs, hfailed "no offer" hnone, hopened audioOffer.text hsome,
    (hends "").2.2.2.of_isSome hmade⟩

end Gateway

end MediaGateway
