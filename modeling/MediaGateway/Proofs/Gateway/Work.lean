import MediaGateway.Proofs.Connection.Sessions
import MediaGateway.Proofs.Gateway.CallView

/-!
# Work within connections

When a gateway works, no connection comes, goes or begins to wait, and nobody begins to watch one or
sets where its frames go. It only takes the endpoint and the failure listener off a connection that
comes to its end. What it does outside of connections is to hand frames to the sink of the call that
they belong to; apart from that, all that is announced and polled is done within connections.
-/

namespace MediaGateway

/-- The type of a connection with a leg that a gateway built. -/
def Leg.builtType? : Leg → Option ConnectionType
  | call _ => some .rtp
  | link _ => some .internal
  | foreign _ => none

namespace Connection

/-- The type of a connection that a gateway built. -/
def builtType? (c : Connection) : Option ConnectionType := c.leg.builtType?

theorem builtType?_eq_some {c : Connection} {type : ConnectionType} :
    c.builtType? = some type ↔ c.isForeign = false ∧ c.type = type := by
  cases hl : c.leg <;> simp [builtType?, Leg.builtType?, isForeign, Connection.type, Leg.type, hl]

/-- Where the frames of the call behind a connection go. -/
def sink? (c : Connection) : Option Nat := c.call?.bind Call.sink

theorem call?_eq_some {c : Connection} {call : Call} : c.call? = some call ↔ c.leg = .call call := by
  cases hl : c.leg <;> simp [call?, hl]

theorem exists_call? {c : Connection} (h : c.builtType? = some .rtp) : ∃ call, c.call? = some call := by
  cases hl : c.leg with
  | call call => exact ⟨call, call?_eq_some.2 hl⟩
  | link _ | foreign _ => simp [builtType?, Leg.builtType?, hl] at h

/-- It is the same connection, with media of the same type. -/
structure SameKind (c c' : Connection) : Prop where
  id : c'.id = c.id
  type : c'.builtType? = c.builtType?

/-- What work makes of a connection. -/
structure Worked (c c' : Connection) : Prop extends SameKind c c' where
  listeners : c'.listeners = c.listeners
  failureListener : c'.failureListener = none ∨ c'.failureListener = c.failureListener
  endpoint : c'.endpoint = none ∨ c'.endpoint = c.endpoint
  sink : c'.sink? = c.sink?

theorem SameKind.of_leg {c c' : Connection} (hid : c'.id = c.id) (hleg : c'.leg = c.leg) :
    SameKind c c' :=
  ⟨hid, congrArg Leg.builtType? hleg⟩

theorem Worked.of_leg {c c' : Connection} (hid : c'.id = c.id) (hleg : c'.leg = c.leg)
    (hlisteners : c'.listeners = c.listeners)
    (hfailure : c'.failureListener = none ∨ c'.failureListener = c.failureListener)
    (hendpoint : c'.endpoint = none ∨ c'.endpoint = c.endpoint) : Worked c c' where
  toSameKind := .of_leg hid hleg
  listeners := hlisteners
  failureListener := hfailure
  endpoint := hendpoint
  sink := by rw [sink?, call?, hleg]; rfl

instance : Std.Refl SameKind := ⟨fun _ => ⟨rfl, rfl⟩⟩

instance : IsTrans Connection SameKind :=
  ⟨fun _ _ _ h h' => ⟨h'.id.trans h.id, h'.type.trans h.type⟩⟩

instance : Std.Refl Worked := ⟨fun _ => .of_leg rfl rfl rfl (.inr rfl) (.inr rfl)⟩

instance : IsTrans Connection Worked where
  trans c c' c'' h h' := by
    refine ⟨IsTrans.trans c c' c'' h.toSameKind h'.toSameKind, h'.listeners.trans h.listeners, ?_, ?_,
      h'.sink.trans h.sink⟩
    · rcases h'.failureListener with hnone | hsame
      · exact .inl hnone
      · rw [hsame]
        exact h.failureListener
    · rcases h'.endpoint with hnone | hsame
      · exact .inl hnone
      · rw [hsame]
        exact h.endpoint

theorem Worked.life (c : Connection) (life : Lifecycle) : c.Worked { c with life } :=
  .of_leg rfl rfl rfl (.inr rfl) (.inr rfl)

theorem Worked.call {c : Connection} {call call' : Call} (hl : c.leg = .call call)
    (hs : call'.sink = call.sink) : c.Worked { c with leg := .call call' } where
  id := rfl
  type := by simp [builtType?, Leg.builtType?, hl]
  listeners := rfl
  failureListener := .inr rfl
  endpoint := .inr rfl
  sink := by simp [sink?, call?, hl, hs]

theorem Worked.link {c : Connection} {link : Link} (hl : c.leg = .link link) (link' : Link) :
    c.Worked { c with leg := .link link' } where
  id := rfl
  type := by simp [builtType?, Leg.builtType?, hl]
  listeners := rfl
  failureListener := .inr rfl
  endpoint := .inr rfl
  sink := by simp [sink?, call?, hl]

end Connection

/-- What of a gateway is not within its connections, as far as operations on connections leave it
alone. -/
structure Ground where
  config : GatewayConfig
  environment : Environment
  references : List (Option Nat)
  rtpPool : List Nat
  internalPool : List Nat
  endpoints : List Endpoint
  sinks : List Sink

namespace Gateway

variable {R : Connection → Connection → Prop} {g g' g'' : Gateway} {handle : Nat}

/-- The ground of a gateway. -/
def ground (g : Gateway) : Ground :=
  ⟨g.config, g.environment, g.references, g.rtpPool, g.internalPool, g.endpoints, g.sinks⟩

/-- Something was done within connections, and what has become of each is in `R`. -/
structure Within (R : Connection → Connection → Prop) (g g' : Gateway) : Prop where
  connections : ∀ k, Option.Rel R (g.get? k) (g'.get? k)
  places : g'.connections.length = g.connections.length
  ground : g'.ground = g.ground

namespace Within

theorem exists_of_get? (h : Within R g g') {k : Nat} {c' : Connection} (hc : g'.get? k = some c') :
    ∃ c, g.get? k = some c ∧ R c c' := by
  have hrel := h.connections k
  rw [hc] at hrel
  generalize g.get? k = c? at hrel
  cases hrel with
  | some hr => exact ⟨_, rfl, hr⟩

theorem mono {R' : Connection → Connection → Prop} (h : Within R g g')
    (hR : ∀ c c', R c c' → R' c c') : Within R' g g' where
  connections := by
    intro k
    have hrel := h.connections k
    generalize g.get? k = c? at hrel ⊢
    generalize g'.get? k = c'? at hrel ⊢
    cases hrel with
    | none => exact .none
    | some hr => exact .some (hR _ _ hr)
  places := h.places
  ground := h.ground

section Refl

variable [Std.Refl R]

theorem rel_refl (c? : Option Connection) : Option.Rel R c? c? := by
  cases c? with
  | none => exact .none
  | some c => exact .some (Std.Refl.refl c)

theorem of_connections (h : g'.connections = g.connections) (hground : g'.ground = g.ground) :
    Within R g g' where
  connections := fun k => by
    rw [get?, get?, h]
    exact rel_refl _
  places := congrArg List.length h
  ground := hground

theorem refl (g : Gateway) : Within R g g := .of_connections rfl rfl

theorem modify {u : Connection → Connection} (hu : ∀ c, g.get? handle = some c → R c (u c)) :
    Within R g (g.modify handle u) where
  connections := by
    intro k
    rw [get?_modify]
    by_cases hk : k = handle
    · subst hk
      rw [if_pos rfl]
      cases hc : g.get? k with
      | none => exact .none
      | some c => exact .some (hu c hc)
    · rw [if_neg hk]
      exact rel_refl _
  places := by simp [Gateway.modify]
  ground := rfl

end Refl

theorem trans [IsTrans Connection R] (h : Within R g g') (h' : Within R g' g'') :
    Within R g g'' where
  connections := by
    intro k
    have hrel := h.connections k
    have hrel' := h'.connections k
    generalize g.get? k = c? at hrel
    generalize g'.get? k = c'? at hrel hrel'
    cases hrel with
    | none => exact hrel'
    | some hr =>
      generalize g''.get? k = c''? at hrel'
      cases hrel' with
      | some hr' => exact .some (IsTrans.trans _ _ _ hr hr')
  places := h'.places.trans h.places
  ground := h'.ground.trans h.ground

end Within

/-! ## Steps of operations -/

section Steps

variable (g : Gateway) (handle : Nat)

open Connection (Worked)

theorem within_modifyCall {u : Call → Call}
    (hu : ∀ c call, g.get? handle = some c → c.call? = some call → (u call).sink = call.sink) :
    Within Worked g (g.modifyCall handle u) := by
  refine .modify fun c hc => ?_
  cases hl : c.leg with
  | call call => exact .call hl (hu c call hc (Connection.call?_eq_some.2 hl))
  | link _ | foreign _ => exact Std.Refl.refl c

theorem within_modifyLink (u : Link → Link) : Within Worked g (g.modifyLink handle u) := by
  refine .modify fun c _ => ?_
  cases hl : c.leg with
  | link link => exact .link hl _
  | call _ | foreign _ => exact Std.Refl.refl c

theorem within_put {c : Connection} (hc : g.get? handle = some c) (life : Lifecycle) :
    Within Worked g (g.put handle { c with life }) := by
  refine .modify fun c' hc' => ?_
  obtain rfl : c = c' := Option.some.inj (hc.symm.trans hc')
  exact .life c life

theorem within_enter (state : ConnectionState) : Within Worked g (g.enter handle state) := by
  simp only [enter]
  split
  · exact .refl g
  · rename_i c hc
    refine (within_put g handle hc
      (c.life.enter g.config.timeouts g.scheduler.resolution state).1).trans ?_
    unfold submitHeartbeat
    split <;> exact .of_connections rfl rfl

theorem within_unlink : Within Worked g (g.unlink handle) := by
  unfold unlink
  split
  · exact .refl g
  · exact (within_modifyLink g handle _).trans (within_modifyLink _ _ _)

theorem within_callHook (c : Connection) (call : HookCall) :
    Within Worked g (g.callHook handle c call).2 := by
  unfold callHook
  split
  · cases call with
    | opened => exact .refl g
    | _ => exact within_modifyCall g handle fun _ _ _ _ => rfl
  · cases call with
    | created => exact within_modifyLink g handle _
    | opened => exact .refl g
    | closed => exact (within_unlink g handle).trans (within_modifyLink _ handle _)
    | failed => exact (within_unlink g handle).trans (within_modifyLink _ handle _)
    | applyMode mode =>
      show Within Worked g (if mode.receives then g else g.modifyLink handle Link.clear)
      split
      · exact .refl g
      · exact within_modifyLink g handle _
  · exact .of_connections rfl rfl

theorem within_afterHook {h : Hook} {next : Gateway → Started} {r : Outcome × Gateway}
    (hr : Within Worked g r.2) (hnext : ∀ g', Within Worked g' (next g').2) :
    Within Worked g (afterHook h next r).2 := by
  obtain ⟨_ | _ | _, g'⟩ := r
  · exact hr.trans (hnext g')
  · exact hr
  · exact hr

theorem within_teardown (c : Connection) (failed : Bool) :
    Within Worked g (g.teardown handle c failed).2 := by
  have hhook := within_callHook g handle c (if failed then .failed else .closed)
  have hmode (g : Gateway) : Within Worked g (g.modify handle fun c =>
      { c with life := { c.life with mode := .inactive } }) := .modify fun c _ => .life c _
  have hrelease (g : Gateway) : Within Worked g (g.modify handle fun c =>
      { c with endpoint := none, failureListener := none }) :=
    .modify fun _ _ => .of_leg rfl rfl rfl (.inl rfl) (.inl rfl)
  have hend := ((hhook.trans (hmode _)).trans (within_enter _ handle .null)).trans (hrelease _)
  cases failed <;> exact hend.trans (.of_connections rfl rfl)

theorem within_startBind : Within Worked g (g.startBind handle).2 := by
  unfold startBind
  repeat' split
  any_goals exact .refl g
  refine within_afterHook g (within_callHook g handle _ _) fun g' => ?_
  have hgeneration : Within Worked g' (g'.modify handle fun c =>
      { c with life := { c.life with generation := c.life.generation + 1 } }) :=
    .modify fun c _ => .life c _
  exact hgeneration.trans (within_enter _ handle _)

theorem within_startOpen (generation : Option Nat) :
    Within Worked g (g.startOpen handle generation).2 := by
  unfold startOpen
  repeat' split
  any_goals exact .refl g
  exact within_afterHook g (within_callHook g handle _ _) fun g' => within_enter g' handle _

theorem within_startClose : Within Worked g (g.startClose handle).2 := by
  simp only [startClose]
  repeat' split
  any_goals exact .refl g
  exact within_teardown g handle _ false

theorem within_startFail : Within Worked g (g.startFail handle).2 := by
  simp only [startFail]
  repeat' split
  any_goals exact .refl g
  exact within_teardown g handle _ true

theorem within_startMode (mode : Mode) : Within Worked g (g.startMode handle mode).2 := by
  unfold startMode
  repeat' split
  any_goals exact .refl g
  exact within_afterHook g (within_callHook g handle _ _) fun g' => .modify fun c _ => .life c _

theorem within_refresh : Within Worked g (g.refresh handle) := .modify fun c _ => .life c _

/-! ## Announcements and calls -/

theorem Telling.within {g g' : Gateway} (h : Telling g g') : Within Worked g g' := by
  cases h with
  | note e => exact .of_connections rfl rfl
  | bind handle => exact within_startBind g handle
  | close handle => exact within_startClose g handle
  | fail handle => exact within_startFail g handle

theorem Tellings.within {g g' : Gateway} (h : Tellings g g') : Within Worked g g' := by
  induction h with
  | refl => exact .refl g
  | tail _ ht ih => exact ih.trans ht.within

theorem within_failConnection : Within Worked g (g.failConnection handle) :=
  (within_startFail g handle).trans (tellings_concludeAll _).within

variable {c : Connection} {call call' : Call}

/-- A call that was worked on is put back. -/
theorem within_putBack (hc : g.get? handle = some c) (hcall : c.call? = some call)
    (hs : call'.sink = call.sink) : Within Worked g (g.modifyCall handle fun _ => call') := by
  refine within_modifyCall g handle fun c₁ call₁ hc₁ hcall₁ => ?_
  obtain rfl : c = c₁ := Option.some.inj (hc.symm.trans hc₁)
  obtain rfl : call = call₁ := Option.some.inj (hcall.symm.trans hcall₁)
  exact hs

theorem within_putCall {operation : Operation} {generation : Nat}
    (hb : g.beginCall handle operation = .ok (c, call, generation)) (hs : call'.sink = call.sink)
    (ports : PortRange) : Within Worked g (g.putCall handle call' ports) := by
  obtain ⟨hc, hcall, -, -⟩ := beginCall_ok hb
  exact (within_putBack g handle hc hcall hs).trans (.of_connections rfl rfl)

theorem within_exchangeFailed {operation : Operation} {generation : Nat}
    (hb : g.beginCall handle operation = .ok (c, call, generation)) (hs : call'.sink = call.sink)
    (ports : PortRange) (e : SessionError) :
    Within Worked g (((g.putCall handle call' ports).countNegotiation e).startFail handle).2 := by
  have hcount (g : Gateway) : Within Worked g (g.countNegotiation e) := by
    unfold countNegotiation
    split
    · exact .of_connections rfl rfl
    · exact .refl g
  exact ((within_putCall g handle hb hs ports).trans (hcount _)).trans (within_startFail _ handle)

theorem within_polled {r : Except SessionError Nat} {metrics : Metrics}
    (hc : g.get? handle = some c) (hcall : c.call? = some call)
    (hp : call.poll g.metrics g.now = (r, call', metrics)) :
    Within Worked g { g.modifyCall handle fun _ => call' with metrics } := by
  have hs := call.sink_poll g.metrics g.now
  rw [hp] at hs
  exact (within_putBack g handle hc hcall hs).trans (.of_connections rfl rfl)

theorem within_pollMedia : Within Worked g (g.pollMedia handle).2 := by
  simp only [pollMedia]
  split
  · exact .refl g
  · rename_i c hc
    split
    · exact .refl g
    · rename_i call hcall
      split
      · exact .refl g
      · split
        · rename_i hp
          exact (within_polled g handle hc hcall hp).trans (within_failConnection _ handle)
        · rename_i n call' metrics hp
          have hpolled := within_polled g handle hc hcall hp
          by_cases hn : 0 < n
          · simp only [if_pos hn]
            exact hpolled.trans (within_refresh _ handle)
          · simp only [if_neg hn]
            exact hpolled

/-- The frames that a call plays go to its own sink. -/
theorem sinks_pump (hc : g.get? handle = some c) {place : Nat} (hplace : c.sink? ≠ some place) :
    (g.pump handle).2.sinks[place]? = g.sinks[place]? := by
  have hpoll := within_pollMedia g handle
  have hsame : (g.pollMedia handle).2.sinks = g.sinks := congrArg Ground.sinks hpoll.ground
  simp only [pump]
  split
  · rename_i e g₁ he
    rw [he] at hsame
    rw [← hsame]
  · rename_i n g₁ he
    rw [he] at hpoll hsame
    rw [← hsame]
    split
    · rfl
    · rename_i call hcall
      obtain ⟨c₁, hc₁, hcall₁⟩ := Option.bind_eq_some_iff.1 hcall
      obtain ⟨c₀, hc₀, hworked⟩ := hpoll.exists_of_get? hc₁
      obtain rfl : c = c₀ := Option.some.inj (hc.symm.trans hc₀)
      have hsink : c.sink? = (call.play g₁.now).2.sink := by
        rw [← hworked.sink, Connection.sink?, hcall₁]
        rfl
      rw [hsink] at hplace
      unfold fillSink
      split
      · rfl
      · rename_i place' hplace'
        have hne : place' ≠ place := fun h => hplace (h ▸ hplace')
        exact List.getElem?_modify_ne _ _ hne

end Steps

/-! ## All work -/

open Connection (Worked)

/-- The gateway worked: within connections, and frames may have been handed to sinks. -/
structure Works (g g' : Gateway) : Prop where
  within : Within Worked { g with sinks := g'.sinks } g'
  sinks : g'.sinks.length = g.sinks.length

namespace Works

theorem of_within (h : Within Worked g g') : Works g g' := by
  have hsinks : g'.sinks = g.sinks := congrArg Ground.sinks h.ground
  exact ⟨by rw [hsinks]; exact h, congrArg List.length hsinks⟩

theorem fillSink (g : Gateway) (sink : Option Nat) (frames : List (MediaType × Frame)) :
    Works g (g.fillSink sink frames) := by
  unfold Gateway.fillSink
  split
  · exact .of_within (.refl g)
  · exact ⟨.of_connections rfl rfl, List.length_modify ..⟩

theorem trans (h : Works g g') (h' : Works g' g'') : Works g g'' where
  within := by
    have hground := congrArg (fun b => { b with sinks := g''.sinks }) h.within.ground
    have hfirst : Within Worked { g with sinks := g''.sinks } { g' with sinks := g''.sinks } :=
      ⟨h.within.connections, h.within.places, hground⟩
    exact hfirst.trans h'.within
  sinks := h'.sinks.trans h.sinks

theorem refl (g : Gateway) : Works g g := .of_within (.refl g)

end Works

theorem Change.works (h : Change g g') : Works g g' := by
  cases h with
  | bind handle => exact .of_within (within_startBind g handle)
  | «open» handle generation => exact .of_within (within_startOpen g handle generation)
  | close handle => exact .of_within (within_startClose g handle)
  | fail handle => exact .of_within (within_startFail g handle)
  | setMode handle mode => exact .of_within (within_startMode g handle mode)
  | link ha hb hne hga hgb =>
    exact .of_within ((within_modifyLink g _ _).trans (within_modifyLink _ _ _))
  | unlink handle => exact .of_within (within_unlink g handle)
  | receive handle => exact .of_within (within_modifyLink g handle _)
  | @offer handle c call generation browser description call' ports hb hm =>
    have hs := call.sink_makeOffer (g.surroundings handle) g.ports browser
    rw [hm] at hs
    exact .of_within (within_putCall g handle hb hs ports)
  | @offerFailed handle c call generation browser e call' ports hb hm =>
    have hs := call.sink_makeOffer (g.surroundings handle) g.ports browser
    rw [hm] at hs
    exact .of_within (within_exchangeFailed g handle hb hs ports e)
  | @answer handle c call generation text description call' ports hb hm =>
    have hs := call.sink_answerOffer (g.surroundings handle) g.ports text
    rw [hm] at hs
    exact .of_within ((within_putCall g handle hb hs ports).trans (within_startOpen _ handle _))
  | @answerFailed handle c call generation text e call' ports hb hm =>
    have hs := call.sink_answerOffer (g.surroundings handle) g.ports text
    rw [hm] at hs
    exact .of_within (within_exchangeFailed g handle hb hs ports e)
  | @accept handle c call generation text call' hb hm =>
    have hs := call.sink_applyAnswer (g.surroundings handle) text
    rw [hm] at hs
    exact .of_within ((within_putCall g handle hb hs g.ports).trans (within_startOpen _ handle _))
  | @acceptFailed handle c call generation text e call' hb hm =>
    have hs := call.sink_applyAnswer (g.surroundings handle) text
    rw [hm] at hs
    exact .of_within (within_exchangeFailed g handle hb hs g.ports e)
  | @poll handle c call r call' metrics hc hcall hbound hp =>
    exact .of_within (within_polled g handle hc hcall hp)
  | @play handle c call hc hcall =>
    have hplay : Within Worked g (g.modifyCall handle fun _ => (call.play g.now).2) :=
      within_putBack g handle hc hcall rfl
    exact (Works.of_within hplay).trans (.fillSink _ _ _)
  | @transmit handle c call media s p r s' metrics hc hcall hs ht =>
    have hsend : Within Worked g (g.modifyCall handle fun c => c.withSession s') :=
      within_modifyCall g handle fun _ call _ _ => call.sink_withSession s'
    exact .of_within (hsend.trans (.of_connections rfl rfl))
  | arrive handle media a =>
    refine .of_within (within_modifyCall g handle fun _ call _ _ => ?_)
    split
    · exact call.sink_withSession _
    · rfl
  | note e => exact .of_within (.of_connections rfl rfl)
  | elapse millis =>
    -- Stated for every clock, so that nothing is computed about this one.
    have hwall (wall : WallClock) : Works g { g with wall } := .of_within (.of_connections rfl rfl)
    exact hwall _
  | clearLog => exact .of_within (.of_connections rfl rfl)

theorem Turn.works (h : Turn g g') : Works g g' := by
  cases h with
  | move h =>
    cases h with
    | change h => exact h.works
    | refresh handle => exact .of_within (within_refresh g handle)
    | send handle frame =>
      unfold Gateway.send
      repeat' split
      any_goals exact .refl g
      exact .of_within ((within_modifyLink g _ _).trans (within_refresh _ _))
  | beat hc hb => exact .of_within (within_put g _ hc _)
  | expire hc hb =>
    exact .of_within ((within_put g _ hc _).trans (within_teardown _ _ _ true))
  | takeTasks q => exact .of_within (.of_connections rfl rfl)
  | keepTasks q tasks => exact .of_within (.of_connections rfl rfl)

theorem Turns.works (h : Turns g g') : Works g g' := by
  induction h with
  | refl => exact .refl g
  | tail _ ht ih => exact ih.trans ht.works

end Gateway

end MediaGateway
