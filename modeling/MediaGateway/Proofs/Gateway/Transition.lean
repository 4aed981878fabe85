import MediaGateway.Proofs.Gateway.Timed

/-!
# Operations follow the transition table

Binding, opening, closing and failing a connection do what the transition table says, whatever the
hooks do: a hook may refuse that a connection is bound or opened, and then nothing has happened. No
hook keeps a connection from its end.
-/

namespace MediaGateway

/-- The hook that is called for an event. -/
def StateEvent.hookCall : StateEvent → HookCall
  | .binding => .created
  | .opening => .opened
  | .closing => .closed
  | .failing => .failed

/-- Why an event does not lead anywhere whose hook ended like this. The end of a connection cannot be
refused. -/
def StateEvent.refusal? (event : StateEvent) (f : Front) : Option ConnectionError :=
  match event with
  | .binding => (f.hookOutcome .created).refusal? .created
  | .opening => (f.hookOutcome .opened).refusal? .opened
  | .closing => none
  | .failing => none

namespace Gateway

variable {g g' : Gateway} {handle : Nat} {c : Connection}

/-- Lets an event happen to a connection. -/
def operate (g : Gateway) (handle : Nat) : StateEvent → Except ConnectionError Unit × Gateway
  | .binding => g.bindConnection handle
  | .opening => g.openConnection handle
  | .closing => g.closeConnection handle
  | .failing => (.ok (), g.failConnection handle)

/-- A connection has entered a state with its full time, and then that was announced. Quiet listeners
leave it at that. -/
def Enters (g g' : Gateway) (handle : Nat) (c : Connection) (call : HookCall)
    (state : ConnectionState) : Prop :=
  ∃ g₁ f epoch? a,
    Refronts (g.noteAll (c.front.hookEvents call)) g₁ handle f epoch? ∧
    f.life.state = state ∧ f.life.ttl = g.config.timeouts.ttl state g.scheduler.resolution ∧
    a.handle = handle ∧ a.change = some (c.life.state, state) ∧ g' = announceAll a g₁ ∧
    (c.front.IsQuiet →
      Refronts (g.noteAll (c.front.hookEvents call ++ a.events c.listeners)) g' handle f epoch?)

/-- The result of an event is the one of the transition table, unless a hook refuses. -/
def Follows (g : Gateway) (handle : Nat) (c : Connection) (event : StateEvent)
    (r : Except ConnectionError Unit × Gateway) : Prop :=
  match c.life.state.on event with
  | .illegal reason => r = (.error (.illegalState (.event event) c.life.state reason), g)
  | .ignore => r = (.ok (), g)
  | .next state =>
    match event.refusal? c.front with
    | some e => r = (.error e, g.noteAll (c.front.hookEvents event.hookCall))
    | none => r.1 = .ok () ∧ Enters g r.2 handle c event.hookCall state

/-! ## Entering a state -/

theorem Enters.of_refronts {g₁ : Gateway} {call : HookCall} {f : Front} {epoch? : Option Nat}
    {a : Announcement} {state : ConnectionState}
    (h : Refronts (g.noteAll (c.front.hookEvents call)) g₁ handle f epoch?)
    (hstate : f.life.state = state)
    (httl : f.life.ttl = g.config.timeouts.ttl state g.scheduler.resolution)
    (hlisteners : f.listeners = c.listeners) (ha : a.handle = handle)
    (hchange : a.change = some (c.life.state, state)) :
    Enters g (announceAll a g₁) handle c call state := by
  refine ⟨g₁, f, epoch?, a, h, hstate, httl, ha, hchange, rfl, fun hq => ?_⟩
  have hquiet : f.IsQuiet := by
    intro l hl
    rw [hlisteners] at hl
    exact hq l hl
  rw [h.announceAll_eq hquiet ha, hlisteners, ← noteAll_noteAll]
  exact h.noteAll _

theorem enters_teardown (hc : g.get? handle = some c) (failed : Bool) :
    Enters g (announceAll (g.teardown handle c failed).1 (g.teardown handle c failed).2) handle c
      (endHook failed) .null := by
  obtain ⟨hending, hrefronts, -⟩ := teardown_front hc failed
  rw [hending]
  refine .of_refronts hrefronts ?_ ?_ rfl rfl rfl
  · exact Lifecycle.enter_state _ _ _ _
  · exact Lifecycle.enter_ttl _ _ _ _

/-! ## Events -/

theorem operate_binding (hc : g.get? handle = some c) :
    Follows g handle c .binding (g.operate handle .binding) := by
  simp only [Follows, operate, bindConnection]
  cases hs : c.life.state with
  | null =>
    simp only [ConnectionState.on, StateEvent.refusal?]
    cases ho : (c.front.hookOutcome .created).refusal? .created with
    | some e =>
      rw [startBind_of_refusal hc hs ho]
      rfl
    | none =>
      obtain ⟨g₁, hstart, hrefronts⟩ := startBind_of_done hc hs (Outcome.refusal?_eq_none.1 ho)
      rw [hstart]
      simp only [conclude, true_and]
      refine .of_refronts hrefronts ?_ ?_ rfl rfl (by rw [hs])
      · exact Lifecycle.enter_state _ _ _ _
      · exact Lifecycle.enter_ttl _ _ _ _
  | halfOpen => simp [startBind, hc, Connection.check, hs, ConnectionState.on, conclude]
  | opened => simp [startBind, hc, Connection.check, hs, ConnectionState.on, conclude]

theorem operate_opening (hc : g.get? handle = some c) :
    Follows g handle c .opening (g.operate handle .opening) := by
  simp only [Follows, operate, openConnection]
  cases hs : c.life.state with
  | halfOpen =>
    simp only [ConnectionState.on, StateEvent.refusal?]
    cases ho : (c.front.hookOutcome .opened).refusal? .opened with
    | some e =>
      rw [startOpen_of_refusal hc rfl hs ho]
      rfl
    | none =>
      have hany : (Option.any (fun n => !c.life.isCurrent n) none) = false := rfl
      obtain ⟨g₁, hstart, hrefronts⟩ :=
        startOpen_of_done hc hany hs (Outcome.refusal?_eq_none.1 ho)
      rw [hstart]
      simp only [conclude, true_and]
      refine .of_refronts hrefronts ?_ ?_ rfl rfl (by rw [hs])
      · exact Lifecycle.enter_state _ _ _ _
      · exact Lifecycle.enter_ttl _ _ _ _
  | null => simp [startOpen, hc, Connection.check, hs, ConnectionState.on, conclude]
  | opened => simp [startOpen, hc, Connection.check, hs, ConnectionState.on, conclude]

theorem operate_closing (hc : g.get? handle = some c) :
    Follows g handle c .closing (g.operate handle .closing) := by
  have hend := enters_teardown hc false
  simp only [Follows, operate, closeConnection]
  cases hs : c.life.state with
  | null => simp [startClose, hc, Connection.check, hs, ConnectionState.on, conclude]
  | halfOpen =>
    rw [startClose_of_bound hc (by rw [hs]; rfl)]
    exact ⟨rfl, hend⟩
  | opened =>
    rw [startClose_of_bound hc (by rw [hs]; rfl)]
    exact ⟨rfl, hend⟩

theorem operate_failing (hc : g.get? handle = some c) :
    Follows g handle c .failing (g.operate handle .failing) := by
  have hend := enters_teardown hc true
  simp only [Follows, operate, failConnection]
  cases hs : c.life.state with
  | null => simp [startFail, hc, hs, ConnectionState.isBound, ConnectionState.on, conclude]
  | halfOpen =>
    rw [startFail_of_bound hc (by rw [hs]; rfl)]
    exact ⟨trivial, hend⟩
  | opened =>
    rw [startFail_of_bound hc (by rw [hs]; rfl)]
    exact ⟨trivial, hend⟩

theorem follows_operate (hc : g.get? handle = some c) (event : StateEvent) :
    Follows g handle c event (g.operate handle event) := by
  cases event with
  | binding => exact operate_binding hc
  | opening => exact operate_opening hc
  | closing => exact operate_closing hc
  | failing => exact operate_failing hc

/-- An event that is not allowed, or that a hook refuses, is noticed by the hook at most. -/
theorem Follows.of_error {event : StateEvent} {r : Except ConnectionError Unit × Gateway}
    (h : Follows g handle c event r) {e : ConnectionError} (he : r.1 = .error e) :
    r.2 = g ∨ r.2 = g.noteAll (c.front.hookEvents event.hookCall) := by
  simp only [Follows] at h
  split at h
  · rw [h]
    exact .inl rfl
  · rw [h]
    exact .inl rfl
  · split at h
    · rw [h]
      exact .inr rfl
    · rw [h.1] at he
      cases he

/-! ## Modes, refreshing and heartbeats -/

/-- Where there was no transition, listeners are told nothing. -/
theorem announceAll_of_no_change {a : Announcement} (h : a.change = none) :
    announceAll a g = g.noteAll (a.events []) := by
  have hall : announceAll a g =
      tellFailure a (tellEndpoint a (tellListeners (announce (maxDepth - 1)) a g)) := rfl
  have hlisteners : tellListeners (announce (maxDepth - 1)) a g = g := by
    simp only [tellListeners, h]
  rw [hall, hlisteners, tellEndpoint_eq, tellFailure_eq, noteAll_noteAll]
  simp only [Announcement.events, h, List.nil_append]

theorem setMode_follows (hc : g.get? handle = some c) (mode : Mode) :
    (c.life.state = .null →
      g.setMode handle mode = (.error (.illegalState .setMode .null .notBound), g)) ∧
    (c.life.state ≠ .null → c.life.mode = mode → g.setMode handle mode = (.ok (), g)) ∧
    (c.life.state ≠ .null → c.life.mode ≠ mode →
      match (c.front.hookOutcome .applyMode).refusal? .applyMode with
      | some e =>
        g.setMode handle mode = (.error e, g.noteAll (c.front.hookEvents (.applyMode mode)))
      | none => (g.setMode handle mode).1 = .ok () ∧
        Refronts (g.noteAll (c.front.hookEvents (.applyMode mode) ++
            ((g.endpointOf? c).map fun e => Event.modeUpdated e.name c.life.mode mode).toList))
          (g.setMode handle mode).2 handle (c.front.withLife { c.life with mode }) none) := by
  refine ⟨fun hs => ?_, fun hs hm => ?_, fun hs hm => ?_⟩
  · simp [Gateway.setMode, startMode, hc, hs, ConnectionState.isBound, conclude]
  · simp [Gateway.setMode, startMode, hc, hs, hm, ConnectionState.isBound, conclude]
  · have hbound : c.life.state.isBound = true := by simpa [ConnectionState.isBound] using hs
    cases ho : (c.front.hookOutcome .applyMode).refusal? .applyMode with
    | some e =>
      simp only
      rw [Gateway.setMode, startMode_of_refusal hc hbound hm ho]
      rfl
    | none =>
      obtain ⟨g₁, hstart, hrefronts⟩ :=
        startMode_of_done hc hbound hm (Outcome.refusal?_eq_none.1 ho)
      simp only
      rw [Gateway.setMode, hstart]
      simp only [conclude, true_and]
      rw [announceAll_of_no_change rfl, ← noteAll_noteAll]
      have htold := hrefronts.noteAll
        ((g.endpointOf? c).map fun e => Event.modeUpdated e.name c.life.mode mode).toList
      cases he : g.endpointOf? c <;> simpa [Announcement.events, he] using htold

theorem refresh_of_null (hc : g.get? handle = some c) (hs : c.life.state = .null) :
    g.refresh handle = g := by
  have hsame : g.refresh handle = g.modify handle id := by
    refine modify_congr fun c' hc' => ?_
    obtain rfl : c = c' := Option.some.inj (hc.symm.trans hc')
    simp [Lifecycle.refresh, hs, ConnectionState.isBound]
  rw [hsame]
  simp [modify]

theorem refronts_refresh (hc : g.get? handle = some c) (hs : c.life.state ≠ .null) :
    Refronts g (g.refresh handle) handle (c.front.withLife { c.life with
      ttl := g.config.timeouts.ttl c.life.state g.scheduler.resolution }) none := by
  have hbound : c.life.state.isBound = true := by simpa [ConnectionState.isBound] using hs
  refine .modify (front?_of_get? hc) fun c' hc' => ?_
  have hrefresh := congrArg (fun f : Front =>
    f.withLife (f.life.refresh g.config.timeouts g.scheduler.resolution)) hc'
  exact hrefresh.trans (congrArg c.front.withLife (Lifecycle.refresh_of_bound hbound))

theorem heartbeat_follows {hand : List Task} (h : Timed hand g) (hc : g.get? handle = some c)
    (e : Nat) :
    (¬(c.life.armed = true ∧ c.life.epoch = e) → g.heartbeat handle e = (false, g)) ∧
    (c.life.armed = true → c.life.epoch = e → 1 < c.life.ttl →
      (g.heartbeat handle e).1 = true ∧ Refronts g (g.heartbeat handle e).2 handle
        (c.front.withLife { c.life with ttl := c.life.ttl - 1 }) none) ∧
    (c.life.armed = true → c.life.epoch = e → c.life.ttl ≤ 1 →
      g.heartbeat handle e = (false, g.failConnection handle)) := by
  have hsound := h.sound handle _ (life?_of_get? hc)
  refine ⟨fun hstale => heartbeat_of_stale hc hstale, fun ha he ht => ?_, fun ha he ht => ?_⟩
  · subst he
    rw [heartbeat_of_alive hc ha ht]
    refine ⟨rfl, .modify (front?_of_get? hc) fun c' hc' => ?_⟩
    exact congrArg (fun f : Front => f.withLife { f.life with ttl := c.life.ttl - 1 }) hc'
  · subst he
    exact heartbeat_of_expired hc ha ht (hsound.isBound (hsound.armed.1 ha))

/-! ## All operations -/

/-- In every reachable state, every operation on a connection does what the transition table says,
however its hooks end.

Binding, opening, closing and failing lead to the next state of the table, with its full time, unless
a hook refuses that the connection is bound or opened. Events that are not allowed, that do nothing or
that are refused leave the gateway as it was, but for the note that a hook was called. Modes are set
where the table has a connection and the hook does not refuse. Refreshing and heartbeats concern
nothing but the time left, and the last heartbeat is a failure. An idle connection lets no media
through and has no time to count. -/
theorem operations_follow_table (config : GatewayConfig) (environment : Environment)
    (actions : List Action) {handle : Nat} {c : Connection}
    (hc : ((make config environment).run actions).get? handle = some c) :
    let g := (make config environment).run actions
    (∀ event, Follows g handle c event (g.operate handle event)) ∧
    (∀ event e, (g.operate handle event).1 = .error e →
      (g.operate handle event).2 = g ∨
        (g.operate handle event).2 = g.noteAll (c.front.hookEvents event.hookCall)) ∧
    (∀ mode,
      (c.life.state = .null →
        g.setMode handle mode = (.error (.illegalState .setMode .null .notBound), g)) ∧
      (c.life.state ≠ .null → c.life.mode = mode → g.setMode handle mode = (.ok (), g)) ∧
      (c.life.state ≠ .null → c.life.mode ≠ mode →
        match (c.front.hookOutcome .applyMode).refusal? .applyMode with
        | some e =>
          g.setMode handle mode = (.error e, g.noteAll (c.front.hookEvents (.applyMode mode)))
        | none => (g.setMode handle mode).1 = .ok () ∧
          Refronts (g.noteAll (c.front.hookEvents (.applyMode mode) ++
              ((g.endpointOf? c).map fun e => Event.modeUpdated e.name c.life.mode mode).toList))
            (g.setMode handle mode).2 handle (c.front.withLife { c.life with mode }) none)) ∧
    ((c.life.state = .null → g.refresh handle = g) ∧
      (c.life.state ≠ .null → Refronts g (g.refresh handle) handle (c.front.withLife { c.life with
        ttl := g.config.timeouts.ttl c.life.state g.scheduler.resolution }) none)) ∧
    (∀ epoch,
      (¬(c.life.armed = true ∧ c.life.epoch = epoch) → g.heartbeat handle epoch = (false, g)) ∧
      (c.life.armed = true → c.life.epoch = epoch → 1 < c.life.ttl →
        (g.heartbeat handle epoch).1 = true ∧ Refronts g (g.heartbeat handle epoch).2 handle
          (c.front.withLife { c.life with ttl := c.life.ttl - 1 }) none) ∧
      (c.life.armed = true → c.life.epoch = epoch → c.life.ttl ≤ 1 →
        g.heartbeat handle epoch = (false, g.failConnection handle))) ∧
    (c.life.state = .null → c.life.mode = .inactive ∧ c.life.ttl = 0) := by
  intro g
  have ht : Timed [] g := timed_run config environment actions
  have hsound := ht.sound handle _ (life?_of_get? hc)
  refine ⟨fun event => follows_operate hc event,
    fun event e he => (follows_operate hc event).of_error he,
    fun mode => setMode_follows hc mode,
    ⟨refresh_of_null hc, refronts_refresh hc⟩,
    fun epoch => heartbeat_follows ht hc epoch,
    fun hs => ⟨hsound.idle hs, hsound.ttl_null hs⟩⟩

/-- A leg that refuses to be opened and breaks off when it fails: it is not opened, which leaves no
trace, and it fails all the same. -/
theorem operations_follow_table_of_unwilling_leg :
    let g := (make {} .isolated).run
      [.adopt 7 { opened := .refused "not now", failed := .panicked "broken" }, .bind 0]
    (∃ c, g.get? 0 = some c ∧ c.life.state = .halfOpen) ∧
    g.openConnection 0 = (.error (.hook .opened "not now"), g.noteAll [.hookCalled .opened]) ∧
    ((g.failConnection 0).life? 0).map Lifecycle.state = some .null := by
  intro g
  have hc : g.get? 0 = some
      { id := 7, leg := .foreign { opened := .refused "not now", failed := .panicked "broken" }
        life := ⟨.halfOpen, .inactive, 301, 1, true, 1⟩ } := by
    decide +kernel
  obtain ⟨hfollows, -⟩ := operations_follow_table {} .isolated _ hc
  refine ⟨⟨_, hc, rfl⟩, hfollows .opening, ?_⟩
  obtain ⟨-, g₁, f, epoch?, a, -, hstate, -, -, -, -, hquiet⟩ := hfollows .failing
  have hrefronts := hquiet fun l hl => by cases hl
  have hfront : (g.failConnection 0).front? 0 = some f := hrefronts.front?
  rw [life?_of_front? hfront, Option.map_some, hstate]

end Gateway

end MediaGateway
