import MediaGateway.Proofs.Connection.Call
import MediaGateway.Proofs.Gateway.Run

/-!
# Calls in a gateway

Of a connection with a call, `CallView` keeps the state, the mode and the call. `CallView.Step` says
all that the gateway can make of it in one piece (`Piece.view`), so that what holds of calls in every
state of a gateway is proved with one case for each step.
-/

namespace MediaGateway

/-- What of a connection concerns its call. -/
structure CallView where
  /-- Where the connection is in its life. -/
  state : ConnectionState
  /-- In which directions media may flow. -/
  mode : Mode
  /-- The call. -/
  call : Call

namespace CallView

/-- What can become of a call in one piece, on a host in a network. -/
inductive Step (n : Network) : CallView → CallView → Prop
  | bind {mode call} (numbering cname) :
      Step n ⟨.null, mode, call⟩ ⟨.halfOpen, mode, call.renew numbering cname⟩
  | open {mode call} : Step n ⟨.halfOpen, mode, call⟩ ⟨.opened, mode, call⟩
  /-- The connection is closed, or fails. -/
  | finish {state mode call} : Step n ⟨state, mode, call⟩ ⟨.null, .inactive, call.close⟩
  | setMode {state old call} (mode) (hbound : state.isBound = true) :
      Step n ⟨state, old, call⟩ ⟨state, mode, call.updateMode mode⟩
  | offer {mode call w ports browser description call' ports'}
      (hw : w.host.network = n)
      (h : call.makeOffer w ports browser = (.ok description, call', ports')) :
      Step n ⟨.halfOpen, mode, call⟩ ⟨.halfOpen, mode, call'⟩
  | offerFailed {mode call w ports browser e call' ports'}
      (hw : w.host.network = n)
      (h : call.makeOffer w ports browser = (.error e, call', ports')) :
      Step n ⟨.halfOpen, mode, call⟩ ⟨.null, .inactive, call'.close⟩
  | answer {mode call w ports text description call' ports'}
      (hw : w.host.network = n)
      (h : call.answerOffer w ports text = (.ok description, call', ports')) :
      Step n ⟨.halfOpen, mode, call⟩ ⟨.opened, mode, call'⟩
  | answerFailed {mode call w ports text e call' ports'}
      (hw : w.host.network = n)
      (h : call.answerOffer w ports text = (.error e, call', ports')) :
      Step n ⟨.halfOpen, mode, call⟩ ⟨.null, .inactive, call'.close⟩
  | accept {mode call w text call'} (hw : w.host.network = n)
      (h : call.applyAnswer w text = (.ok (), call')) :
      Step n ⟨.halfOpen, mode, call⟩ ⟨.opened, mode, call'⟩
  | acceptFailed {mode call w text e call'} (hw : w.host.network = n)
      (h : call.applyAnswer w text = (.error e, call')) :
      Step n ⟨.halfOpen, mode, call⟩ ⟨.null, .inactive, call'.close⟩
  | poll {state mode call metrics now r call' metrics'} (hbound : state.isBound = true)
      (h : call.poll metrics now = (r, call', metrics')) :
      Step n ⟨state, mode, call⟩ ⟨state, mode, call'⟩
  | play {state mode call} (now) : Step n ⟨state, mode, call⟩ ⟨state, mode, (call.play now).2⟩
  | transmit {state mode call media s metrics network now p overflow r s' metrics'}
      (hs : call.session? media = some s)
      (h : s.transmit metrics network now p overflow = (r, s', metrics')) :
      Step n ⟨state, mode, call⟩ ⟨state, mode, call.withSession s'⟩
  | arrive {state mode call media s} (a) (hs : call.session? media = some s) :
      Step n ⟨state, mode, call⟩ ⟨state, mode, call.withSession (s.deliver a)⟩
  | installSink {state mode call} (sink) :
      Step n ⟨state, mode, call⟩ ⟨state, mode, { call with sink }⟩

/-- A step outside of exchanges of descriptions: what the two sides have told each other stays, or is
forgotten. -/
structure PlainStep (n : Network) (v v' : CallView) : Prop where
  step : Step n v v'
  exchange : v'.call.exchange = v.call.exchange ∨ v'.call.exchange.localDescription = none

end CallView

/-- The view of a connection, if there is a call behind it. -/
def Connection.view? (c : Connection) : Option CallView :=
  c.call?.map fun call => ⟨c.life.state, c.life.mode, call⟩

/-- What a hook does to a call. -/
def HookCall.onCall (numbering : Seat → Numbering) (cname : String) : HookCall → Call → Call
  | created, c => c.renew numbering cname
  | opened, c => c
  | closed, c => c.close
  | failed, c => c.close
  | applyMode mode, c => c.updateMode mode

namespace Gateway

variable {g g' g'' : Gateway} {handle : Nat} {c : Connection}

/-- The view of the connection at a place, if there is a call behind it. -/
def view? (g : Gateway) (handle : Nat) : Option CallView :=
  (g.get? handle).bind Connection.view?

/-! ## Connections after a change -/

theorem get?_modify (g : Gateway) (handle k : Nat) (f : Connection → Connection) :
    (g.modify handle f).get? k = if k = handle then (g.get? handle).map f else g.get? k := by
  simp only [get?, modify, List.getElem?_modify]
  by_cases h : k = handle
  · subst h
    cases g.connections[k]? <;> simp
  · have h' : handle ≠ k := Ne.symm h
    cases g.connections[k]? <;> simp [h, h']

/-- Nothing changes of what a change of one connection leaves as it is. -/
theorem bind_get?_modify {g : Gateway} {handle : Nat} {α : Type} {p : Connection → Option α}
    {f : Connection → Connection} (hf : ∀ c, g.get? handle = some c → p (f c) = p c) (k : Nat) :
    ((g.modify handle f).get? k).bind p = (g.get? k).bind p := by
  rw [get?_modify]
  by_cases hk : k = handle
  · subst hk
    rw [if_pos rfl]
    cases hc : g.get? k with
    | none => rfl
    | some c => exact hf c hc
  · rw [if_neg hk]

theorem map_get?_modify {g : Gateway} {handle : Nat} {α : Type} {p : Connection → α}
    {f : Connection → Connection} (hf : ∀ c, g.get? handle = some c → p (f c) = p c) (k : Nat) :
    ((g.modify handle f).get? k).map p = (g.get? k).map p := by
  rw [Option.map_eq_bind, Option.map_eq_bind]
  exact bind_get?_modify (p := some ∘ p) (fun c hc => congrArg some (hf c hc)) k

theorem get?_put (g : Gateway) (handle k : Nat) (c : Connection) :
    (g.put handle c).get? k = if k = handle then (g.get? handle).map fun _ => c else g.get? k :=
  get?_modify g handle k _

/-- The views are as before, but for the one of a connection, which is changed by `f`. -/
def ChangesView (g g' : Gateway) (handle : Nat) (f : CallView → CallView) : Prop :=
  ∀ k, g'.view? k = if k = handle then (g.view? handle).map f else g.view? k

namespace ChangesView

variable {f f' : CallView → CallView}

/-- Where all connections are as before, so are all views. -/
theorem of_connections (h : g'.connections = g.connections) (handle : Nat) :
    ChangesView g g' handle id := by
  intro k
  simp only [view?, get?, h, Option.map_id_fun, id]
  split
  · rename_i hk
    rw [hk]
  · rfl

theorem trans (h : ChangesView g g' handle f) (h' : ChangesView g' g'' handle f') :
    ChangesView g g'' handle (f' ∘ f) := by
  intro k
  rw [h' k]
  by_cases hk : k = handle
  · rw [if_pos hk, if_pos hk, h handle, if_pos rfl, Option.map_map]
  · rw [if_neg hk, if_neg hk, h k, if_neg hk]

/-- A change of something else than connections has no effect on the views. -/
theorem and_connections (h : ChangesView g g' handle f)
    (hc : g''.connections = g'.connections) : ChangesView g g'' handle f :=
  h.trans (of_connections hc handle)

theorem modify {u : Connection → Connection} (h : ∀ c, (u c).view? = c.view?.map f) :
    ChangesView g (g.modify handle u) handle f := by
  intro k
  simp only [view?, get?_modify]
  by_cases hk : k = handle
  · simp only [if_pos hk]
    cases g.get? handle with
    | none => rfl
    | some c => exact h c
  · simp only [if_neg hk]

theorem put (hc : g.get? handle = some c) {c' : Connection} (h : c'.view? = c.view?.map f) :
    ChangesView g (g.put handle c') handle f := by
  intro k
  simp only [view?, get?_put, hc]
  by_cases hk : k = handle
  · simp only [if_pos hk]
    exact h
  · simp only [if_neg hk]

theorem modifyCall (u : Call → Call) :
    ChangesView g (g.modifyCall handle u) handle fun v => { v with call := u v.call } := by
  refine modify fun c => ?_
  cases hl : c.leg <;> simp [Connection.view?, Connection.call?, hl]

/-- Links are not in view. -/
theorem modifyLink (place : Nat) (u : Link → Link) (handle : Nat) :
    ChangesView g (g.modifyLink place u) handle id := by
  have h : ChangesView g (g.modifyLink place u) place id := by
    refine modify fun c => ?_
    cases hl : c.leg <;> simp [Connection.view?, Connection.call?, hl]
  intro k
  rw [h k]
  split <;> split <;> simp_all

theorem unlink (place handle : Nat) : ChangesView g (g.unlink place) handle id := by
  simp only [Gateway.unlink]
  split
  · exact of_connections rfl handle
  · exact (modifyLink _ _ handle).trans (modifyLink _ _ handle)

theorem enter (state : ConnectionState) :
    ChangesView g (g.enter handle state) handle fun v => { v with state } := by
  have hlife (l : Lifecycle) (t : Timeouts) (r : UInt32) :
      (l.enter t r state).1.state = state ∧ (l.enter t r state).1.mode = l.mode := by
    simp only [Lifecycle.enter, Lifecycle.rearm]
    repeat' split
    all_goals exact ⟨rfl, rfl⟩
  simp only [Gateway.enter]
  split
  · rename_i hc
    intro k
    by_cases hk : k = handle
    · simp [view?, hk, hc]
    · simp [hk]
  · rename_i c hc
    obtain ⟨hs, hm⟩ := hlife c.life g.config.timeouts g.scheduler.resolution
    have hput : ChangesView g (g.put handle { c with
        life := (c.life.enter g.config.timeouts g.scheduler.resolution state).1 }) handle
        fun v => { v with state } := by
      refine put hc ?_
      simp only [Connection.view?, Connection.call?, hs, hm, Option.map_map]
      rfl
    refine hput.and_connections ?_
    · simp only [countOpen, submitHeartbeat]
      split <;> rfl

theorem hookLink (hook : HookCall) (handle : Nat) (place : Nat) :
    ChangesView g (g.hookLink place hook) handle id := by
  cases hook with
  | created => exact modifyLink _ _ _
  | opened => exact of_connections rfl _
  | closed => exact (unlink _ _).trans (modifyLink _ _ _)
  | failed => exact (unlink _ _).trans (modifyLink _ _ _)
  | applyMode mode =>
    simp only [Gateway.hookLink]
    split
    · exact of_connections rfl _
    · exact modifyLink _ _ _

/-- A hook changes the call of its connection, if there is one. -/
theorem callHook (hc : g.get? handle = some c) (hook : HookCall) :
    ChangesView g (g.callHook handle c hook).2 handle fun v =>
      { v with call := hook.onCall g.environment.numbering (g.environment.cname c.id) v.call } := by
  have hnone (h : c.view? = none) {f : CallView → CallView} {g' : Gateway}
      (h' : ChangesView g g' handle id) : ChangesView g g' handle f := by
    intro k
    rw [h' k]
    by_cases hk : k = handle
    · simp [hk, view?, hc, h]
    · simp [hk]
  simp only [Gateway.callHook]
  split
  · cases hook with
    | opened => exact of_connections rfl _
    | _ => exact modifyCall _
  · rename_i hl
    exact hnone (by simp [Connection.view?, Connection.call?, hl]) (hookLink _ _ _)
  · rename_i hl
    exact hnone (by simp [Connection.view?, Connection.call?, hl]) (of_connections rfl _)

/-- The end of a connection closes its call. -/
theorem teardown (hc : g.get? handle = some c) (failed : Bool) :
    ChangesView g (g.teardown handle c failed).2 handle fun v =>
      ⟨.null, .inactive, v.call.close⟩ := by
  have hclose : ChangesView g
      (g.callHook handle c (if failed then .failed else .closed)).2 handle fun v =>
        { v with call := v.call.close } := by
    cases failed <;> exact callHook hc _
  have hmode := hclose.trans (modify (f := fun v => { v with mode := .inactive })
    (u := fun c => { c with life := { c.life with mode := .inactive } })
    fun c => by cases hl : c.leg <;> simp [Connection.view?, Connection.call?, hl])
  have hend := (hmode.trans (enter .null)).trans (modify (f := id)
    (u := fun c => { c with endpoint := none, failureListener := none })
    fun c => by cases hl : c.leg <;> simp [Connection.view?, Connection.call?, hl])
  cases failed <;> exact hend.and_connections rfl

end ChangesView

/-! ## Steps of calls -/

/-- What can become of a call of the gateway in one piece. -/
abbrev CallStep (g : Gateway) : CallView → CallView → Prop :=
  CallView.Step g.environment.network

/-- What can become of it outside of exchanges. -/
abbrev PlainCallStep (g : Gateway) : CallView → CallView → Prop :=
  CallView.PlainStep g.environment.network

/-- Every view is as before, or in a relation to what it was before. -/
def StepsIn (R : CallView → CallView → Prop) (g g' : Gateway) : Prop :=
  ∀ k v', g'.view? k = some v' → ∃ v, g.view? k = some v ∧ (v = v' ∨ R v v')

/-- Every view is as before, or a step after what it was before. -/
abbrev Steps (g g' : Gateway) : Prop := StepsIn g.CallStep g g'

/-- The same with plain steps. -/
abbrev PlainSteps (g g' : Gateway) : Prop := StepsIn g.PlainCallStep g g'

section StepsIn

variable {R R' : CallView → CallView → Prop}

theorem StepsIn.mono (h : StepsIn R g g') (hR : ∀ v v', R v v' → R' v v') : StepsIn R' g g' := by
  intro k v' hv
  obtain ⟨v, hold, hstep⟩ := h k v' hv
  exact ⟨v, hold, hstep.imp_right (hR v v')⟩

theorem PlainSteps.steps (h : PlainSteps g g') : Steps g g' :=
  h.mono fun _ _ hs => hs.step

theorem ChangesView.steps {f : CallView → CallView} (h : ChangesView g g' handle f)
    (hf : ∀ v, g.view? handle = some v → v = f v ∨ R v (f v)) : StepsIn R g g' := by
  intro k v' hv
  rw [h k] at hv
  by_cases hk : k = handle
  · rw [if_pos hk] at hv
    obtain ⟨v, hold, rfl⟩ := Option.map_eq_some_iff.1 hv
    exact ⟨v, hk ▸ hold, hf v hold⟩
  · rw [if_neg hk] at hv
    exact ⟨v', hv, .inl rfl⟩

theorem ChangesView.steps_same (h : ChangesView g g' handle id) : StepsIn R g g' :=
  h.steps fun _ _ => .inl rfl

/-- Nothing happens to calls where no connection changes. -/
theorem StepsIn.of_connections (h : g'.connections = g.connections) : StepsIn R g g' :=
  (ChangesView.of_connections h 0).steps_same

theorem StepsIn.refl (g : Gateway) : StepsIn R g g := .of_connections rfl

end StepsIn

/-- Where a hook did not do its work, the connection belongs to someone else. -/
theorem connections_callHook (g : Gateway) (handle : Nat) (c : Connection) (hook : HookCall)
    (h : (g.callHook handle c hook).1 ≠ .done) :
    (g.callHook handle c hook).2.connections = g.connections := by
  cases hl : c.leg <;> simp_all [callHook, note]

theorem steps_afterHook {R : CallView → CallView → Prop} (hc : g.get? handle = some c) (h : Hook)
    (hook : HookCall) {next : Gateway → Started}
    (hnext : ∀ g₁, ChangesView g g₁ handle (fun v =>
        { v with call := hook.onCall g.environment.numbering (g.environment.cname c.id) v.call }) →
      StepsIn R g (next g₁).2) :
    StepsIn R g (afterHook h next (g.callHook handle c hook)).2 := by
  have hview := ChangesView.callHook hc hook
  have hkeep := connections_callHook g handle c hook
  rcases ho : g.callHook handle c hook with ⟨o, g₁⟩
  rw [ho] at hview hkeep
  cases o with
  | done => exact hnext g₁ hview
  | refused _ => exact .of_connections (hkeep (by simp))
  | panicked _ => exact .of_connections (hkeep (by simp))

theorem check_eq_next {event : StateEvent} {state : ConnectionState} :
    c.check event = .ok (some state) ↔ c.life.state.on event = .next state := by
  simp only [Connection.check]
  cases c.life.state.on event <;> simp

theorem view?_of_get? (hc : g.get? handle = some c) {v : CallView} (hv : g.view? handle = some v) :
    v.state = c.life.state ∧ v.mode = c.life.mode ∧ c.call? = some v.call := by
  simp only [view?, hc, Option.bind_some, Connection.view?, Option.map_eq_some_iff] at hv
  obtain ⟨call, hcall, rfl⟩ := hv
  exact ⟨rfl, rfl, hcall⟩

theorem steps_startBind (g : Gateway) (handle : Nat) : PlainSteps g (g.startBind handle).2 := by
  simp only [startBind]
  split
  · exact .refl g
  · rename_i c hc
    split
    · exact .refl g
    · exact .refl g
    · rename_i state hcheck
      refine steps_afterHook hc _ _ fun g₁ hview => ?_
      have hbound := (hview.trans (.modify (f := id)
        (u := fun c => { c with life := { c.life with generation := c.life.generation + 1 } })
        fun c => by cases hl : c.leg <;> simp [Connection.view?, Connection.call?, hl])).trans
        (.enter state)
      refine hbound.steps fun v hv => ?_
      obtain ⟨hs, -, -⟩ := view?_of_get? hc hv
      rw [check_eq_next, ← hs] at hcheck
      obtain ⟨state₀, mode, call⟩ := v
      cases state₀ <;> simp [ConnectionState.on] at hcheck
      subst hcheck
      exact .inr ⟨.bind _ _, .inr rfl⟩

theorem steps_startOpen (g : Gateway) (handle : Nat) (generation : Option Nat) :
    PlainSteps g (g.startOpen handle generation).2 := by
  simp only [startOpen]
  split
  · exact .refl g
  · rename_i c hc
    split
    · exact .refl g
    · split
      · exact .refl g
      · exact .refl g
      · rename_i state hcheck
        refine steps_afterHook hc _ _ fun g₁ hview => ?_
        refine (hview.trans (.enter state)).steps fun v hv => ?_
        obtain ⟨hs, -, -⟩ := view?_of_get? hc hv
        rw [check_eq_next, ← hs] at hcheck
        obtain ⟨state₀, mode, call⟩ := v
        cases state₀ <;> simp [ConnectionState.on] at hcheck
        subst hcheck
        exact .inr ⟨.open, .inl rfl⟩

theorem steps_startClose (g : Gateway) (handle : Nat) : PlainSteps g (g.startClose handle).2 := by
  simp only [startClose]
  split
  · exact .refl g
  · rename_i c hc
    split
    · exact .refl g
    · exact .refl g
    · exact (ChangesView.teardown hc false).steps fun v _ => .inr ⟨.finish, .inl rfl⟩

theorem steps_startFail (g : Gateway) (handle : Nat) : PlainSteps g (g.startFail handle).2 := by
  simp only [startFail]
  split
  · exact .refl g
  · rename_i c hc
    split
    · exact (ChangesView.teardown hc true).steps fun v _ => .inr ⟨.finish, .inl rfl⟩
    · exact .refl g

theorem steps_startMode (g : Gateway) (handle : Nat) (mode : Mode) :
    PlainSteps g (g.startMode handle mode).2 := by
  simp only [startMode]
  split
  · exact .refl g
  · rename_i c hc
    split
    · exact .refl g
    · rename_i hbound
      split
      · exact .refl g
      · refine steps_afterHook hc _ _ fun g₁ hview => ?_
        refine (hview.trans (.modify (f := fun v => { v with mode })
          (u := fun c => { c with life := { c.life with mode } })
          fun c => by cases hl : c.leg <;> simp [Connection.view?, Connection.call?, hl])).steps
          fun v hv => ?_
        obtain ⟨hs, -, -⟩ := view?_of_get? hc hv
        exact .inr ⟨.setMode mode (by simpa [hs] using hbound), .inl rfl⟩

/-! ## Offers and answers -/

/-- What an exchange may begin with: a connection in `HALF_OPEN` with its call. -/
theorem beginCall_ok {operation : Operation} {call : Call} {generation : Nat}
    (h : g.beginCall handle operation = .ok (c, call, generation)) :
    g.get? handle = some c ∧ c.call? = some call ∧ c.life.state = .halfOpen ∧
      generation = c.life.generation := by
  simp only [beginCall] at h
  split at h
  · simp at h
  · rename_i c₀ hc
    split at h
    · simp at h
    · simp at h
    · rename_i generation₀ call₀ hb hcall
      simp only [Except.ok.injEq, Prod.mk.injEq] at h
      obtain ⟨rfl, rfl, rfl⟩ := h
      simp only [Connection.beginNegotiation] at hb
      refine ⟨hc, hcall, ?_⟩
      cases hs : c₀.life.state <;> simp [hs, ConnectionState.on] at hb
      exact ⟨rfl, hb.symm⟩

theorem view?_of_beginCall {operation : Operation} {call : Call} {generation : Nat}
    (h : g.beginCall handle operation = .ok (c, call, generation)) :
    g.view? handle = some ⟨.halfOpen, c.life.mode, call⟩ := by
  obtain ⟨hc, hcall, hstate, -⟩ := beginCall_ok h
  simp [view?, hc, Connection.view?, hcall, hstate]

theorem ChangesView.putCall (g : Gateway) (handle : Nat) (call : Call) (ports : PortRange) :
    ChangesView g (g.putCall handle call ports) handle fun v => { v with call } :=
  (ChangesView.modifyCall fun _ => call).and_connections rfl

theorem ChangesView.countNegotiation {f : CallView → CallView} {e : SessionError}
    (h : ChangesView g g' handle f) : ChangesView g (g'.countNegotiation e) handle f := by
  refine h.and_connections ?_
  simp only [Gateway.countNegotiation]
  split <;> rfl

theorem get?_countNegotiation (g : Gateway) (e : SessionError) (k : Nat) :
    (g.countNegotiation e).get? k = g.get? k := by
  simp only [countNegotiation]
  split <;> rfl

/-- After an exchange has begun, the connection is there with whatever call it is given. -/
theorem get?_putCall {operation : Operation} {call : Call} {generation : Nat}
    (hb : g.beginCall handle operation = .ok (c, call, generation)) (call' : Call)
    (ports : PortRange) :
    (g.putCall handle call' ports).get? handle = some { c with leg := .call call' } := by
  obtain ⟨hc, hcall, -, -⟩ := beginCall_ok hb
  have hl : c.leg = .call call := by
    cases hl : c.leg <;> simp_all [Connection.call?]
  have hput : (g.putCall handle call' ports).get? handle =
      (g.modifyCall handle fun _ => call').get? handle := rfl
  rw [hput, modifyCall, get?_modify, if_pos rfl, hc]
  simp [hl]

/-- After an exchange has begun, the connection can be opened. -/
theorem startOpen_putCall {operation : Operation} {call call' : Call} {generation : Nat}
    {ports : PortRange} (hb : g.beginCall handle operation = .ok (c, call, generation)) :
    (g.putCall handle call' ports).startOpen handle (some generation) =
      (.ok (some { handle, id := c.id, type := .rtp, change := some (.halfOpen, .opened) }),
        (g.putCall handle call' ports).enter handle .opened) := by
  obtain ⟨-, -, hstate, hgen⟩ := beginCall_ok hb
  simp only [startOpen, get?_putCall hb, Connection.check, hstate, ConnectionState.on]
  rw [if_neg (by simp [Lifecycle.isCurrent, hgen, hstate, ConnectionState.isBound])]
  rfl

/-- An exchange that fails ends the connection. -/
theorem steps_exchangeFailed {operation : Operation} {call call' : Call} {generation : Nat}
    {ports : PortRange} {e : SessionError}
    (hb : g.beginCall handle operation = .ok (c, call, generation))
    (hstep : g.CallStep ⟨.halfOpen, c.life.mode, call⟩ ⟨.null, .inactive, call'.close⟩) :
    Steps g (((g.putCall handle call' ports).countNegotiation e).startFail handle).2 := by
  obtain ⟨hc, hcall, hstate, -⟩ := beginCall_ok hb
  have hview := (ChangesView.putCall g handle call' ports).countNegotiation (e := e)
  have hput := (get?_countNegotiation (g.putCall handle call' ports) e handle).trans
    (get?_putCall hb call' ports)
  simp only [startFail, hput]
  rw [if_pos (by simp [hstate, ConnectionState.isBound])]
  refine (hview.trans (ChangesView.teardown hput true)).steps fun v hv => ?_
  obtain ⟨hs, hm, hv⟩ := view?_of_get? hc hv
  obtain ⟨state, mode, call₀⟩ := v
  obtain rfl : call = call₀ := Option.some.inj (hcall.symm.trans hv)
  simp only at hs hm
  rw [hs, hm, hstate]
  exact .inr hstep

/-- An exchange that succeeds opens the connection. -/
theorem steps_exchanged {operation : Operation} {call call' : Call} {generation : Nat}
    {ports : PortRange} (hb : g.beginCall handle operation = .ok (c, call, generation))
    (hstep : g.CallStep ⟨.halfOpen, c.life.mode, call⟩ ⟨.opened, c.life.mode, call'⟩) :
    Steps g ((g.putCall handle call' ports).startOpen handle (some generation)).2 := by
  obtain ⟨hc, hcall, hstate, -⟩ := beginCall_ok hb
  rw [startOpen_putCall hb]
  have hview := (ChangesView.putCall g handle call' ports).trans (.enter .opened)
  refine hview.steps fun v hv => ?_
  obtain ⟨hs, hm, hv⟩ := view?_of_get? hc hv
  obtain ⟨state, mode, call₀⟩ := v
  obtain rfl : call = call₀ := Option.some.inj (hcall.symm.trans hv)
  simp only at hs hm
  simp only [Function.comp_apply, hs, hm, hstate]
  exact .inr hstep

/-! ## New connections -/

theorem get?_addConnection (g : Gateway) (c : Connection) (k : Nat) :
    (g.addConnection c).2.get? k = if k = g.connections.length then some c else g.get? k := by
  simp only [get?, addConnection, List.getElem?_append]
  rcases Nat.lt_trichotomy k g.connections.length with h | h | h
  · rw [if_pos h, if_neg (by omega)]
  · rw [if_neg (by omega), if_pos h, h]
    simp
  · rw [if_neg (by omega), if_neg (by omega), List.getElem?_eq_none (by simp; omega),
      List.getElem?_eq_none (by omega)]

theorem get?_refer (g : Gateway) (handle k : Nat) : (g.refer handle).2.get? k = g.get? k := rfl

theorem get?_withPool (g : Gateway) (type : ConnectionType) (handles : List Nat) (k : Nat) :
    (g.withPool type handles).get? k = g.get? k := by
  cases type <;> rfl

/-- What is created is as it was in the pool, or new. -/
theorem view_create {type : ConnectionType} {k : Nat} {v : CallView}
    (hv : (g.create type).2.view? k = some v) :
    g.view? k = some v ∨ ∃ id, v = ⟨.null, .inactive, g.newCall id⟩ := by
  simp only [create, obtain, view?, get?_refer] at hv
  cases hp : g.pool type with
  | cons handle rest =>
    simp only [hp, get?_withPool] at hv
    exact .inl hv
  | nil =>
    cases type with
    | rtp =>
      simp only [hp, build] at hv
      have hget : ∀ (g' : Gateway) (s : Scheduler Task), ({ g' with scheduler := s }).get? k =
          g'.get? k := fun _ _ => rfl
      rw [hget, get?_addConnection] at hv
      split at hv
      · simp only [Option.bind_some, Connection.view?, Connection.call?, Option.map_some,
          Option.some.injEq] at hv
        exact .inr ⟨g.ids.draw.1, hv.symm⟩
      · exact .inl hv
    | internal =>
      simp only [hp, build, get?_addConnection] at hv
      split at hv
      · simp [Connection.view?, Connection.call?] at hv
      · exact .inl hv

theorem steps_adopt (g : Gateway) (id : UInt32) (hooks : Hooks) : PlainSteps g (g.adopt id hooks).2 := by
  intro k v hv
  simp only [adopt, view?, get?_refer, get?_addConnection] at hv
  split at hv
  · simp [Connection.view?, Connection.call?] at hv
  · exact ⟨v, hv, .inl rfl⟩

theorem steps_giveUp (g : Gateway) (reference : Nat) : PlainSteps g (g.giveUp reference) := by
  simp only [giveUp]
  split
  · exact .refl g
  · rename_i handle _
    simp only [reap]
    split
    · exact .of_connections rfl
    · intro k v hv
      refine ⟨v, ?_, .inl rfl⟩
      simp only [view?, get?, List.getElem?_set] at hv ⊢
      split at hv
      · split at hv <;> simp at hv
      · exact hv

/-! ## All changes -/

namespace ChangesView

/-- What a change of a connection is to calls if it leaves leg, state and mode as they are. -/
theorem modify_same {u : Connection → Connection} (hcall : ∀ c, (u c).call? = c.call?)
    (hstate : ∀ c, (u c).life.state = c.life.state) (hmode : ∀ c, (u c).life.mode = c.life.mode) :
    ChangesView g (g.modify handle u) handle id :=
  modify fun c => by simp [Connection.view?, hcall, hstate, hmode]

theorem refresh : ChangesView g (g.refresh handle) handle id := by
  have hlife (l : Lifecycle) (t : Timeouts) (r : UInt32) :
      (l.refresh t r).state = l.state ∧ (l.refresh t r).mode = l.mode := by
    simp only [Lifecycle.refresh]
    split <;> exact ⟨rfl, rfl⟩
  exact modify_same (fun _ => rfl) (fun c => (hlife c.life _ _).1) fun c => (hlife c.life _ _).2

/-- Those who watch a connection are not in view. -/
theorem modify_watchers (listeners : Connection → List Listener)
    (failureListener : Connection → Option FailureListener) (endpoint : Connection → Option Nat) :
    ChangesView g (g.modify handle fun c => { c with
      listeners := listeners c
      failureListener := failureListener c
      endpoint := endpoint c }) handle id :=
  modify_same (u := fun c => { c with
      listeners := listeners c
      failureListener := failureListener c
      endpoint := endpoint c }) (fun _ => rfl) (fun _ => rfl) fun _ => rfl

theorem put_same (hc : g.get? handle = some c) {life : Lifecycle}
    (hstate : life.state = c.life.state) (hmode : life.mode = c.life.mode) :
    ChangesView g (g.put handle { c with life }) handle id :=
  put hc (by simp [Connection.view?, Connection.call?, hstate, hmode])

theorem setHook (hook : Hook) (outcome : Outcome) :
    ChangesView g (g.setHook handle hook outcome) handle id :=
  modify fun c => by cases hl : c.leg <;> simp [Connection.view?, Connection.call?, hl]

end ChangesView

theorem beat_state (l : Lifecycle) (epoch : Nat) :
    (l.beat epoch).2.state = l.state ∧ (l.beat epoch).2.mode = l.mode := by
  simp only [Lifecycle.beat]
  split <;> exact ⟨rfl, rfl⟩

theorem steps_recycle (g : Gateway) (handle : Nat) : PlainSteps g (g.recycle handle).2 := by
  have hdetach : ChangesView g (g.modify handle Connection.detach) handle id :=
    .modify_watchers (fun _ => []) (fun _ => none) fun _ => none
  simp only [recycle]
  split
  · exact .refl g
  · split
    · exact .refl g
    · split
      · exact .refl g
      · split
        · refine (hdetach.and_connections ?_).steps_same
          simp only [withPool]
          split <;> rfl
        · exact hdetach.steps_same

theorem steps_send (g : Gateway) (handle : Nat) (frame : Frame) :
    PlainSteps g (g.send handle frame).2 := by
  simp only [send]
  split
  · exact .refl g
  · split
    · exact .refl g
    · split
      · exact ((ChangesView.modifyLink _ _ _).trans .refresh).steps_same
      · exact .refl g

/-- What becomes of the calls when connections come, wait or go: nothing, or the connection is new. -/
theorem Restock.view (h : Restock g g') {k : Nat} {v' : CallView} (hv : g'.view? k = some v') :
    (∃ v, g.view? k = some v ∧ (v = v' ∨ g.PlainCallStep v v')) ∨
      ∃ id, v' = ⟨.null, .inactive, g.newCall id⟩ := by
  cases h with
  | create type =>
    rcases view_create hv with hv | hv
    · exact .inl ⟨v', hv, .inl rfl⟩
    · exact .inr hv
  | adopt id hooks => exact .inl (steps_adopt g id hooks k v' hv)
  | recycle handle => exact .inl (steps_recycle g handle k v' hv)
  | giveUp reference => exact .inl (steps_giveUp g reference k v' hv)

/-- A setting makes of the call behind a connection nothing, or sets where its frames go. -/
theorem Setting.steps (h : Setting g g') : PlainSteps g g' := by
  cases h with
  | setHook handle hook outcome => exact (ChangesView.setHook hook outcome).steps_same
  | addListener handle l =>
    exact (ChangesView.modify_watchers (fun c => c.listeners ++ [l])
      Connection.failureListener Connection.endpoint).steps_same
  | removeListener handle key =>
    exact (ChangesView.modify_watchers (fun c => c.listeners.filter (·.key ≠ key))
      Connection.failureListener Connection.endpoint).steps_same
  | setFailureListener handle l =>
    exact (ChangesView.modify_watchers Connection.listeners (fun _ => some l)
      Connection.endpoint).steps_same
  | attachEndpoint handle e =>
    have hdrop : ChangesView g (g.dropEndpoint e.name) handle id := .of_connections rfl handle
    exact ((hdrop.trans (.modify_watchers Connection.listeners Connection.failureListener
      fun _ => some (g.dropEndpoint e.name).endpoints.length)).and_connections rfl).steps_same
  | dropEndpoint name => exact .of_connections rfl
  | installSink handle =>
    exact ((ChangesView.modifyCall _).and_connections rfl).steps fun v _ => .inr ⟨.installSink _, .inl rfl⟩
  | fetchFrames sink => exact .of_connections rfl
  | dropSink sink => exact .of_connections rfl

/-- Outside of exchanges, a change makes of the call behind a connection nothing, or one plain step. -/
theorem PlainChange.steps (h : PlainChange g g') : PlainSteps g g' := by
  cases h with
  | telling h =>
    cases h with
    | note e => exact .of_connections rfl
    | bind handle => exact steps_startBind g handle
    | close handle => exact steps_startClose g handle
    | fail handle => exact steps_startFail g handle
  | «open» handle generation => exact steps_startOpen g handle generation
  | setMode handle mode => exact steps_startMode g handle mode
  | link ha hb hne hga hgb =>
    exact ((ChangesView.modifyLink _ _ 0).trans (ChangesView.modifyLink _ _ 0)).steps_same
  | unlink handle => exact (ChangesView.unlink handle 0).steps_same
  | receive handle => exact (ChangesView.modifyLink handle _ 0).steps_same
  | @poll handle c call r call' metrics hc hcall hbound hp =>
    have hexchange := Call.exchange_pollSessions g.now call.sessions call g.metrics
    refine ((ChangesView.modifyCall fun _ => call').and_connections rfl).steps fun v hv => ?_
    obtain ⟨hs, -, hv⟩ := view?_of_get? hc hv
    obtain ⟨state, mode, call₀⟩ := v
    obtain rfl : call = call₀ := Option.some.inj (hcall.symm.trans hv)
    simp only at hs
    have hkept : call'.exchange = call.exchange := by
      rw [Call.poll] at hp
      rwa [hp] at hexchange
    exact .inr ⟨.poll (hs ▸ hbound) hp, .inl hkept⟩
  | @play handle c call hc hcall =>
    have hsink (g : Gateway) (sink : Option Nat) (frames : List (MediaType × Frame)) :
        (g.fillSink sink frames).connections = g.connections := by
      simp only [fillSink]
      split <;> rfl
    refine ((ChangesView.modifyCall fun _ => (call.play g.now).2).and_connections
      (hsink _ _ _)).steps fun v hv => ?_
    obtain ⟨-, -, hv⟩ := view?_of_get? hc hv
    obtain ⟨state, mode, call₀⟩ := v
    obtain rfl : call = call₀ := Option.some.inj (hcall.symm.trans hv)
    exact .inr ⟨.play _, .inl rfl⟩
  | @transmit handle c call media s p r s' metrics hc hcall hs ht =>
    refine ((ChangesView.modifyCall fun c => c.withSession s').and_connections rfl).steps
      fun v hv => ?_
    obtain ⟨-, -, hv⟩ := view?_of_get? hc hv
    obtain ⟨state, mode, call₀⟩ := v
    obtain rfl : call = call₀ := Option.some.inj (hcall.symm.trans hv)
    exact .inr ⟨.transmit hs ht, .inl (Call.exchange_withSession s')⟩
  | arrive handle media a =>
    refine (ChangesView.modifyCall _).steps fun v hv => ?_
    obtain ⟨state, mode, call⟩ := v
    cases hs : call.session? media with
    | some s =>
      simp only
      exact .inr ⟨.arrive a hs, .inl (Call.exchange_withSession _)⟩
    | none =>
      simp only
      exact .inl trivial
  | elapse millis => exact .of_connections rfl
  | clearLog => exact .of_connections rfl

/-- The same of one move: refreshing a connection is not in view. -/
theorem PlainMove.steps (h : PlainMove g g') : PlainSteps g g' := by
  cases h with
  | change h => exact h.steps
  | refresh handle => exact ChangesView.refresh.steps_same
  | send handle frame => exact steps_send g handle frame

/-- The same of one turn: of a heartbeat, only the end is in view. -/
theorem PlainTurn.steps (h : PlainTurn g g') : PlainSteps g g' := by
  cases h with
  | move h => exact h.steps
  | @beat handle c epoch life hc hb =>
    have hlife := beat_state c.life epoch
    rw [hb] at hlife
    exact (ChangesView.put_same hc hlife.1 hlife.2).steps_same
  | @expire handle c epoch life hc hb =>
    have hlife := beat_state c.life epoch
    rw [hb] at hlife
    have hput : (g.put handle { c with life }).get? handle = some { c with life } := by
      rw [get?_put, if_pos rfl, hc]
      rfl
    exact ((ChangesView.put_same hc hlife.1 hlife.2).trans
      (ChangesView.teardown hput true)).steps fun v _ => .inr ⟨.finish, .inl rfl⟩
  | takeTasks q => exact .of_connections rfl
  | keepTasks q tasks => exact .of_connections rfl

/-- A change makes of the call behind a connection nothing, or one step. -/
theorem Change.steps (h : Change g g') : Steps g g' := by
  cases h with
  | bind handle => exact (steps_startBind g handle).steps
  | «open» handle generation => exact (steps_startOpen g handle generation).steps
  | close handle => exact (steps_startClose g handle).steps
  | fail handle => exact (steps_startFail g handle).steps
  | setMode handle mode => exact (steps_startMode g handle mode).steps
  | link ha hb hne hga hgb => exact (PlainChange.link ha hb hne hga hgb).steps.steps
  | unlink handle => exact (PlainChange.unlink handle).steps.steps
  | receive handle => exact (PlainChange.receive handle).steps.steps
  | @offer handle c call generation browser description call' ports hb hm =>
    obtain ⟨hc, hcall, hstate, -⟩ := beginCall_ok hb
    refine (ChangesView.putCall g handle call' ports).steps fun v hv => ?_
    obtain ⟨hs, -, hv⟩ := view?_of_get? hc hv
    obtain ⟨state, mode, call₀⟩ := v
    obtain rfl : call = call₀ := Option.some.inj (hcall.symm.trans hv)
    obtain rfl : state = .halfOpen := hs.trans hstate
    exact .inr (.offer rfl hm)
  | offerFailed hb hm => exact steps_exchangeFailed hb (.offerFailed rfl hm)
  | answer hb hm => exact steps_exchanged hb (.answer rfl hm)
  | answerFailed hb hm => exact steps_exchangeFailed hb (.answerFailed rfl hm)
  | accept hb hm => exact steps_exchanged hb (.accept rfl hm)
  | acceptFailed hb hm => exact steps_exchangeFailed hb (.acceptFailed rfl hm)
  | poll hc hcall hbound hp => exact (PlainChange.poll hc hcall hbound hp).steps.steps
  | play hc hcall => exact (PlainChange.play hc hcall).steps.steps
  | transmit hc hcall hs ht => exact (PlainChange.transmit hc hcall hs ht).steps.steps
  | arrive handle media a => exact (PlainChange.arrive handle media a).steps.steps
  | note e => exact (PlainChange.telling (.note e)).steps.steps
  | elapse millis => exact (PlainChange.elapse millis).steps.steps
  | clearLog => exact PlainChange.clearLog.steps.steps

/-- The same of one move. -/
theorem Move.steps (h : Move g g') : Steps g g' := by
  cases h with
  | change h => exact h.steps
  | refresh handle => exact (PlainMove.refresh handle).steps.steps
  | send handle frame => exact (PlainMove.send handle frame).steps.steps

/-- The same of one turn. -/
theorem Turn.steps (h : Turn g g') : Steps g g' := by
  cases h with
  | move h => exact h.steps
  | beat hc hb => exact (PlainTurn.beat hc hb).steps.steps
  | expire hc hb => exact (PlainTurn.expire hc hb).steps.steps
  | takeTasks q => exact (PlainTurn.takeTasks q).steps.steps
  | keepTasks q tasks => exact (PlainTurn.keepTasks q tasks).steps.steps

/-- What is done in one piece makes of the call behind a connection nothing, or one step, or the
connection is new. -/
theorem Piece.view (h : Piece g g') {k : Nat} {v' : CallView} (hv : g'.view? k = some v') :
    (∃ v, g.view? k = some v ∧ (v = v' ∨ g.CallStep v v')) ∨
      ∃ id, v' = ⟨.null, .inactive, g.newCall id⟩ := by
  cases h with
  | restock h => exact (h.view hv).imp_left fun ⟨v, hold, hs⟩ => ⟨v, hold, hs.imp_right (·.step)⟩
  | setting h => exact .inl (h.steps.steps k v' hv)
  | turn h => exact .inl (h.steps k v' hv)

end Gateway

end MediaGateway
