import MediaGateway.Proofs.Gateway.Front

/-!
# Lives of connections

What a change of the gateway makes of the lives of its connections and of the tasks that wait: nothing,
or one step of one life with the heartbeats that it submits (`Change.lives`). Otherwise lives begin
and end with connections that come and go (`Restock.lives`).
-/

namespace MediaGateway.Gateway

variable {g g' g'' : Gateway} {handle : Nat} {c : Connection}

/-! ## Where lives stay -/

/-- The lives of all connections and the tasks are as before. -/
structure SameLives (g g' : Gateway) : Prop where
  lives : ∀ k, g'.life? k = g.life? k
  places : g'.connections.length = g.connections.length
  scheduler : g'.scheduler = g.scheduler
  config : g'.config = g.config

namespace SameLives

theorem trans (h : SameLives g g') (h' : SameLives g' g'') : SameLives g g'' where
  lives := fun k => (h'.lives k).trans (h.lives k)
  places := h'.places.trans h.places
  scheduler := h'.scheduler.trans h.scheduler
  config := h'.config.trans h.config

theorem of_connections (hconnections : g'.connections = g.connections)
    (hscheduler : g'.scheduler = g.scheduler) (hconfig : g'.config = g.config) :
    SameLives g g' where
  lives := fun k => by simp only [life?, front?, get?, hconnections]
  places := congrArg List.length hconnections
  scheduler := hscheduler
  config := hconfig

theorem refl (g : Gateway) : SameLives g g := .of_connections rfl rfl rfl

theorem of_behind (h : Behind g g') : SameLives g g' where
  lives := fun k => by simp only [life?, h.fronts]
  places := h.places
  scheduler := by rw [h.rest]
  config := by rw [h.rest]

theorem modify {u : Connection → Connection} (hu : ∀ c, (u c).life = c.life) :
    SameLives g (g.modify handle u) where
  lives := by
    intro k
    simp only [life?, front?, Option.map_map]
    exact map_get?_modify (fun c _ => hu c) k
  places := length_modify g handle u
  scheduler := rfl
  config := rfl

theorem modifyCall (u : Call → Call) : SameLives g (g.modifyCall handle u) :=
  .of_behind (.modifyCall u)

theorem withPool (type : ConnectionType) (handles : List Nat) :
    SameLives g (g.withPool type handles) := by
  cases type <;> exact .of_connections rfl rfl rfl

theorem putCall (g : Gateway) (handle : Nat) (call : Call) (ports : PortRange) :
    SameLives g (g.putCall handle call ports) :=
  (modifyCall fun _ => call).trans (.of_connections rfl rfl rfl)

theorem countNegotiation (g : Gateway) (e : SessionError) :
    SameLives g (g.countNegotiation e) := by
  simp only [Gateway.countNegotiation]
  split
  · exact .of_connections rfl rfl rfl
  · exact .refl g

theorem fillSink (g : Gateway) (sink : Option Nat) (frames : List (MediaType × Frame)) :
    SameLives g (g.fillSink sink frames) := by
  simp only [Gateway.fillSink]
  split
  · exact .refl g
  · exact .of_connections rfl rfl rfl

end SameLives

/-! ## Steps of lives -/

/-- What can become of lives and tasks in one piece. -/
inductive LivesStep (g g' : Gateway) : Prop
  | same (h : SameLives g g')
  /-- One connection makes a step, and heartbeats may be submitted. -/
  | step {handle : Nat} {l l' : Lifecycle} {epoch? : Option Nat} (hl : g.life? handle = some l)
      (hs : Lifecycle.Step g.config.timeouts g.scheduler.resolution l l' epoch?)
      (lives : ∀ k, g'.life? k = if k = handle then some l' else g.life? k)
      (places : g'.connections.length = g.connections.length)
      (scheduler : g'.scheduler = (g.submitHeartbeat handle epoch?).scheduler)
  /-- A connection comes. -/
  | arrive (tasks : List Nat)
      (lives : ∀ k, g'.life? k = if k = g.connections.length then some {} else g.life? k)
      (places : g'.connections.length = g.connections.length + 1)
      (scheduler : g'.scheduler =
        { g.scheduler with media := g.scheduler.media ++ tasks.map Task.media })
  /-- A connection goes. -/
  | leave (handle : Nat) (lives : ∀ k, g'.life? k = if k = handle then none else g.life? k)
      (places : g'.connections.length = g.connections.length)
      (scheduler : g'.scheduler = g.scheduler)

theorem LivesStep.after (h' : LivesStep g' g'') (h : SameLives g g') : LivesStep g g'' := by
  cases h' with
  | same h' => exact .same (h.trans h')
  | @step handle l l' epoch? hl hs lives places scheduler =>
    rw [h.config, h.scheduler] at hs
    refine .step ((h.lives handle).symm.trans hl) hs (fun k => by rw [lives, h.lives])
      (places.trans h.places) ?_
    rw [scheduler]
    cases epoch? <;> simp only [submitHeartbeat, h.scheduler]
  | arrive tasks lives places scheduler =>
    exact .arrive tasks (fun k => by rw [lives, h.lives, h.places]) (by rw [places, h.places])
      (by rw [scheduler, h.scheduler])
  | leave handle lives places scheduler =>
    exact .leave handle (fun k => by rw [lives, h.lives]) (places.trans h.places)
      (scheduler.trans h.scheduler)

theorem Refronts.livesStep {f : Front} {l : Lifecycle} {epoch? : Option Nat} {events : List Event}
    (h : Refronts (g.noteAll events) g' handle f epoch?) (hl : g.life? handle = some l)
    (hs : Lifecycle.Step g.config.timeouts g.scheduler.resolution l f.life epoch?) :
    LivesStep g g' := by
  refine .step hl hs (fun k => ?_) h.places ?_
  · simp only [life?, h.fronts]
    by_cases hk : k = handle
    · simp only [if_pos hk, Option.map_some]
    · simp only [if_neg hk]
      rfl
  · rw [h.scheduler]
    cases epoch? <;> rfl

section Operations

variable (g : Gateway) (handle : Nat)

theorem lives_teardown (hc : g.get? handle = some c) (hs : c.life.state.isBound = true)
    (failed : Bool) : LivesStep g (g.teardown handle c failed).2 :=
  (teardown_front hc failed).2.1.livesStep (life?_of_get? hc) (.finish hs)

theorem lives_startBind : LivesStep g (g.startBind handle).2 := by
  cases hc : g.get? handle with
  | none =>
    simp only [startBind, hc]
    exact .same (.refl g)
  | some c =>
    by_cases hs : c.life.state = .null
    · cases ho : (c.front.hookOutcome .created).refusal? .created with
      | some e =>
        rw [startBind_of_refusal hc hs ho]
        exact .same (.of_connections rfl rfl rfl)
      | none =>
        obtain ⟨g', hg', hfront⟩ := startBind_of_done hc hs (Outcome.refusal?_eq_none.1 ho)
        rw [hg']
        exact hfront.livesStep (life?_of_get? hc) (.bind hs)
    · have hcheck : ∃ e, c.check .binding = .error e := by
        cases hl : c.life.state <;> simp_all [Connection.check, ConnectionState.on]
      obtain ⟨e, he⟩ := hcheck
      simp only [startBind, hc, he]
      exact .same (.refl g)

theorem lives_startOpen (generation : Option Nat) :
    LivesStep g (g.startOpen handle generation).2 := by
  cases hc : g.get? handle with
  | none =>
    simp only [startOpen, hc]
    exact .same (.refl g)
  | some c =>
    cases hg : generation.any fun n => !c.life.isCurrent n with
    | true =>
      simp only [startOpen, hc, hg, if_true]
      exact .same (.refl g)
    | false =>
      by_cases hs : c.life.state = .halfOpen
      · cases ho : (c.front.hookOutcome .opened).refusal? .opened with
        | some e =>
          rw [startOpen_of_refusal hc hg hs ho]
          exact .same (.of_connections rfl rfl rfl)
        | none =>
          obtain ⟨g', hg', hfront⟩ := startOpen_of_done hc hg hs (Outcome.refusal?_eq_none.1 ho)
          rw [hg']
          exact hfront.livesStep (life?_of_get? hc) (.open hs)
      · have hcheck : ∃ e, c.check .opening = .error e := by
          cases hl : c.life.state <;> simp_all [Connection.check, ConnectionState.on]
        obtain ⟨e, he⟩ := hcheck
        simp only [startOpen, hc, hg, he]
        exact .same (.refl g)

theorem lives_startClose : LivesStep g (g.startClose handle).2 := by
  cases hc : g.get? handle with
  | none =>
    simp only [startClose, hc]
    exact .same (.refl g)
  | some c =>
    cases hs : c.life.state.isBound with
    | true =>
      rw [startClose_of_bound hc hs]
      exact lives_teardown g handle hc hs false
    | false =>
      have hnull : c.life.state = .null := by simpa [ConnectionState.isBound] using hs
      simp only [startClose, hc, Connection.check, hnull, ConnectionState.on]
      exact .same (.refl g)

theorem lives_startFail : LivesStep g (g.startFail handle).2 := by
  cases hc : g.get? handle with
  | none =>
    simp only [startFail, hc]
    exact .same (.refl g)
  | some c =>
    cases hs : c.life.state.isBound with
    | true =>
      rw [startFail_of_bound hc hs]
      exact lives_teardown g handle hc hs true
    | false =>
      simp only [startFail, hc, hs]
      exact .same (.refl g)

theorem lives_startMode (mode : Mode) : LivesStep g (g.startMode handle mode).2 := by
  cases hc : g.get? handle with
  | none =>
    simp only [startMode, hc]
    exact .same (.refl g)
  | some c =>
    cases hs : c.life.state.isBound with
    | false =>
      simp only [startMode, hc, hs]
      exact .same (.refl g)
    | true =>
      by_cases hm : c.life.mode = mode
      · simp only [startMode, hc, hs, hm]
        exact .same (.refl g)
      · cases ho : (c.front.hookOutcome .applyMode).refusal? .applyMode with
        | some e =>
          rw [startMode_of_refusal hc hs hm ho]
          exact .same (.of_connections rfl rfl rfl)
        | none =>
          obtain ⟨g', hg', hfront⟩ := startMode_of_done hc hs hm (Outcome.refusal?_eq_none.1 ho)
          rw [hg']
          exact hfront.livesStep (life?_of_get? hc) (.setMode mode hs)

/-! ## Connections come and go -/

theorem life?_addConnection (c : Connection) (k : Nat) :
    (g.addConnection c).2.life? k = if k = g.connections.length then some c.life else g.life? k := by
  simp only [life?, front?, get?_addConnection]
  by_cases hk : k = g.connections.length
  · simp only [if_pos hk, Option.map_some]
    rfl
  · simp only [if_neg hk]

theorem lives_create (type : ConnectionType) : LivesStep g (g.create type).2 := by
  have hrefer (g : Gateway) (handle : Nat) : SameLives g (g.refer handle).2 :=
    .of_connections rfl rfl rfl
  simp only [create, obtain]
  cases hp : g.pool type with
  | cons handle rest => exact .same ((SameLives.withPool type rest).trans (hrefer _ handle))
  | nil =>
    cases type with
    | rtp =>
      refine .arrive [g.connections.length] (fun k => ?_) ?_ rfl
      · exact life?_addConnection _ _ k
      · simp [build, addConnection, refer]
    | internal =>
      refine .arrive [] (fun k => ?_) ?_ ?_
      · exact life?_addConnection _ _ k
      · simp [build, addConnection, refer]
      · simp [build, addConnection, refer]

theorem lives_adopt (id : UInt32) (hooks : Hooks) : LivesStep g (g.adopt id hooks).2 := by
  refine .arrive [] (fun k => life?_addConnection g _ k) ?_ ?_
  · simp [adopt, addConnection, refer]
  · simp [adopt, addConnection, refer]

theorem lives_giveUp (reference : Nat) : LivesStep g (g.giveUp reference) := by
  simp only [giveUp]
  split
  · exact .same (.refl g)
  · rename_i handle _
    simp only [reap]
    split
    · exact .same (.of_connections rfl rfl rfl)
    · refine .leave handle (fun k => ?_) (by simp) rfl
      simp only [life?, front?, get?, List.getElem?_set]
      by_cases hk : k = handle
      · subst hk
        simp only [if_true]
        split <;> rfl
      · simp only [if_neg hk, if_neg (Ne.symm hk)]

theorem lives_recycle : LivesStep g (g.recycle handle).2 := by
  have hdetach : SameLives g (g.modify handle Connection.detach) := .modify fun _ => rfl
  simp only [recycle]
  split
  · exact .same (.refl g)
  · split
    · exact .same (.refl g)
    · split
      · exact .same (.refl g)
      · split
        · exact .same (hdetach.trans (.withPool _ _))
        · exact .same hdetach

end Operations

/-! ## All changes -/

theorem Restock.lives (h : Restock g g') : LivesStep g g' := by
  cases h with
  | create type => exact lives_create g type
  | adopt id hooks => exact lives_adopt g id hooks
  | recycle handle => exact lives_recycle g handle
  | giveUp reference => exact lives_giveUp g reference

theorem Setting.sameLives (h : Setting g g') : SameLives g g' := by
  cases h with
  | setHook handle hook outcome =>
    exact .modify fun c => by cases hl : c.leg <;> simp
  | addListener handle l => exact .modify fun _ => rfl
  | removeListener handle key => exact .modify fun _ => rfl
  | setFailureListener handle l => exact .modify fun _ => rfl
  | attachEndpoint handle e =>
    have hdrop : SameLives g (g.dropEndpoint e.name) := .of_connections rfl rfl rfl
    have hown : SameLives (g.dropEndpoint e.name) ((g.dropEndpoint e.name).modify handle fun c =>
        { c with endpoint := some (g.dropEndpoint e.name).endpoints.length }) := .modify fun _ => rfl
    exact (hdrop.trans hown).trans (.of_connections rfl rfl rfl)
  | dropEndpoint name => exact .of_connections rfl rfl rfl
  | installSink handle => exact (SameLives.modifyCall _).trans (.of_connections rfl rfl rfl)
  | fetchFrames sink => exact .of_connections rfl rfl rfl
  | dropSink sink => exact .of_connections rfl rfl rfl

/-- What one change makes of lives and tasks. -/
theorem Change.lives (h : Change g g') : LivesStep g g' := by
  have hexchange (handle : Nat) (call : Call) (ports : PortRange) (e : SessionError) :
      LivesStep g (((g.putCall handle call ports).countNegotiation e).startFail handle).2 :=
    (lives_startFail _ handle).after ((SameLives.putCall g handle call ports).trans
      (.countNegotiation _ e))
  cases h with
  | bind handle => exact lives_startBind g handle
  | «open» handle generation => exact lives_startOpen g handle generation
  | close handle => exact lives_startClose g handle
  | fail handle => exact lives_startFail g handle
  | setMode handle mode => exact lives_startMode g handle mode
  | link ha hb hne hga hgb => exact .same (.of_behind ((Behind.modifyLink _).trans (.modifyLink _)))
  | unlink handle => exact .same (.of_behind .unlink)
  | receive handle => exact .same (.of_behind (.modifyLink _))
  | offer hb hm => exact .same (.putCall _ _ _ _)
  | offerFailed hb hm => exact hexchange _ _ _ _
  | answer hb hm => exact (lives_startOpen _ _ _).after (.putCall _ _ _ _)
  | answerFailed hb hm => exact hexchange _ _ _ _
  | accept hb hm => exact (lives_startOpen _ _ _).after (.putCall _ _ _ _)
  | acceptFailed hb hm => exact hexchange _ _ _ _
  | poll hc hcall hbound hp =>
    exact .same ((SameLives.modifyCall _).trans (.of_connections rfl rfl rfl))
  | play hc hcall => exact .same ((SameLives.modifyCall _).trans (.fillSink _ _ _))
  | transmit hc hcall hs ht =>
    exact .same ((SameLives.modifyCall _).trans (.of_connections rfl rfl rfl))
  | arrive handle media a => exact .same (.modifyCall _)
  | note e => exact .same (.of_connections rfl rfl rfl)
  | elapse millis => exact .same (.of_connections rfl rfl rfl)
  | clearLog => exact .same (.of_connections rfl rfl rfl)

end MediaGateway.Gateway
