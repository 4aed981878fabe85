import MediaGateway.Proofs.Gateway.Happening
import MediaGateway.Proofs.Gateway.Pooling

/-!
# Runs with quiet listeners

What an action does is spread over many pieces of work. With listeners that do not call back, it
comes down to little: something happens aside from states, links and those who watch (`Aside`),
connections fail (`Lapses`), or there is the one event that the action is about.
-/

namespace MediaGateway

/-- The front without the time that is left in its state. -/
def Front.untimed (f : Front) : Front := f.withLife { f.life with ttl := 0 }

theorem Front.untimed_eq_iff {f f' : Front} :
    f'.untimed = f.untimed ↔ f' = f.withLife { f.life with ttl := f'.life.ttl } := by
  constructor
  · intro h
    obtain ⟨id, type, hooks, life, endpoint, listeners, failureListener⟩ := f
    obtain ⟨id', type', hooks', life', endpoint', listeners', failureListener'⟩ := f'
    obtain ⟨state, mode, ttl, epoch, armed, generation⟩ := life
    obtain ⟨state', mode', ttl', epoch', armed', generation'⟩ := life'
    simp only [untimed, withLife, Front.mk.injEq, Lifecycle.mk.injEq, true_and] at h ⊢
    exact h
  · intro h
    rw [h]
    rfl

namespace Gateway

variable {g g' g'' : Gateway} {handle : Nat} {c : Connection}

/-- No listener starts operations of the gateway. -/
def Quiet (g : Gateway) : Prop := ∀ k f, g.front? k = some f → f.IsQuiet

theorem Quiet.of_get? (hq : g.Quiet) (hc : g.get? handle = some c) : c.IsQuiet :=
  hq handle c.front (front?_of_get? hc)

theorem Quiet.make (config : GatewayConfig) (environment : Environment) :
    (make config environment).Quiet := by
  intro k f hf
  simp [front?, get?, Gateway.make] at hf

/-! ## Aside from states, links and those who watch -/

/-- Nothing has happened to states, links and those who watch. Time may have been counted, calls may
have been worked on, and hooks may have been noticed. -/
structure Aside (g g' : Gateway) : Prop where
  fronts : ∀ k, (g'.front? k).map Front.untimed = (g.front? k).map Front.untimed
  links : ∀ k, g'.link? k = g.link? k
  places : g'.connections.length = g.connections.length
  log : ∃ calls : List HookCall, g'.log = g.log ++ calls.map Event.hookCalled
  endpoints : g'.endpoints = g.endpoints
  failures : g'.metrics.failures = g.metrics.failures

namespace Aside

theorem of_connections (hconnections : g'.connections = g.connections) (hlog : g'.log = g.log)
    (hendpoints : g'.endpoints = g.endpoints)
    (hfailures : g'.metrics.failures = g.metrics.failures) : Aside g g' where
  fronts := fun k => by simp only [front?, get?, hconnections]
  links := link?_of_connections hconnections
  places := congrArg List.length hconnections
  log := ⟨[], by simp [hlog]⟩
  endpoints := hendpoints
  failures := hfailures

theorem refl (g : Gateway) : Aside g g := .of_connections rfl rfl rfl rfl

theorem trans (h : Aside g g') (h' : Aside g' g'') : Aside g g'' where
  fronts := fun k => (h'.fronts k).trans (h.fronts k)
  links := fun k => (h'.links k).trans (h.links k)
  places := h'.places.trans h.places
  log := by
    obtain ⟨calls, hcalls⟩ := h.log
    obtain ⟨calls', hcalls'⟩ := h'.log
    exact ⟨calls ++ calls', by rw [hcalls', hcalls, List.map_append, List.append_assoc]⟩
  endpoints := h'.endpoints.trans h.endpoints
  failures := h'.failures.trans h.failures

theorem of_behind (h : Behind g g') (hlinks : ∀ k, g'.link? k = g.link? k) : Aside g g' where
  fronts := fun k => by rw [h.fronts]
  links := hlinks
  places := h.places
  log := ⟨[], by rw [h.rest]; simp⟩
  endpoints := by rw [h.rest]
  failures := by rw [h.rest]

theorem modifyCall (u : Call → Call) : Aside g (g.modifyCall handle u) :=
  .of_behind (.modifyCall u) (link?_modifyCall u)

/-- The time that is left in a state is no concern. -/
theorem modify {u : Connection → Connection} (hu : ∀ c, (u c).front.untimed = c.front.untimed)
    (hlink : ∀ c, (u c).link? = c.link?) : Aside g (g.modify handle u) where
  fronts := by
    intro k
    simp only [front?, Option.map_map]
    exact map_get?_modify (fun c _ => hu c) k
  links := link?_modify hlink
  places := length_modify g handle u
  log := ⟨[], by simp [Gateway.modify]⟩
  endpoints := rfl
  failures := rfl

theorem refresh (g : Gateway) (handle : Nat) : Aside g (g.refresh handle) := by
  refine .modify (fun c => ?_) fun c => rfl
  simp only [Lifecycle.refresh]
  split <;> rfl

theorem withTtl (g : Gateway) (handle n : Nat) :
    Aside g (g.modify handle (Connection.withTtl n)) :=
  .modify (fun _ => rfl) fun _ => rfl

theorem noteHook (g : Gateway) (f : Front) (call : HookCall) :
    Aside g (g.noteAll (f.hookEvents call)) where
  fronts := fun _ => rfl
  links := fun _ => rfl
  places := rfl
  log := by
    cases hh : f.hooks with
    | none => exact ⟨[], by simp [Gateway.noteAll, Front.hookEvents, hh]⟩
    | some hooks => exact ⟨[call], by simp [Gateway.noteAll, Front.hookEvents, hh]⟩
  endpoints := rfl
  failures := rfl

/-- Media that is worked on is counted packet by packet. -/
theorem metered {metrics : Metrics} (u : Call → Call)
    (hmetrics : metrics.control = g.metrics.control) :
    Aside g { g.modifyCall handle u with metrics } := by
  have hcall : Aside g (g.modifyCall handle u) := .modifyCall u
  exact hcall.trans (.of_connections rfl rfl rfl (congrArg ControlMetrics.failures hmetrics))

theorem putCall (g : Gateway) (handle : Nat) (call : Call) (ports : PortRange) :
    Aside g (g.putCall handle call ports) := by
  have hcall : Aside g (g.modifyCall handle fun _ => call) := .modifyCall _
  exact hcall.trans (.of_connections rfl rfl rfl rfl)

theorem countNegotiation (g : Gateway) (e : SessionError) : Aside g (g.countNegotiation e) := by
  unfold Gateway.countNegotiation
  split
  · exact .of_connections rfl rfl rfl rfl
  · exact .refl g

theorem fillSink (g : Gateway) (sink : Option Nat) (frames : List (MediaType × Frame)) :
    Aside g (g.fillSink sink frames) := by
  unfold Gateway.fillSink
  split
  · exact .refl g
  · exact .of_connections rfl rfl rfl rfl

/-- A connection is where it was, with its front as it was but for the time that is left. -/
theorem exists_front (h : Aside g g') {k : Nat} {f : Front} (hf : g.front? k = some f) :
    ∃ f', g'.front? k = some f' ∧ f'.untimed = f.untimed := by
  have hfront := h.fronts k
  rw [hf, Option.map_some, Option.map_eq_some_iff] at hfront
  exact hfront

theorem exists_front_before (h : Aside g g') {k : Nat} {f' : Front} (hf : g'.front? k = some f') :
    ∃ f, g.front? k = some f ∧ f'.untimed = f.untimed := by
  have hfront := h.fronts k
  rw [hf, Option.map_some, eq_comm, Option.map_eq_some_iff] at hfront
  obtain ⟨f, hf, heq⟩ := hfront
  exact ⟨f, hf, heq.symm⟩

theorem quiet (h : Aside g g') (hq : g.Quiet) : g'.Quiet := by
  intro k f' hf' l hl
  obtain ⟨f, hf, heq⟩ := h.exists_front_before hf'
  have hlisteners := congrArg Front.listeners heq
  exact hq k f hf l (by rwa [← show f'.listeners = f.listeners from hlisteners])

end Aside

/-! ## Events -/

theorem listeners_frontAfter (g : Gateway) (f : Front) (event : StateEvent) :
    (g.frontAfter f event).1.listeners = f.listeners := by
  cases event <;> rfl

theorem Happens.quiet {event : StateEvent} (h : Happens g g' handle event c) (hq : g.Quiet) :
    g'.Quiet := by
  intro k f hf l hl
  rw [h.fronts] at hf
  by_cases hk : k = handle
  · rw [if_pos hk] at hf
    rw [← Option.some.inj hf, listeners_frontAfter] at hl
    exact hq.of_get? h.get? l hl
  · rw [if_neg hk] at hf
    exact hq k f hf l hl

/-- What an event does that follows the transition table and is not refused. -/
theorem operate_of_next (hc : g.get? handle = some c) (hq : c.IsQuiet) {event : StateEvent}
    {state : ConnectionState} (hnext : c.life.state.on event = .next state)
    (ho : event.refusal? c.front = none) :
    (g.operate handle event).1 = .ok () ∧ Happens g (g.operate handle event).2 handle event c := by
  have hbound {event : StateEvent} (h : c.life.state.on event = .next .null) :
      c.life.state.isBound = true := by
    cases hs : c.life.state with
    | null => cases event <;> simp [hs, ConnectionState.on] at h
    | halfOpen | opened => rfl
  obtain rfl := ConnectionState.on_eq_next hnext
  cases event with
  | binding =>
    have hs : c.life.state = .null := by
      cases hs : c.life.state <;> simp [hs, ConnectionState.on] at hnext ⊢
    exact bindConnection_of_quiet hc hq hs (Outcome.refusal?_eq_none.1 ho)
  | opening =>
    have hs : c.life.state = .halfOpen := by
      cases hs : c.life.state <;> simp [hs, ConnectionState.on] at hnext ⊢
    have hany : (Option.any (fun n => !c.life.isCurrent n) none) = false := rfl
    exact openConnection_of_quiet hc hq hany hs (Outcome.refusal?_eq_none.1 ho)
  | closing => exact closeConnection_of_quiet hc hq (hbound hnext)
  | failing => exact ⟨rfl, failConnection_happens hc hq (hbound hnext)⟩

/-- An event does what the transition table says, or a hook is noticed at most. -/
theorem operate_cases (hq : g.Quiet) (handle : Nat) (event : StateEvent) :
    Aside g (g.operate handle event).2 ∨
      ∃ c, Happens g (g.operate handle event).2 handle event c := by
  cases hc : g.get? handle with
  | none =>
    refine .inl ?_
    cases event <;> simp only [operate, bindConnection, openConnection, closeConnection,
      failConnection, startBind, startOpen, startClose, startFail, hc, conclude] <;> exact .refl g
  | some c =>
    have hfollows := follows_operate hc event
    unfold Follows at hfollows
    split at hfollows
    · rw [hfollows]
      exact .inl (.refl g)
    · rw [hfollows]
      exact .inl (.refl g)
    · rename_i state hnext
      split at hfollows
      · rw [hfollows]
        exact .inl (.noteHook g c.front _)
      · rename_i ho
        exact .inr ⟨c, (operate_of_next hc (hq.of_get? hc) hnext ho).2⟩

/-! ## Failing -/

/-- Something that may happen under other work: it is aside, or a connection of some fails. -/
inductive Lapse (p : Nat → Prop) : Gateway → Gateway → Prop
  | aside {g₁ g₂} (h : Aside g₁ g₂) : Lapse p g₁ g₂
  | fail {g₁ g₂ k d} (hp : p k) (h : Happens g₁ g₂ k .failing d) : Lapse p g₁ g₂

/-- Any number of these. -/
abbrev Lapses (p : Nat → Prop) : Gateway → Gateway → Prop := Relation.ReflTransGen (Lapse p)

variable {p : Nat → Prop}

theorem Lapses.quiet (h : Lapses p g g') (hq : g.Quiet) : g'.Quiet := by
  induction h with
  | refl => exact hq
  | tail _ h ih =>
    cases h with
    | aside h => exact h.quiet ih
    | fail _ h => exact h.quiet ih

theorem lapses_of_aside (h : Aside g g') : Lapses p g g' := .single (.aside h)

theorem lapses_failConnection (hq : g.Quiet) (hp : p handle) :
    Lapses p g (g.failConnection handle) := by
  rcases operate_cases hq handle .failing with haside | ⟨c, h⟩
  · exact lapses_of_aside haside
  · exact .single (.fail hp h)

theorem lapses_failStep (hq : g.Quiet) (hp : p handle) (call : Call) (ports : PortRange)
    (e : SessionError) : Lapses p g ((g.putCall handle call ports).failStep handle e).2 := by
  have hcount : Aside g ((g.putCall handle call ports).countNegotiation e) :=
    (Aside.putCall g handle call ports).trans (.countNegotiation _ e)
  exact (lapses_of_aside hcount).trans (lapses_failConnection (hcount.quiet hq) hp)

section Work

variable (hq : g.Quiet) (hp : p handle)
include hq hp

theorem lapses_generateOffer (browser : Bool) : Lapses p g (g.generateOffer handle browser).2 := by
  simp only [generateOffer]
  split
  · exact .refl
  · split
    · exact .refl
    · split
      · exact lapses_of_aside (.putCall g handle _ _)
      · exact lapses_failStep hq hp _ _ _

theorem lapses_pollMedia : Lapses p g (g.pollMedia handle).2 := by
  simp only [pollMedia]
  split
  · exact .refl
  · split
    · exact .refl
    · rename_i call _
      have hmetrics := call.control_poll g.metrics g.now
      split
      · exact .refl
      · split
        · rename_i e call' metrics hpoll
          rw [hpoll] at hmetrics
          have hpolled : Aside g { g.modifyCall handle fun _ => call' with metrics } :=
            .metered _ hmetrics
          exact (lapses_of_aside hpolled).trans (lapses_failConnection (hpolled.quiet hq) hp)
        · rename_i n call' metrics hpoll
          rw [hpoll] at hmetrics
          have hpolled : Aside g { g.modifyCall handle fun _ => call' with metrics } :=
            .metered _ hmetrics
          by_cases hn : 0 < n
          · simp only [if_pos hn]
            exact lapses_of_aside (hpolled.trans (.refresh _ handle))
          · simp only [if_neg hn]
            exact lapses_of_aside hpolled

theorem lapses_pump : Lapses p g (g.pump handle).2 := by
  have hpoll := lapses_pollMedia hq hp
  simp only [pump]
  split
  · rename_i e g₁ h₁
    rw [h₁] at hpoll
    exact hpoll
  · rename_i n g₁ h₁
    rw [h₁] at hpoll
    split
    · exact hpoll
    · rename_i call _
      have hplay : Aside g₁ (g₁.modifyCall handle fun _ => (call.play g₁.now).2) := .modifyCall _
      exact hpoll.trans (lapses_of_aside (hplay.trans (.fillSink _ _ _)))

/-- The last heartbeat is a failure. -/
theorem lapses_heartbeat {hand : List Task} (ht : Timed hand g) (epoch : Nat) :
    Lapses p g (g.heartbeat handle epoch).2 := by
  cases hc : g.get? handle with
  | none =>
    rw [heartbeat_of_none hc]
  | some c =>
    by_cases hcur : c.life.armed = true ∧ c.life.epoch = epoch
    · obtain ⟨ha, rfl⟩ := hcur
      have hsound := ht.sound handle _ (life?_of_get? hc)
      by_cases hmore : 1 < c.life.ttl
      · rw [heartbeat_of_alive hc ha hmore]
        exact lapses_of_aside (.withTtl g handle _)
      · rw [heartbeat_of_expired hc ha (by omega) (hsound.isBound (hsound.armed.1 ha))]
        exact lapses_failConnection hq hp
    · rw [heartbeat_of_stale hc hcur]

end Work

theorem lapses_runTask (hq : g.Quiet) {task : Task} {hand : List Task} (ht : Timed hand g) :
    Lapses (fun _ => True) g (g.runTask task).2 := by
  cases task with
  | media handle =>
    simp only [runTask]
    split
    · exact lapses_pump hq trivial
    · exact .refl
  | heartbeat handle epoch => exact lapses_heartbeat hq trivial ht epoch

/-- Tasks let connections fail, by induction on the tasks. -/
theorem lapses_runTasks (hq : g.Quiet) {tasks hand : List Task} (ht : Timed (tasks ++ hand) g) :
    Lapses (fun _ => True) g (g.runTasks tasks).2 := by
  induction tasks generalizing g hand with
  | nil => exact .refl
  | cons task rest ih =>
    have htask : Lapses (fun _ => True) g (g.runTask task).2 := lapses_runTask hq ht
    have hrun : Timed (if (g.runTask task).1 then task :: (rest ++ hand) else rest ++ hand)
        (g.runTask task).2 := Timed.runTask ht
    have hrest : ∃ hand', Timed (rest ++ hand') (g.runTask task).2 := by
      cases hs : (g.runTask task).1 with
      | false =>
        rw [hs] at hrun
        exact ⟨hand, hrun⟩
      | true =>
        rw [hs] at hrun
        exact ⟨task :: hand, hrun.perm List.perm_middle.symm⟩
    obtain ⟨hand', hrest⟩ := hrest
    rw [runTasks_cons]
    exact htask.trans (ih (htask.quiet hq) hrest)

theorem lapses_tick (hq : g.Quiet) (ht : Timed [] g) (q : Queue) :
    Lapses (fun _ => True) g (g.tick q).2 := by
  have htake : Aside g (g.takeTasks q) := .of_connections rfl rfl rfl rfl
  have htaken : Timed (g.scheduler.pending q ++ []) (g.takeTasks q) := by
    rw [List.append_nil]
    exact ht.takeTasks q
  have hrun := lapses_runTasks (htake.quiet hq) htaken
  rw [tick_eq]
  exact ((lapses_of_aside htake).trans hrun).trans (lapses_of_aside (.of_connections rfl rfl rfl rfl))

end Gateway

end MediaGateway
