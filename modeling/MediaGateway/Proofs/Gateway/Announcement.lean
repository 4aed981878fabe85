import MediaGateway.Proofs.Gateway.CallView

/-!
# Announcements and ends

Where listeners only do business of their own, an announcement adds to what others have noticed and
changes nothing else. The end of a connection with a call is then known in every detail.
-/

namespace MediaGateway

/-- No listener starts operations of the gateway. -/
def Connection.IsQuiet (c : Connection) : Prop :=
  ∀ l ∈ c.listeners, ∃ outcome, l.reaction = .finish outcome

/-- What others notice of an announcement, given the listeners: each listener the transition, then the
endpoint the mode and the end, and last the failure listener the failure. -/
def Announcement.events (a : Announcement) (listeners : List Listener) : List Event :=
  (match a.change with
    | some (old, new) => listeners.map fun l => .transition l.name a.id old new
    | none => []) ++
  (match a.endpoint with
    | some e =>
      (a.mode.map fun (old, new) => Event.modeUpdated e.name old new).toList ++
        if a.release then [.released e.name a.id a.type] else []
    | none => []) ++
  (a.failure.map fun l => Event.failed l.name).toList

namespace Gateway

variable {g : Gateway} {handle : Nat} {c : Connection}

/-- The gateway after others noticed events. -/
def noteAll (g : Gateway) (events : List Event) : Gateway := { g with log := g.log ++ events }

theorem noteAll_noteAll (g : Gateway) (events events' : List Event) :
    (g.noteAll events).noteAll events' = g.noteAll (events ++ events') := by
  simp [noteAll]

theorem foldl_tellListener (tell : Announcer) (id : UInt32)
    (change : ConnectionState × ConnectionState) (listeners : List Listener) (g : Gateway)
    (h : ∀ l ∈ listeners, ∃ outcome, l.reaction = .finish outcome) :
    listeners.foldl (tellListener tell id change) g =
      g.noteAll (listeners.map fun l => .transition l.name id change.1 change.2) := by
  induction listeners generalizing g with
  | nil => simp [noteAll]
  | cons l rest ih =>
    obtain ⟨⟨outcome, hl⟩, hrest⟩ := List.forall_mem_cons.1 h
    have htell : tellListener tell id change g l =
        g.noteAll [.transition l.name id change.1 change.2] := by
      simp only [tellListener, hl, react, dispatchGuarded_snd, ite_self]
      rfl
    rw [List.foldl_cons, htell, ih _ hrest, noteAll_noteAll]
    rfl

theorem tellEndpoint_eq (a : Announcement) (g : Gateway) :
    tellEndpoint a g = g.noteAll (match a.endpoint with
      | some e =>
        (a.mode.map fun (old, new) => Event.modeUpdated e.name old new).toList ++
          if a.release then [.released e.name a.id a.type] else []
      | none => []) := by
  simp only [tellEndpoint]
  cases a.endpoint with
  | none => simp [noteAll]
  | some e =>
    cases a.mode <;> cases a.release <;> simp [noteAll, note]

theorem tellFailure_eq (a : Announcement) (g : Gateway) :
    tellFailure a g = g.noteAll (a.failure.map fun l => Event.failed l.name).toList := by
  simp only [tellFailure]
  cases a.failure <;> simp [noteAll, note]

/-- With quiet listeners, an announcement is noticed, and that is all. -/
theorem announceAll_eq (a : Announcement) (hc : g.get? a.handle = some c) (hq : c.IsQuiet) :
    announceAll a g = g.noteAll (a.events c.listeners) := by
  have hall : announceAll a g =
      tellFailure a (tellEndpoint a (tellListeners (announce (maxDepth - 1)) a g)) := rfl
  have hlisteners : tellListeners (announce (maxDepth - 1)) a g = g.noteAll (match a.change with
      | some (old, new) => c.listeners.map fun l => .transition l.name a.id old new
      | none => []) := by
    simp only [tellListeners]
    cases a.change with
    | none => simp [noteAll]
    | some change =>
      simp only [hc, Option.map_some, Option.getD_some]
      exact foldl_tellListener _ a.id change c.listeners g hq
  rw [hall, hlisteners, tellEndpoint_eq, tellFailure_eq, noteAll_noteAll, noteAll_noteAll]
  simp only [Announcement.events, List.append_assoc]

/-! ## Entering a state -/

/-- Entering a state concerns the connection, the tasks and the number of open connections. -/
theorem enter_eq (g : Gateway) (handle : Nat) (state : ConnectionState) :
    ∃ connections scheduler openConnections, g.enter handle state =
      { g with
        connections := connections
        scheduler := scheduler
        metrics := { g.metrics with openConnections := openConnections } } := by
  simp only [enter]
  split
  · exact ⟨_, _, _, rfl⟩
  · simp only [countOpen, submitHeartbeat]
    split <;> exact ⟨_, _, _, rfl⟩

theorem get?_enter (g : Gateway) (handle k : Nat) (state : ConnectionState) :
    (g.enter handle state).get? k =
      if k = handle then (g.get? handle).map fun c => { c with
        life := (c.life.enter g.config.timeouts g.scheduler.resolution state).1 }
      else g.get? k := by
  simp only [enter]
  cases hc : g.get? handle with
  | none =>
    by_cases hk : k = handle
    · simp [hk, hc]
    · simp [hk]
  | some c =>
    have hget (g : Gateway) (epoch? : Option Nat) (old : ConnectionState) :
        ((g.submitHeartbeat handle epoch?).countOpen old state).get? k = g.get? k := by
      cases epoch? <;> rfl
    simp only
    rw [hget, get?_put, hc]
    rfl

/-! ## The end of a call -/

/-- What is announced about the end of a connection with a call. -/
def endOfCall (g : Gateway) (handle : Nat) (c : Connection) (failed : Bool) : Announcement where
  handle
  id := c.id
  type := .rtp
  change := some (c.life.state, .null)
  mode := if c.life.mode = .inactive then none else some (c.life.mode, .inactive)
  endpoint := g.endpointOf? c
  release := true
  failure := if failed then c.failureListener else none

/-- The gateway when a connection with a call has come to its end, before the end is counted. -/
def endCall (g : Gateway) (handle : Nat) : Gateway :=
  (((g.modifyCall handle Call.close).modify handle
    fun c => { c with life := { c.life with mode := .inactive } }).enter handle .null).modify handle
      fun c => { c with endpoint := none, failureListener := none }

/-- The end of a connection concerns the connection, the tasks and the number of open connections. -/
theorem endCall_eq (g : Gateway) (handle : Nat) :
    ∃ connections scheduler openConnections, g.endCall handle =
      { g with
        connections := connections
        scheduler := scheduler
        metrics := { g.metrics with openConnections := openConnections } } := by
  obtain ⟨connections, scheduler, openConnections, h⟩ :=
    enter_eq ((g.modifyCall handle Call.close).modify handle
      fun c => { c with life := { c.life with mode := .inactive } }) handle .null
  refine ⟨(g.endCall handle).connections, scheduler, openConnections, ?_⟩
  rw [endCall, h]
  rfl

theorem teardown_eq {call : Call} (hl : c.leg = .call call) :
    g.teardown handle c true =
      (g.endOfCall handle c true,
        { g.endCall handle with
          metrics := { (g.endCall handle).metrics with
            failures := (g.endCall handle).metrics.failures + 1 } }) := by
  have htype : c.type = .rtp := by simp [Connection.type, hl, Leg.type]
  have hteardown : g.teardown handle c true =
      ({ handle, id := c.id, type := c.type
         change := some (c.life.state, .null)
         mode := if c.life.mode = .inactive then none else some (c.life.mode, .inactive)
         endpoint := (g.endCall handle).endpointOf? c
         release := true
         failure := c.failureListener },
        { g.endCall handle with
          metrics := { (g.endCall handle).metrics with
            failures := (g.endCall handle).metrics.failures + 1 } }) := by
    simp only [teardown, callHook, hl]
    rfl
  have hendpoint : (g.endCall handle).endpointOf? c = g.endpointOf? c := by
    obtain ⟨connections, scheduler, openConnections, h⟩ := endCall_eq g handle
    rw [h]
    rfl
  rw [hteardown, hendpoint, htype]
  rfl

/-- The connection after its end: idle, with its call closed, and without an endpoint and a failure
listener. -/
theorem get?_endCall {call : Call} (hc : g.get? handle = some c) (hl : c.leg = .call call) :
    ∃ life, life.state = .null ∧ life.mode = .inactive ∧
      (g.endCall handle).get? handle = some { c with
        leg := .call call.close
        life := life
        endpoint := none
        failureListener := none } := by
  have hlife (l : Lifecycle) (t : Timeouts) (r : UInt32) :
      (l.enter t r .null).1.state = .null ∧ (l.enter t r .null).1.mode = l.mode := by
    simp only [Lifecycle.enter, Lifecycle.rearm]
    repeat' split
    all_goals exact ⟨rfl, rfl⟩
  refine ⟨({ c.life with mode := .inactive }.enter g.config.timeouts g.scheduler.resolution
    .null).1, (hlife _ _ _).1, (hlife _ _ _).2, ?_⟩
  simp only [endCall, modifyCall, get?_modify, get?_enter, if_true, hc, hl, Option.map_some]
  rfl

end Gateway

end MediaGateway
