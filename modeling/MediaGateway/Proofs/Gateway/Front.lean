import MediaGateway.Proofs.Connection.Lifecycle
import MediaGateway.Proofs.Gateway.Announcement

/-!
# Fronts of connections

The front of a connection is all of it but the media behind it. Hooks work behind the fronts: what
an operation on a connection does to fronts, before anybody is told of it, is said here once for
every operation, whatever the media is.
-/

namespace MediaGateway

/-- What of a connection is not about its media. -/
structure Front where
  /-- The number. -/
  id : UInt32
  /-- The type. -/
  type : ConnectionType
  /-- How the hooks end, if they belong to someone else. -/
  hooks : Option Hooks
  /-- What the state machine knows. -/
  life : Lifecycle
  /-- Who owns the connection. -/
  endpoint : Option Nat
  /-- Who is told about transitions. -/
  listeners : List Listener
  /-- Who is told if the connection fails. -/
  failureListener : Option FailureListener

namespace Front

/-- The front with another life. -/
def withLife (f : Front) (life : Lifecycle) : Front := { f with life }

/-- How a hook of the connection ends. -/
def hookOutcome (f : Front) (h : Hook) : Outcome :=
  (f.hooks.map fun hooks => hooks.outcome h).getD .done

/-- What others notice of a call of a hook. -/
def hookEvents (f : Front) (call : HookCall) : List Event :=
  (f.hooks.map fun _ => Event.hookCalled call).toList

/-- No listener starts operations of the gateway. -/
def IsQuiet (f : Front) : Prop :=
  ∀ l ∈ f.listeners, ∃ outcome, l.reaction = .finish outcome

end Front

/-- The error of an operation whose hook ended like this. -/
def Outcome.refusal? (h : Hook) : Outcome → Option ConnectionError
  | .done => none
  | .refused reason => some (.hook h reason)
  | .panicked reason => some (.panicked reason)

theorem Outcome.refusal?_eq_none {h : Hook} {o : Outcome} : o.refusal? h = none ↔ o = .done := by
  cases o <;> simp [refusal?]

namespace Connection

/-- How the hooks end, if they belong to someone else. -/
def hooks? (c : Connection) : Option Hooks :=
  match c.leg with
  | .foreign hooks => some hooks
  | _ => none

/-- The front of a connection. -/
def front (c : Connection) : Front where
  id := c.id
  type := c.type
  hooks := c.hooks?
  life := c.life
  endpoint := c.endpoint
  listeners := c.listeners
  failureListener := c.failureListener

@[simp] theorem life_front (c : Connection) : c.front.life = c.life := rfl

/-- The connection with another number of heartbeats left. -/
def withTtl (n : Nat) (c : Connection) : Connection :=
  { c with life := { c.life with ttl := n } }

end Connection

namespace Gateway

variable {g g' g'' : Gateway} {handle : Nat} {c : Connection} {f f' : Front}

/-- The front of the connection at a place. -/
def front? (g : Gateway) (handle : Nat) : Option Front :=
  (g.get? handle).map Connection.front

/-- The life of the connection at a place. -/
def life? (g : Gateway) (handle : Nat) : Option Lifecycle :=
  (g.front? handle).map Front.life

theorem front?_of_get? (hc : g.get? handle = some c) : g.front? handle = some c.front := by
  simp [front?, hc]

theorem life?_of_get? (hc : g.get? handle = some c) : g.life? handle = some c.life := by
  simp [life?, front?, hc, Connection.front]

theorem life?_of_front? (hf : g.front? handle = some f) : g.life? handle = some f.life := by
  rw [life?, hf]
  rfl

theorem get?_of_front? (hf : g.front? handle = some f) :
    ∃ c, g.get? handle = some c ∧ c.front = f :=
  Option.map_eq_some_iff.1 hf

theorem length_modify (g : Gateway) (handle : Nat) (u : Connection → Connection) :
    (g.modify handle u).connections.length = g.connections.length := by
  simp [modify]

/-! ## Behind the fronts -/

/-- Only what is behind fronts may have changed. -/
structure Behind (g g' : Gateway) : Prop where
  fronts : ∀ k, g'.front? k = g.front? k
  places : g'.connections.length = g.connections.length
  rest : g' = { g with connections := g'.connections }

namespace Behind

theorem refl (g : Gateway) : Behind g g := ⟨fun _ => rfl, rfl, rfl⟩

theorem trans (h : Behind g g') (h' : Behind g' g'') : Behind g g'' where
  fronts := fun k => (h'.fronts k).trans (h.fronts k)
  places := h'.places.trans h.places
  rest := by
    rw [h'.rest, h.rest]

theorem modify {u : Connection → Connection} (hu : ∀ c, (u c).front = c.front) :
    Behind g (g.modify handle u) where
  fronts := map_get?_modify fun c _ => hu c
  places := length_modify g handle u
  rest := rfl

theorem modifyCall (u : Call → Call) : Behind g (g.modifyCall handle u) := by
  refine modify fun c => ?_
  cases hl : c.leg <;>
    simp [Connection.front, Connection.type, Connection.hooks?, Leg.type, hl]

theorem modifyLink (u : Link → Link) : Behind g (g.modifyLink handle u) := by
  refine modify fun c => ?_
  cases hl : c.leg <;>
    simp [Connection.front, Connection.type, Connection.hooks?, Leg.type, hl]

theorem unlink : Behind g (g.unlink handle) := by
  simp only [Gateway.unlink]
  split
  · exact .refl g
  · exact (modifyLink _).trans (modifyLink _)

theorem hookLink (call : HookCall) : Behind g (g.hookLink handle call) := by
  cases call with
  | created => exact modifyLink _
  | opened => exact .refl g
  | closed => exact unlink.trans (modifyLink _)
  | failed => exact unlink.trans (modifyLink _)
  | applyMode mode =>
    simp only [Gateway.hookLink]
    split
    · exact .refl g
    · exact modifyLink _

theorem hookCall (id : UInt32) (call : HookCall) : Behind g (g.hookCall handle id call) := by
  cases call with
  | opened => exact .refl g
  | _ => exact modifyCall _

end Behind

/-- A hook is noticed if it belongs to someone else; other hooks work behind the fronts. -/
theorem behind_callHook (g : Gateway) (handle : Nat) (c : Connection) (call : HookCall) :
    Behind (g.noteAll (c.front.hookEvents call)) (g.callHook handle c call).2 := by
  cases hl : c.leg with
  | call _ =>
    simp only [callHook, hl, Front.hookEvents, Connection.front, Connection.hooks?, noteAll]
    simpa using Behind.hookCall c.id call
  | link _ =>
    simp only [callHook, hl, Front.hookEvents, Connection.front, Connection.hooks?, noteAll]
    simpa using Behind.hookLink call
  | foreign hooks =>
    simp only [callHook, hl, Front.hookEvents, Connection.front, Connection.hooks?]
    exact .refl _

theorem callHook_of_done (g : Gateway) (handle : Nat) (call : HookCall)
    (ho : c.front.hookOutcome call.hook = .done) :
    ∃ g₀, g.callHook handle c call = (.done, g₀) ∧
      Behind (g.noteAll (c.front.hookEvents call)) g₀ := by
  refine ⟨_, Prod.ext ?_ rfl, behind_callHook g handle c call⟩
  rw [← ho]
  cases hl : c.leg <;> simp [callHook, Front.hookOutcome, Connection.front, Connection.hooks?, hl]

/-- A hook that did not do its work was noticed, and that is all. -/
theorem callHook_of_refusal (g : Gateway) (handle : Nat) (call : HookCall) {h : Hook}
    {e : ConnectionError} (ho : (c.front.hookOutcome call.hook).refusal? h = some e) :
    g.callHook handle c call = (c.front.hookOutcome call.hook, g.noteAll (c.front.hookEvents call)) := by
  cases hl : c.leg <;> simp_all [callHook, Front.hookOutcome, Connection.front, Connection.hooks?,
    Front.hookEvents, Outcome.refusal?, note, noteAll]

theorem afterHook_of_refusal {outcome : Outcome} {h : Hook} {e : ConnectionError}
    {next : Gateway → Started} (ho : outcome.refusal? h = some e) :
    afterHook h next (outcome, g) = (.error e, g) := by
  cases outcome <;> simp_all [Outcome.refusal?, afterHook]

/-! ## Another front -/

/-- The connection at a place has another front. Heartbeats may have been submitted for it and
transitions may have been counted; other fronts are as before. -/
structure Refronts (g g' : Gateway) (handle : Nat) (f : Front) (epoch? : Option Nat) : Prop where
  fronts : ∀ k, g'.front? k = if k = handle then some f else g.front? k
  places : g'.connections.length = g.connections.length
  rest : g' = { g with
    connections := g'.connections
    scheduler := (g.submitHeartbeat handle epoch?).scheduler
    metrics := g'.metrics }

namespace Refronts

variable {epoch? : Option Nat}

theorem front? (h : Refronts g g' handle f epoch?) : g'.front? handle = some f := by
  rw [h.fronts, if_pos rfl]

theorem scheduler (h : Refronts g g' handle f epoch?) :
    g'.scheduler = (g.submitHeartbeat handle epoch?).scheduler := by
  rw [h.rest]

theorem endpointOf? (h : Refronts g g' handle f epoch?) (c : Connection) :
    g'.endpointOf? c = g.endpointOf? c := by
  rw [h.rest]
  rfl

theorem of_behind (h' : Refronts g' g'' handle f epoch?) (h : Behind g g') :
    Refronts g g'' handle f epoch? where
  fronts := fun k => by rw [h'.fronts, h.fronts]
  places := h'.places.trans h.places
  rest := by
    rw [h'.rest, h.rest]
    cases epoch? <;> rfl

theorem trans (h : Refronts g g' handle f none) (h' : Refronts g' g'' handle f' epoch?) :
    Refronts g g'' handle f' epoch? where
  fronts := fun k => by
    rw [h'.fronts, h.fronts]
    by_cases hk : k = handle
    · simp [hk]
    · simp [hk]
  places := h'.places.trans h.places
  rest := by
    rw [h'.rest, h.rest]
    cases epoch? <;> rfl

theorem modify {u : Connection → Connection} (hf : g.front? handle = some f)
    (hu : ∀ c, c.front = f → (u c).front = f') : Refronts g (g.modify handle u) handle f' none where
  fronts := by
    intro k
    obtain ⟨c, hc, hcf⟩ := get?_of_front? hf
    simp only [Gateway.front?, get?_modify]
    by_cases hk : k = handle
    · simp only [if_pos hk, hc, Option.map_some, hu c hcf]
    · simp only [if_neg hk]
  places := length_modify g handle u
  rest := rfl

theorem enter (hf : g.front? handle = some f) (state : ConnectionState) :
    Refronts g (g.enter handle state) handle
      (f.withLife (f.life.enter g.config.timeouts g.scheduler.resolution state).1)
      (f.life.enter g.config.timeouts g.scheduler.resolution state).2 := by
  obtain ⟨c, hc, rfl⟩ := get?_of_front? hf
  have hlife : c.front.life = c.life := rfl
  refine ⟨fun k => ?_, ?_, ?_⟩
  · simp only [Gateway.front?, get?_enter]
    by_cases hk : k = handle
    · simp only [if_pos hk, hc, Option.map_some]
      rfl
    · simp only [if_neg hk]
  · have hplaces (g : Gateway) (epoch? : Option Nat) (old : ConnectionState) :
        ((g.submitHeartbeat handle epoch?).countOpen old state).connections = g.connections := by
      cases epoch? <;> rfl
    simp only [Gateway.enter, hc]
    rw [hplaces]
    exact length_modify _ _ _
  · simp only [Gateway.enter, hc, hlife]
    cases (c.life.enter g.config.timeouts g.scheduler.resolution state).2 <;> rfl

theorem enterNull (hf : g.front? handle = some f) :
    Refronts g (g.enter handle .null) handle
      (f.withLife (f.life.enter g.config.timeouts g.scheduler.resolution .null).1) none := by
  have henter := enter hf .null
  rw [show (f.life.enter g.config.timeouts g.scheduler.resolution .null).2 = none by
    rw [Lifecycle.enter_null]] at henter
  exact henter

theorem and_metrics (h : Refronts g g' handle f epoch?) (metrics : Metrics) :
    Refronts g { g' with metrics } handle f epoch? where
  fronts := h.fronts
  places := h.places
  rest := by
    rw [h.rest]

end Refronts

theorem metrics_enter (g : Gateway) (handle : Nat) (state : ConnectionState) :
    ∃ openConnections, (g.enter handle state).metrics = { g.metrics with openConnections } := by
  obtain ⟨connections, scheduler, openConnections, h⟩ := enter_eq g handle state
  exact ⟨openConnections, by rw [h]⟩

/-! ## Changes of one connection after the other -/

theorem modify_comm (g : Gateway) (a b : Nat) {u v : Connection → Connection}
    (h : ∀ c, u (v c) = v (u c)) : (g.modify a u).modify b v = (g.modify b v).modify a u := by
  have hcomm (c? : Option Connection) :
      (c?.map u).map v = (c?.map v).map u := by
    cases c? with
    | none => rfl
    | some c => exact congrArg some (h c).symm
  have hlist : (g.connections.modify a (Option.map u)).modify b (Option.map v) =
      (g.connections.modify b (Option.map v)).modify a (Option.map u) := by
    refine List.ext_getElem? fun k => ?_
    simp only [List.getElem?_modify]
    by_cases ha : a = k <;> by_cases hb : b = k <;> cases g.connections[k]? <;> simp [ha, hb, hcomm]
  simp only [modify, hlist]

theorem modify_modify (g : Gateway) (handle : Nat) (u v : Connection → Connection) :
    (g.modify handle u).modify handle v = g.modify handle fun c => v (u c) := by
  have hlist : (g.connections.modify handle (Option.map u)).modify handle (Option.map v) =
      g.connections.modify handle (Option.map fun c => v (u c)) := by
    refine List.ext_getElem? fun k => ?_
    simp only [List.getElem?_modify]
    by_cases hk : handle = k <;> cases g.connections[k]? <;> simp [hk, Function.comp_def]
  simp only [modify, hlist]

theorem modify_congr {u v : Connection → Connection}
    (h : ∀ c, g.get? handle = some c → u c = v c) : g.modify handle u = g.modify handle v := by
  have hlist : g.connections.modify handle (Option.map u) =
      g.connections.modify handle (Option.map v) := by
    refine List.ext_getElem? fun k => ?_
    simp only [List.getElem?_modify]
    by_cases hk : handle = k
    · subst hk
      rcases hl : g.connections[handle]? with _ | _ | c
      · rfl
      · rfl
      · simp [h c (by simp [get?, hl])]
    · simp [hk]
  simp only [modify, hlist]

theorem modify_of_none (hc : g.get? handle = none) (u : Connection → Connection) :
    g.modify handle u = g := by
  have hid : g.modify handle id = g := by simp [modify]
  rw [modify_congr (v := id) fun c h => by simp [hc] at h, hid]

/-! ## Operations before the announcement -/

/-- The life of a connection that is bound. -/
def boundLife (g : Gateway) (l : Lifecycle) : Lifecycle × Option Nat :=
  { l with generation := l.generation + 1 }.enter g.config.timeouts g.scheduler.resolution .halfOpen

/-- The life of a connection that is opened. -/
def openedLife (g : Gateway) (l : Lifecycle) : Lifecycle × Option Nat :=
  l.enter g.config.timeouts g.scheduler.resolution .opened

/-- The life of a connection that came to its end. -/
def endedLife (g : Gateway) (l : Lifecycle) : Lifecycle :=
  ({ l with mode := .inactive }.enter g.config.timeouts g.scheduler.resolution .null).1

/-- The front of a connection that came to its end. -/
def endedFront (g : Gateway) (f : Front) : Front :=
  { f.withLife (g.endedLife f.life) with endpoint := none, failureListener := none }

/-- What is announced about the end of a connection. -/
def ending (g : Gateway) (handle : Nat) (f : Front) (failed : Bool) : Announcement where
  handle
  id := f.id
  type := f.type
  change := some (f.life.state, .null)
  mode := if f.life.mode = .inactive then none else some (f.life.mode, .inactive)
  endpoint := (f.endpoint.bind (g.endpoints[·]?)).filter Endpoint.alive
  release := true
  failure := if failed then f.failureListener else none

/-- The gateway when a connection whose hook was called has come to its end, before the end is
counted. -/
def ended (g : Gateway) (handle : Nat) : Gateway :=
  ((g.modify handle fun c => { c with life := { c.life with mode := .inactive } }).enter handle
    .null).modify handle fun c => { c with endpoint := none, failureListener := none }

theorem refronts_ended (hf : g.front? handle = some f) :
    Refronts g (g.ended handle) handle (g.endedFront f) none ∧
      (g.ended handle).metrics.failures = g.metrics.failures := by
  have hinactive : Refronts g
      (g.modify handle fun c => { c with life := { c.life with mode := .inactive } }) handle
      (f.withLife { f.life with mode := .inactive }) none :=
    .modify hf fun c hc =>
      congrArg (fun f : Front => f.withLife { f.life with mode := .inactive }) hc
  have hnull := hinactive.trans (.enterNull hinactive.front?)
  refine ⟨hnull.trans (.modify hnull.front? fun c hc => ?_), ?_⟩
  · exact congrArg (fun f : Front => { f with endpoint := none, failureListener := none }) hc
  · obtain ⟨openConnections, hmetrics⟩ := metrics_enter
      (g.modify handle fun c => { c with life := { c.life with mode := .inactive } }) handle .null
    have hfailures := congrArg Metrics.failures hmetrics
    exact hfailures

/-- The hook that is called at the end of a connection. -/
def endHook (failed : Bool) : HookCall :=
  if failed then .failed else .closed

theorem teardown_ended (g : Gateway) (handle : Nat) (c : Connection) (failed : Bool) :
    g.teardown handle c failed =
      ({ g.ending handle c.front failed with
          endpoint := ((g.callHook handle c (endHook failed)).2.ended handle).endpointOf? c },
        if failed then
          { (g.callHook handle c (endHook failed)).2.ended handle with
            metrics := { ((g.callHook handle c (endHook failed)).2.ended handle).metrics with
              failures :=
                ((g.callHook handle c (endHook failed)).2.ended handle).metrics.failures + 1 } }
        else (g.callHook handle c (endHook failed)).2.ended handle) := by
  cases failed <;> rfl

theorem get?_withTtl (hc : g.get? handle = some c) (n : Nat) :
    (g.modify handle (Connection.withTtl n)).get? handle = some (c.withTtl n) := by
  rw [get?_modify, if_pos rfl, hc]
  rfl

/-- What hooks do at the end of a connection does not depend on the time left. -/
theorem callHook_withTtl (hc : g.get? handle = some c) (n : Nat) (failed : Bool) :
    ((g.modify handle (Connection.withTtl n)).callHook handle (c.withTtl n) (endHook failed)).2 =
      (g.callHook handle c (endHook failed)).2.modify handle (Connection.withTtl n) := by
  have hlink (g : Gateway) (place : Nat) (u : Link → Link) :
      (g.modify handle (Connection.withTtl n)).modifyLink place u =
        (g.modifyLink place u).modify handle (Connection.withTtl n) := by
    refine modify_comm g handle place fun c => ?_
    cases hl : c.leg <;> simp [Connection.withTtl, hl]
  have hcall (g : Gateway) (u : Call → Call) :
      (g.modify handle (Connection.withTtl n)).modifyCall handle u =
        (g.modifyCall handle u).modify handle (Connection.withTtl n) := by
    refine modify_comm g handle handle fun c => ?_
    cases hl : c.leg <;> simp [Connection.withTtl, hl]
  have hleg : (c.withTtl n).leg = c.leg := rfl
  have hpeer : (((g.modify handle (Connection.withTtl n)).get? handle).bind Connection.link?).bind
      Link.peer = ((g.get? handle).bind Connection.link?).bind Link.peer := by
    rw [get?_withTtl hc n, hc]
    rfl
  have hunlink : (g.modify handle (Connection.withTtl n)).unlink handle =
      (g.unlink handle).modify handle (Connection.withTtl n) := by
    rw [unlink, hpeer, unlink]
    cases ((g.get? handle).bind Connection.link?).bind Link.peer with
    | none => rfl
    | some peer =>
      simp only
      rw [hlink, hlink]
  cases hl : c.leg with
  | call _ =>
    simp only [callHook, hleg, hl]
    cases failed <;> exact hcall g Call.close
  | link _ =>
    simp only [callHook, hleg, hl]
    cases failed <;> simp [endHook, hookLink, hunlink, hlink]
  | foreign hooks =>
    simp only [callHook, hleg, hl]
    rfl

theorem ended_withTtl (g : Gateway) (handle n : Nat) :
    (g.modify handle (Connection.withTtl n)).ended handle = g.ended handle := by
  have henter (g : Gateway) :
      (g.modify handle (Connection.withTtl n)).enter handle .null = g.enter handle .null := by
    cases hc : g.get? handle with
    | none => rw [modify_of_none hc]
    | some c =>
      simp only [enter, get?_withTtl hc, hc, put, modify_modify]
      rfl
  have hmode := modify_comm g handle handle (u := Connection.withTtl n)
    (v := fun c => { c with life := { c.life with mode := .inactive } }) fun _ => rfl
  rw [ended, hmode, henter]
  rfl

/-- The end of a connection does not depend on the time left. -/
theorem teardown_withTtl (hc : g.get? handle = some c) (n : Nat) (failed : Bool) :
    (g.modify handle (Connection.withTtl n)).teardown handle (c.withTtl n) failed =
      g.teardown handle c failed := by
  rw [teardown_ended, teardown_ended, callHook_withTtl hc, ended_withTtl]
  rfl

section Operations

variable (hc : g.get? handle = some c)
include hc

theorem startBind_of_refusal (hs : c.life.state = .null) {e : ConnectionError}
    (ho : (c.front.hookOutcome .created).refusal? .created = some e) :
    g.startBind handle = (.error e, g.noteAll (c.front.hookEvents .created)) := by
  have hcheck : c.check .binding = .ok (some .halfOpen) := check_eq_next.2 (by rw [hs]; rfl)
  simp only [startBind, hc, hcheck, callHook_of_refusal g handle .created ho]
  exact afterHook_of_refusal ho

theorem startBind_of_done (hs : c.life.state = .null) (ho : c.front.hookOutcome .created = .done) :
    ∃ g', g.startBind handle = (.ok (some
        { handle, id := c.id, type := c.type, change := some (.null, .halfOpen) }), g') ∧
      Refronts (g.noteAll (c.front.hookEvents .created)) g' handle
        (c.front.withLife (g.boundLife c.life).1) (g.boundLife c.life).2 := by
  have hcheck : c.check .binding = .ok (some .halfOpen) := check_eq_next.2 (by rw [hs]; rfl)
  obtain ⟨g₀, hg₀, hbehind⟩ := callHook_of_done g handle .created ho
  simp only [startBind, hc, hcheck, hg₀, afterHook, hs]
  refine ⟨_, rfl, .of_behind ?_ hbehind⟩
  have hfront : g₀.front? handle = some c.front := (hbehind.fronts handle).trans (front?_of_get? hc)
  have hcount := Refronts.modify (g := g₀)
    (u := fun c => { c with life := { c.life with generation := c.life.generation + 1 } })
    hfront fun c' hc' => congrArg (fun f : Front =>
      f.withLife { f.life with generation := f.life.generation + 1 }) hc'
  have henter := hcount.trans (.enter hcount.front? .halfOpen)
  rw [hbehind.rest] at henter ⊢
  exact henter

section Open

variable {generation : Option Nat} (hg : (generation.any fun n => !c.life.isCurrent n) = false)
include hg

theorem startOpen_of_refusal (hs : c.life.state = .halfOpen) {e : ConnectionError}
    (ho : (c.front.hookOutcome .opened).refusal? .opened = some e) :
    g.startOpen handle generation = (.error e, g.noteAll (c.front.hookEvents .opened)) := by
  have hcheck : c.check .opening = .ok (some .opened) := check_eq_next.2 (by rw [hs]; rfl)
  simp only [startOpen, hc, hg, hcheck, callHook_of_refusal g handle .opened ho]
  exact afterHook_of_refusal ho

theorem startOpen_of_done (hs : c.life.state = .halfOpen) (ho : c.front.hookOutcome .opened = .done) :
    ∃ g', g.startOpen handle generation = (.ok (some
        { handle, id := c.id, type := c.type, change := some (.halfOpen, .opened) }), g') ∧
      Refronts (g.noteAll (c.front.hookEvents .opened)) g' handle
        (c.front.withLife (g.openedLife c.life).1) (g.openedLife c.life).2 := by
  have hcheck : c.check .opening = .ok (some .opened) := check_eq_next.2 (by rw [hs]; rfl)
  obtain ⟨g₀, hg₀, hbehind⟩ := callHook_of_done g handle .opened ho
  simp only [startOpen, hc, hg, hcheck, hg₀, afterHook, hs]
  refine ⟨_, rfl, .of_behind ?_ hbehind⟩
  have henter := Refronts.enter ((hbehind.fronts handle).trans (front?_of_get? hc)) .opened
  rw [hbehind.rest] at henter ⊢
  exact henter

end Open

theorem startMode_of_refusal (hs : c.life.state.isBound = true) {mode : Mode}
    (hm : c.life.mode ≠ mode) {e : ConnectionError}
    (ho : (c.front.hookOutcome .applyMode).refusal? .applyMode = some e) :
    g.startMode handle mode = (.error e, g.noteAll (c.front.hookEvents (.applyMode mode))) := by
  simp only [startMode, hc, hs, hm, callHook_of_refusal g handle (.applyMode mode) ho]
  exact afterHook_of_refusal ho

theorem startMode_of_done (hs : c.life.state.isBound = true) {mode : Mode}
    (hm : c.life.mode ≠ mode) (ho : c.front.hookOutcome .applyMode = .done) :
    ∃ g', g.startMode handle mode = (.ok (some
        { handle, id := c.id, type := c.type, mode := some (c.life.mode, mode)
          endpoint := g.endpointOf? c }), g') ∧
      Refronts (g.noteAll (c.front.hookEvents (.applyMode mode))) g' handle
        (c.front.withLife { c.life with mode }) none := by
  obtain ⟨g₀, hg₀, hbehind⟩ := callHook_of_done g handle (.applyMode mode) ho
  have hmode : Refronts g₀ (g₀.modify handle fun c => { c with life := { c.life with mode } })
      handle (c.front.withLife { c.life with mode }) none :=
    .modify ((hbehind.fronts handle).trans (front?_of_get? hc)) fun c' hc' =>
      congrArg (fun f : Front => f.withLife { f.life with mode }) hc'
  have hset := hmode.of_behind hbehind
  refine ⟨_, ?_, hset⟩
  simp only [startMode, hc, hs, hm, hg₀, afterHook, Bool.not_true, Bool.false_eq_true, if_false,
    hset.endpointOf?]
  rfl

/-- The end of a connection, whatever its hook says. -/
theorem teardown_front (failed : Bool) :
    (g.teardown handle c failed).1 = g.ending handle c.front failed ∧
      Refronts (g.noteAll (c.front.hookEvents (endHook failed))) (g.teardown handle c failed).2 handle
        (g.endedFront c.front) none ∧
      (g.teardown handle c failed).2.metrics.failures =
        g.metrics.failures + if failed then 1 else 0 := by
  have hbehind := behind_callHook g handle c (endHook failed)
  have hteardown := teardown_ended g handle c failed
  generalize (g.callHook handle c (endHook failed)).2 = g₀ at hbehind hteardown
  obtain ⟨hended, hfailures⟩ :=
    refronts_ended ((hbehind.fronts handle).trans (front?_of_get? hc))
  have hfront : g₀.endedFront c.front = g.endedFront c.front := by
    rw [hbehind.rest]
    rfl
  have hmetrics : g₀.metrics = g.metrics := by
    rw [hbehind.rest]
    rfl
  rw [hfront] at hended
  rw [hmetrics] at hfailures
  have hall := hended.of_behind hbehind
  rw [hteardown]
  refine ⟨?_, ?_, ?_⟩
  · simp only [hall.endpointOf?]
    rfl
  · cases failed
    · exact hall
    · exact hall.and_metrics _
  · cases failed
    · simpa using hfailures
    · simpa using hfailures

theorem startClose_of_bound (hs : c.life.state.isBound = true) :
    g.startClose handle =
      (.ok (some (g.teardown handle c false).1), (g.teardown handle c false).2) := by
  have hcheck : c.check .closing = .ok (some .null) := by
    refine check_eq_next.2 ?_
    cases hl : c.life.state with
    | null => simp [hl, ConnectionState.isBound] at hs
    | halfOpen => rfl
    | opened => rfl
  simp only [startClose, hc, hcheck]

theorem startFail_of_bound (hs : c.life.state.isBound = true) :
    g.startFail handle =
      (.ok (some (g.teardown handle c true).1), (g.teardown handle c true).2) := by
  simp only [startFail, hc, hs, if_true]

end Operations

/-! ## Quiet listeners -/

theorem Refronts.noteAll {epoch? : Option Nat} (h : Refronts g g' handle f epoch?)
    (events : List Event) : Refronts (g.noteAll events) (g'.noteAll events) handle f epoch? where
  fronts := h.fronts
  places := h.places
  rest := by
    rw [h.rest]
    cases epoch? <;> rfl

/-- With quiet listeners, what was done to a connection is noticed, and that is all. -/
theorem Refronts.announceAll_eq {epoch? : Option Nat} (h : Refronts g g' handle f epoch?)
    (hq : f.IsQuiet) {a : Announcement} (ha : a.handle = handle) :
    announceAll a g' = g'.noteAll (a.events f.listeners) := by
  obtain ⟨c, hc, rfl⟩ := get?_of_front? h.front?
  exact Gateway.announceAll_eq a (ha ▸ hc) hq

/-- What others notice when a connection fails. -/
def failureEvents (g : Gateway) (handle : Nat) (f : Front) : List Event :=
  f.hookEvents .failed ++ (g.ending handle f true).events f.listeners

/-- With quiet listeners, a failure ends the connection, is noticed and counted, and that is all. -/
theorem failConnection_of_quiet (hc : g.get? handle = some c)
    (hs : c.life.state.isBound = true) (hq : c.front.IsQuiet) :
    Refronts (g.noteAll (g.failureEvents handle c.front)) (g.failConnection handle) handle
        (g.endedFront c.front) none ∧
      (g.failConnection handle).metrics.failures = g.metrics.failures + 1 := by
  obtain ⟨hending, hrefronts, hfailures⟩ := teardown_front hc true
  have hquiet : (g.endedFront c.front).IsQuiet := hq
  have htold := hrefronts.announceAll_eq hquiet (a := g.ending handle c.front true) rfl
  have hfail : g.failConnection handle =
      (g.teardown handle c true).2.noteAll ((g.ending handle c.front true).events c.listeners) := by
    rw [failConnection, startFail_of_bound hc hs, hending]
    exact htold
  rw [hfail]
  refine ⟨?_, hfailures⟩
  have hnoted := hrefronts.noteAll ((g.ending handle c.front true).events c.listeners)
  rwa [noteAll_noteAll] at hnoted

end Gateway

end MediaGateway
