import MediaGateway.Proofs.Gateway.Counting
import MediaGateway.Proofs.Gateway.Transition

/-!
# Events with quiet listeners

Where listeners only do business of their own, an event concerns one connection. What has become of
the gateway then is said in full by `Happens`: which front the connection has now, what its hook did
to the links, and what others noticed. The links are seen through `Gateway.link?`, and `linksAfter`
says what each hook does to them.
-/

namespace MediaGateway

/-- The side of a link without a peer. -/
def Link.cut (l : Link) : Link := { l with peer := none }

/-- What a hook of the connection at a place makes of the link at another one. -/
def linksAfter (links : Nat → Option Link) (handle : Nat) : HookCall → Nat → Option Link
  | .created => fun k => if k = handle then (links k).map fun _ => {} else links k
  | .opened => links
  | .closed | .failed => fun k =>
    if k = handle then (links k).map fun _ => {}
    else if (links handle).bind Link.peer = some k then (links k).map Link.cut
    else links k
  | .applyMode mode => fun k =>
    if k = handle ∧ mode.receives = false then (links k).map Link.clear else links k

/-- The state that an event leads to. -/
def StateEvent.target : StateEvent → ConnectionState
  | .binding => .halfOpen
  | .opening => .opened
  | .closing | .failing => .null

theorem ConnectionState.on_eq_next {s state : ConnectionState} {event : StateEvent}
    (h : s.on event = .next state) : state = event.target := by
  cases s <;> cases event <;> cases h <;> rfl

namespace Gateway

variable {g g' g'' : Gateway} {handle : Nat} {c : Connection}

/-! ## The links -/

/-- The link behind the connection at a place. -/
def link? (g : Gateway) (handle : Nat) : Option Link :=
  (g.get? handle).bind Connection.link?

theorem link?_of_get? (hc : g.get? handle = some c) : g.link? handle = c.link? := by
  rw [link?, hc]
  rfl

theorem link?_of_connections (h : g'.connections = g.connections) (k : Nat) :
    g'.link? k = g.link? k := by
  rw [link?, link?, get?, get?, h]

theorem link?_modify {u : Connection → Connection} (hu : ∀ c, (u c).link? = c.link?) (k : Nat) :
    (g.modify handle u).link? k = g.link? k :=
  bind_get?_modify (fun c _ => hu c) k

theorem link?_modifyCall (u : Call → Call) (k : Nat) :
    (g.modifyCall handle u).link? k = g.link? k := by
  refine link?_modify (fun c => ?_) k
  cases hl : c.leg <;> simp [Connection.link?, hl]

theorem link?_modifyLink (u : Link → Link) (k : Nat) :
    (g.modifyLink handle u).link? k = if k = handle then (g.link? k).map u else g.link? k := by
  rw [link?, link?, modifyLink, get?_modify]
  by_cases hk : k = handle
  · subst hk
    rw [if_pos rfl, if_pos rfl]
    cases g.get? k with
    | none => rfl
    | some c => cases hl : c.leg <;> simp [Connection.link?, hl]
  · rw [if_neg hk, if_neg hk]

theorem link?_enter (state : ConnectionState) (k : Nat) :
    (g.enter handle state).link? k = g.link? k := by
  rw [link?, link?, get?_enter]
  by_cases hk : k = handle
  · subst hk
    rw [if_pos rfl]
    cases g.get? k <;> rfl
  · rw [if_neg hk]

theorem link?_unlink (k : Nat) :
    (g.unlink handle).link? k =
      if k = handle ∨ (g.link? handle).bind Link.peer = some k then (g.link? k).map Link.cut
      else g.link? k := by
  unfold unlink
  split
  · rename_i hnone
    have hnone : (g.link? handle).bind Link.peer = none := hnone
    rw [hnone]
    by_cases hk : k = handle
    · subst hk
      rw [if_pos (.inl rfl)]
      cases hl : g.link? k with
      | none => rfl
      | some l =>
        rw [hl] at hnone
        have hpeer : l.peer = none := hnone
        simp [Link.cut, ← hpeer]
    · rw [if_neg (by simp [hk])]
  · rename_i peer hpeer
    have hpeer : (g.link? handle).bind Link.peer = some peer := hpeer
    rw [link?_modifyLink, link?_modifyLink, hpeer]
    by_cases hk : k = handle <;> by_cases hp : k = peer
    · rw [if_pos hp, if_pos hk, if_pos (.inl hk), Option.map_map]
      rfl
    · rw [if_neg hp, if_pos hk, if_pos (.inl hk)]
      rfl
    · rw [if_pos hp, if_neg hk, if_pos (.inr (by rw [hp]))]
      rfl
    · have hne : some peer ≠ some k := fun h => hp (Option.some.inj h).symm
      rw [if_neg hp, if_neg hk, if_neg (by simp [hk, hne])]

theorem link?_ended (k : Nat) : (g.ended handle).link? k = g.link? k := by
  have hrelease (g : Gateway) : (g.modify handle fun c =>
      { c with endpoint := none, failureListener := none }).link? k = g.link? k :=
    link?_modify (by intro c; rfl) k
  have hmode : (g.modify handle fun c => { c with life := { c.life with mode := .inactive } }).link?
      k = g.link? k := link?_modify (by intro c; rfl) k
  unfold ended
  rw [hrelease, link?_enter, hmode]

/-- The end of a connection takes its link and its inbox away, and the link of its peer. -/
theorem link?_unlink_clear (k : Nat) :
    ((g.unlink handle).modifyLink handle Link.clear).link? k =
      linksAfter g.link? handle .closed k := by
  simp only [linksAfter]
  rw [link?_modifyLink, link?_unlink]
  by_cases hk : k = handle
  · rw [if_pos hk, if_pos hk, if_pos (.inl hk), Option.map_map]
    rfl
  · rw [if_neg hk, if_neg hk]
    by_cases hp : (g.link? handle).bind Link.peer = some k
    · rw [if_pos (.inr hp), if_pos hp]
    · rw [if_neg (by simp [hk, hp]), if_neg hp]

theorem link?_hookLink (call : HookCall) (k : Nat) :
    (g.hookLink handle call).link? k = linksAfter g.link? handle call k := by
  cases call with
  | created => exact link?_modifyLink _ k
  | opened => rfl
  | closed => exact link?_unlink_clear k
  | failed => exact link?_unlink_clear k
  | applyMode mode =>
    simp only [hookLink, linksAfter]
    cases hm : mode.receives with
    | true => simp
    | false => simpa [hm] using link?_modifyLink Link.clear k

/-- Where there is no link, hooks leave all links alone. -/
theorem linksAfter_of_none {links : Nat → Option Link} (h : links handle = none) (call : HookCall)
    (k : Nat) : linksAfter links handle call k = links k := by
  by_cases hk : k = handle
  · subst hk
    cases call <;> simp [linksAfter, h]
  · cases call <;> simp [linksAfter, hk, h]

theorem link?_callHook (hc : g.get? handle = some c) (call : HookCall) (k : Nat) :
    (g.callHook handle c call).2.link? k = linksAfter g.link? handle call k := by
  have hlink := link?_of_get? hc
  cases hl : c.leg with
  | link l =>
    simp only [callHook, hl]
    exact link?_hookLink call k
  | call _ =>
    have hnone : g.link? handle = none := by rw [hlink, Connection.link?, hl]
    rw [linksAfter_of_none hnone]
    simp only [callHook, hl]
    cases call with
    | opened => rfl
    | _ => exact link?_modifyCall _ k
  | foreign hooks =>
    have hnone : g.link? handle = none := by rw [hlink, Connection.link?, hl]
    rw [linksAfter_of_none hnone]
    simp only [callHook, hl]
    exact link?_of_connections rfl k

/-! ## One event -/

/-- The front that an event leads to, and the epoch for which heartbeats are submitted. -/
def frontAfter (g : Gateway) (f : Front) : StateEvent → Front × Option Nat
  | .binding => (f.withLife (g.boundLife f.life).1, (g.boundLife f.life).2)
  | .opening => (f.withLife (g.openedLife f.life).1, (g.openedLife f.life).2)
  | .closing | .failing => (g.endedFront f, none)

/-- What is announced about an event. -/
def announcement (g : Gateway) (handle : Nat) (f : Front) : StateEvent → Announcement
  | .binding => { handle, id := f.id, type := f.type, change := some (.null, .halfOpen) }
  | .opening => { handle, id := f.id, type := f.type, change := some (.halfOpen, .opened) }
  | .closing => g.ending handle f false
  | .failing => g.ending handle f true

/-- What others notice of an event. -/
def eventsOf (g : Gateway) (handle : Nat) (f : Front) (event : StateEvent) : List Event :=
  f.hookEvents event.hookCall ++ (g.announcement handle f event).events f.listeners

/-- An event of the transition table happened to a connection with quiet listeners. -/
structure Happens (g g' : Gateway) (handle : Nat) (event : StateEvent) (c : Connection) : Prop where
  get? : g.get? handle = some c
  allowed : c.life.state.on event = .next event.target
  fronts : ∀ k, g'.front? k = if k = handle then some (g.frontAfter c.front event).1 else g.front? k
  links : ∀ k, g'.link? k = linksAfter g.link? handle event.hookCall k
  places : g'.connections.length = g.connections.length
  log : g'.log = g.log ++ g.eventsOf handle c.front event
  endpoints : g'.endpoints = g.endpoints
  failures : g'.metrics.failures = g.metrics.failures + if event = .failing then 1 else 0

theorem Happens.of_started {g₁ : Gateway} (event : StateEvent) {epoch? : Option Nat}
    (hc : g.get? handle = some c) (hallowed : c.life.state.on event = .next event.target)
    (h : Refronts (g.noteAll (c.front.hookEvents event.hookCall)) g₁ handle
      (g.frontAfter c.front event).1 epoch?)
    (hlisteners : (g.frontAfter c.front event).1.listeners = c.listeners) (hq : c.IsQuiet)
    (hlinks : ∀ k, g₁.link? k = linksAfter g.link? handle event.hookCall k)
    (hfailures : g₁.metrics.failures = g.metrics.failures + if event = .failing then 1 else 0) :
    Happens g (announceAll (g.announcement handle c.front event) g₁) handle event c := by
  have hquiet : (g.frontAfter c.front event).1.IsQuiet := by
    intro l hl
    rw [hlisteners] at hl
    exact hq l hl
  have hhandle : (g.announcement handle c.front event).handle = handle := by cases event <;> rfl
  rw [h.announceAll_eq hquiet hhandle, hlisteners]
  have hlog : g₁.log = g.log ++ c.front.hookEvents event.hookCall := by
    rw [h.rest]
    cases epoch? <;> rfl
  refine ⟨hc, hallowed, h.fronts, hlinks, h.places, ?_, ?_, hfailures⟩
  · simp only [Gateway.noteAll, hlog, eventsOf, List.append_assoc]
    rfl
  · have hendpoints : g₁.endpoints = g.endpoints := by rw [h.rest]; rfl
    exact hendpoints

theorem link?_startBind_of_done (hc : g.get? handle = some c) (hs : c.life.state = .null)
    (ho : c.front.hookOutcome .created = .done) (k : Nat) :
    (g.startBind handle).2.link? k = linksAfter g.link? handle .created k := by
  have hcheck : c.check .binding = .ok (some .halfOpen) := check_eq_next.2 (by rw [hs]; rfl)
  have hhook := link?_callHook hc .created k
  obtain ⟨g₀, hg₀, -⟩ := callHook_of_done g handle .created ho
  rw [hg₀] at hhook
  simp only [startBind, hc, hcheck, hg₀, afterHook]
  rw [link?_enter, ← hhook]
  exact link?_modify (by intro c; rfl) k

theorem link?_startOpen_of_done (hc : g.get? handle = some c) {generation : Option Nat}
    (hg : (generation.any fun n => !c.life.isCurrent n) = false) (hs : c.life.state = .halfOpen)
    (ho : c.front.hookOutcome .opened = .done) (k : Nat) :
    (g.startOpen handle generation).2.link? k = g.link? k := by
  have hcheck : c.check .opening = .ok (some .opened) := check_eq_next.2 (by rw [hs]; rfl)
  have hhook := link?_callHook hc .opened k
  obtain ⟨g₀, hg₀, -⟩ := callHook_of_done g handle .opened ho
  rw [hg₀] at hhook
  simp only [startOpen, hc, hg, hcheck, hg₀, afterHook]
  rw [if_neg Bool.false_ne_true, link?_enter]
  exact hhook

theorem link?_teardown (hc : g.get? handle = some c) (failed : Bool) (k : Nat) :
    (g.teardown handle c failed).2.link? k = linksAfter g.link? handle (endHook failed) k := by
  have hended : ((g.callHook handle c (endHook failed)).2.ended handle).link? k =
      linksAfter g.link? handle (endHook failed) k := by
    rw [link?_ended, link?_callHook hc]
  rw [teardown_ended]
  cases failed
  · exact hended
  · exact hended

section Operations

variable (hc : g.get? handle = some c) (hq : c.IsQuiet)
include hc hq

theorem bindConnection_of_quiet (hs : c.life.state = .null)
    (ho : c.front.hookOutcome .created = .done) :
    (g.bindConnection handle).1 = .ok () ∧ Happens g (g.bindConnection handle).2 handle .binding c := by
  obtain ⟨g₁, hstart, hrefronts⟩ := startBind_of_done hc hs ho
  have hlinks := link?_startBind_of_done hc hs ho
  have hcounts := counts_startBind g handle
  rw [bindConnection]
  rw [hstart] at hlinks hcounts ⊢
  exact ⟨rfl, .of_started .binding hc (by rw [hs]; rfl) hrefronts rfl hq hlinks hcounts.failures⟩

theorem openConnection_of_quiet {generation : Option Nat}
    (hg : (generation.any fun n => !c.life.isCurrent n) = false) (hs : c.life.state = .halfOpen)
    (ho : c.front.hookOutcome .opened = .done) :
    (g.openConnection handle generation).1 = .ok () ∧
      Happens g (g.openConnection handle generation).2 handle .opening c := by
  obtain ⟨g₁, hstart, hrefronts⟩ := startOpen_of_done hc hg hs ho
  have hlinks := link?_startOpen_of_done hc hg hs ho
  have hcounts := counts_startOpen g handle generation
  rw [openConnection]
  rw [hstart] at hlinks hcounts ⊢
  exact ⟨rfl, .of_started .opening hc (by rw [hs]; rfl) hrefronts rfl hq hlinks hcounts.failures⟩

theorem closeConnection_of_quiet (hs : c.life.state.isBound = true) :
    (g.closeConnection handle).1 = .ok () ∧
      Happens g (g.closeConnection handle).2 handle .closing c := by
  have hallowed : c.life.state.on .closing = .next .null := by
    cases hl : c.life.state <;> simp [hl, ConnectionState.isBound, ConnectionState.on] at hs ⊢
  obtain ⟨hending, hrefronts, hfailures⟩ := teardown_front hc false
  rw [closeConnection, startClose_of_bound hc hs, hending]
  exact ⟨rfl, .of_started .closing hc hallowed hrefronts rfl hq (link?_teardown hc false) hfailures⟩

theorem failConnection_happens (hs : c.life.state.isBound = true) :
    Happens g (g.failConnection handle) handle .failing c := by
  have hallowed : c.life.state.on .failing = .next .null := by
    cases hl : c.life.state <;> simp [hl, ConnectionState.isBound, ConnectionState.on] at hs ⊢
  obtain ⟨hending, hrefronts, hfailures⟩ := teardown_front hc true
  rw [failConnection, startFail_of_bound hc hs, hending]
  exact .of_started .failing hc hallowed hrefronts rfl hq (link?_teardown hc true) hfailures

end Operations

end Gateway

end MediaGateway
