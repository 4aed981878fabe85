import MediaGateway.Proofs.Gateway.Standing

/-!
# What happened, and who was told

With listeners that do not call back, what an action does to states is a list of events of the
transition table, one connection at a time (`Unfolds`). What is told follows from the list: those who
watch a connection are told of its event, and nobody else is told of anything.
-/

namespace MediaGateway

/-- What of a connection matters for what is told about it. -/
structure Watch where
  id : UInt32
  state : ConnectionState
  listeners : List Listener
  failureListener : Option FailureListener

namespace Watch

/-- What is there to tell after an event: at the end the failure listener is taken off. -/
def after (w : Watch) (event : StateEvent) : Watch :=
  { w with
    state := event.target
    failureListener := if event.target = .null then none else w.failureListener }

/-- What a listener with a name is told about an event. -/
def told (w : Watch) (name : String) (event : StateEvent) : List Event :=
  (w.listeners.filter (·.name = name)).map fun l => .transition l.name w.id w.state event.target

/-- Whose failure listener is told about an event. -/
def blamed (w : Watch) (event : StateEvent) : Option String :=
  if event = .failing then w.failureListener.map FailureListener.name else none

end Watch

/-- What of a front matters for what is told. -/
def Front.watch (f : Front) : Watch := ⟨f.id, f.life.state, f.listeners, f.failureListener⟩

namespace Event

/-- Whether a listener with a name is told about a transition. -/
def tells (name : String) : Event → Bool
  | .transition listener _ _ _ => listener = name
  | _ => false

/-- The name of the failure listener that is told. -/
def blamed? : Event → Option String
  | .failed listener => some listener
  | _ => none

/-- Whether an event tells no listener and no failure listener anything. -/
def isAside : Event → Bool
  | .transition _ _ _ _ | .failed _ => false
  | _ => true

end Event

namespace Gateway

variable {g g' g'' : Gateway} {handle k : Nat} {c : Connection} {event : StateEvent}

/-- What there is to tell about the connection at a place. -/
def watch? (g : Gateway) (handle : Nat) : Option Watch :=
  (g.front? handle).map Front.watch

theorem watch?_of_untimed
    (h : (g'.front? k).map Front.untimed = (g.front? k).map Front.untimed) :
    g'.watch? k = g.watch? k := by
  have hwatch := congrArg (Option.map Front.watch) h
  rw [Option.map_map, Option.map_map] at hwatch
  exact hwatch

theorem watch?_of_front? (h : g'.front? k = g.front? k) : g'.watch? k = g.watch? k := by
  rw [watch?, h, watch?]

theorem state?_eq_watch? (g : Gateway) (k : Nat) : g.state? k = (g.watch? k).map Watch.state := by
  rw [state?, stand?, watch?, Option.map_map, Option.map_map]
  rfl

/-! ## What is noticed of an event -/

theorem filter_tells_eq_nil {events : List Event} (h : ∀ e ∈ events, e.isAside = true)
    (name : String) : events.filter (Event.tells name) = [] := by
  refine List.filter_eq_nil_iff.2 fun e he htells => ?_
  have haside := h e he
  cases e <;> simp [Event.isAside, Event.tells] at haside htells

theorem filterMap_blamed?_eq_nil {events : List Event} (h : ∀ e ∈ events, e.isAside = true) :
    events.filterMap Event.blamed? = [] := by
  refine List.filterMap_eq_nil_iff.2 fun e he => ?_
  have haside := h e he
  cases e <;> simp [Event.isAside, Event.blamed?] at haside ⊢

theorem isAside_hookEvents (f : Front) (call : HookCall) :
    ∀ e ∈ f.hookEvents call, e.isAside = true := by
  intro e he
  cases hh : f.hooks <;> simp [Front.hookEvents, hh] at he
  rw [he]
  rfl

/-- Between the listeners and the failure listener, the endpoint is told. -/
theorem events_eq_told (a : Announcement) (listeners : List Listener) :
    ∃ others, (∀ e ∈ others, e.isAside = true) ∧ a.events listeners =
      (match a.change with
        | some (old, new) => listeners.map fun l => Event.transition l.name a.id old new
        | none => []) ++ others ++ (a.failure.map fun l => Event.failed l.name).toList := by
  refine ⟨_, fun e he => ?_, rfl⟩
  cases howner : a.endpoint with
  | none => simp [howner] at he
  | some owner =>
    simp only [howner, List.mem_append] at he
    rcases he with he | he
    · cases hmode : a.mode with
      | none => simp [hmode] at he
      | some modes =>
        simp only [hmode, Option.map_some, Option.toList_some, List.mem_singleton] at he
        rw [he]
        rfl
    · split at he
      · rw [List.mem_singleton.1 he]
        rfl
      · cases he

theorem filter_tells_events (a : Announcement) (listeners : List Listener) (name : String) :
    (a.events listeners).filter (Event.tells name) = match a.change with
      | some (old, new) =>
        (listeners.filter (·.name = name)).map fun l => .transition l.name a.id old new
      | none => [] := by
  obtain ⟨others, haside, hevents⟩ := events_eq_told a listeners
  have hfailure : ((a.failure.map fun l => Event.failed l.name).toList).filter
      (Event.tells name) = [] := by
    cases a.failure <;> rfl
  rw [hevents, List.filter_append, List.filter_append, hfailure, filter_tells_eq_nil haside,
    List.append_nil, List.append_nil]
  cases a.change with
  | none => rfl
  | some change =>
    simp only [List.filter_map]
    rfl

theorem filterMap_blamed?_events (a : Announcement) (listeners : List Listener) :
    (a.events listeners).filterMap Event.blamed? =
      (a.failure.map FailureListener.name).toList := by
  obtain ⟨others, haside, hevents⟩ := events_eq_told a listeners
  have hchange : (match a.change with
      | some (old, new) => listeners.map fun l : Listener => Event.transition l.name a.id old new
      | none => []).filterMap Event.blamed? = [] := by
    cases a.change with
    | none => rfl
    | some change => simp [Event.blamed?]
  rw [hevents, List.filterMap_append, List.filterMap_append, hchange,
    filterMap_blamed?_eq_nil haside, List.append_nil, List.nil_append]
  cases a.failure <;> rfl

/-! ## One event -/

namespace Happens

variable (h : Happens g g' handle event c)
include h

theorem watch? (k : Nat) :
    g'.watch? k = if k = handle then some (c.front.watch.after event) else g.watch? k := by
  rw [Gateway.watch?, h.fronts, Gateway.watch?]
  split
  · cases event with
    | binding => simp [frontAfter, Front.withLife, boundLife, Front.watch, Watch.after,
        StateEvent.target]
    | opening => simp [frontAfter, Front.withLife, openedLife, Front.watch, Watch.after,
        StateEvent.target]
    | closing | failing => simp [frontAfter, endedFront, Front.withLife, endedLife, Front.watch,
        Watch.after, StateEvent.target]
  · rfl

theorem watch?_before : g.watch? handle = some c.front.watch := by
  rw [Gateway.watch?, front?_of_get? h.get?]
  rfl

theorem announcement_change : (g.announcement handle c.front event).change =
    some (c.life.state, event.target) := by
  have hallowed := h.allowed
  cases event with
  | closing | failing => rfl
  | binding | opening =>
    cases hs : c.life.state <;> simp [hs, ConnectionState.on] at hallowed
    rfl

/-- The listeners are told of an event, and the failure listener of a failure. -/
theorem log_told : ∃ events, g'.log = g.log ++ events ∧
    (∀ name, events.filter (Event.tells name) = c.front.watch.told name event) ∧
    events.filterMap Event.blamed? = (c.front.watch.blamed event).toList := by
  refine ⟨_, h.log, fun name => ?_, ?_⟩
  · have hid : (g.announcement handle c.front event).id = c.front.id := by cases event <;> rfl
    rw [eventsOf, List.filter_append, filter_tells_eq_nil (isAside_hookEvents _ _),
      filter_tells_events, h.announcement_change, hid]
    rfl
  · rw [eventsOf, List.filterMap_append, filterMap_blamed?_eq_nil (isAside_hookEvents _ _),
      filterMap_blamed?_events]
    cases event <;> rfl

end Happens

/-! ## All events of an action -/

/-- Nothing has happened that would be told. -/
structure Unheard (g g' : Gateway) : Prop where
  watch : ∀ k, g'.watch? k = g.watch? k
  log : ∃ events, g'.log = g.log ++ events ∧ ∀ e ∈ events, e.isAside = true
  failures : g'.metrics.failures = g.metrics.failures

/-- Events of the transition table have happened to connections, one after the other. -/
inductive Unfolds : Gateway → List (Nat × StateEvent) → Gateway → Prop
  | refl {g₁} : Unfolds g₁ [] g₁
  | unheard {g₁ g₂ g₃ events} (h : Unfolds g₁ events g₂) (h' : Unheard g₂ g₃) :
      Unfolds g₁ events g₃
  | happens {g₁ g₂ g₃ events n e d} (h : Unfolds g₁ events g₂) (h' : Happens g₂ g₃ n e d) :
      Unfolds g₁ (events ++ [(n, e)]) g₃

namespace Unheard

theorem of_log_eq (hwatch : ∀ k, g'.watch? k = g.watch? k) (hlog : g'.log = g.log)
    (hfailures : g'.metrics.failures = g.metrics.failures) : Unheard g g' where
  watch := hwatch
  log := ⟨[], by rw [hlog, List.append_nil], fun _ he => absurd he List.not_mem_nil⟩
  failures := hfailures

theorem of_aside (h : Aside g g') : Unheard g g' where
  watch := fun k => watch?_of_untimed (h.fronts k)
  log := by
    obtain ⟨calls, hcalls⟩ := h.log
    refine ⟨_, hcalls, fun e he => ?_⟩
    obtain ⟨call, -, rfl⟩ := List.mem_map.1 he
    rfl
  failures := h.failures

theorem of_behind (h : Behind g g') : Unheard g g' :=
  .of_log_eq (fun k => watch?_of_front? (h.fronts k)) (by rw [h.rest]) (by rw [h.rest])

theorem of_setsMode {mode : Mode} (h : SetsMode g g' handle mode c) : Unheard g g' where
  watch := by
    intro k
    rw [watch?, h.fronts, watch?]
    split
    · rename_i hk
      rw [hk, front?_of_get? h.get?]
      rfl
    · rfl
  log := by
    refine ⟨_, h.log, fun e he => ?_⟩
    rcases List.mem_append.1 he with he | he
    · exact isAside_hookEvents _ _ e he
    · cases howner : g.endpointOf? c with
      | none => simp [howner] at he
      | some owner =>
        simp only [howner, Option.map_some, Option.toList_some, List.mem_singleton] at he
        rw [he]
        rfl
  failures := h.failures

end Unheard

namespace Unfolds

theorem of_unheard (h : Unheard g g') : Unfolds g [] g' := .unheard .refl h

theorem of_happens (h : Happens g g' handle event c) : Unfolds g [(handle, event)] g' :=
  .happens .refl h

/-- What lapses is a list of failures, by induction. -/
theorem of_lapses {p : Nat → Prop} (h : Lapses p g g') :
    ∃ places : List Nat, Unfolds g (places.map fun k => (k, .failing)) g' ∧ ∀ k ∈ places, p k := by
  induction h with
  | refl => exact ⟨[], .refl, fun _ hk => absurd hk List.not_mem_nil⟩
  | tail _ h ih =>
    obtain ⟨places, hunfolds, hp⟩ := ih
    cases h with
    | aside haside => exact ⟨places, hunfolds.unheard (.of_aside haside), hp⟩
    | @fail k d hk hfails =>
      refine ⟨places ++ [k], ?_, fun x hx => ?_⟩
      · rw [List.map_append]
        exact hunfolds.happens hfails
      · rcases List.mem_append.1 hx with hx | hx
        · exact hp x hx
        · rw [List.mem_singleton.1 hx]
          exact hk

/-- Who has failed is idle and does not fail again, by induction. -/
theorem nodup_of_failing {events : List (Nat × StateEvent)} (h : Unfolds g events g')
    (hfailing : ∀ e ∈ events, e.2 = .failing) :
    (events.map Prod.fst).Nodup ∧ ∀ k ∈ events.map Prod.fst, g'.state? k = some .null := by
  induction h with
  | refl => exact ⟨List.nodup_nil, fun k hk => absurd hk List.not_mem_nil⟩
  | unheard _ h' ih =>
    obtain ⟨hnodup, hnull⟩ := ih hfailing
    refine ⟨hnodup, fun k hk => ?_⟩
    rw [state?_eq_watch?, h'.watch, ← state?_eq_watch?]
    exact hnull k hk
  | @happens _ _ events n e d _ h' ih =>
    obtain ⟨hnodup, hnull⟩ := ih fun e he => hfailing e (List.mem_append_left _ he)
    obtain rfl : e = .failing := hfailing (n, e) (by simp)
    have hnew : n ∉ events.map Prod.fst := fun hn => h'.state?_ending rfl (hnull n hn)
    rw [List.map_append, List.map_cons, List.map_nil]
    refine ⟨?_, fun k hk => ?_⟩
    · rw [List.nodup_append]
      refine ⟨hnodup, List.nodup_singleton n, fun k hk x hx => ?_⟩
      rw [List.mem_singleton.1 hx]
      rintro rfl
      exact hnew hk
    · rw [List.mem_append, List.mem_singleton] at hk
      rcases hk with hk | rfl
      · have hne : k ≠ n := fun hkn => hnew (hkn ▸ hk)
        rw [h'.state?_of_ne hne]
        exact hnull k hk
      · exact h'.state?_self

/-- Where every connection has one event at most, a connection without one has nothing to tell, and
one that has follows the transition table. -/
theorem watch? {events : List (Nat × StateEvent)} (h : Unfolds g events g')
    (honce : (events.map Prod.fst).Nodup) (k : Nat) :
    (k ∉ events.map Prod.fst ∧ g'.watch? k = g.watch? k) ∨
      ∃ event w, (k, event) ∈ events ∧ g.watch? k = some w ∧
        w.state.on event = .next event.target ∧ g'.watch? k = some (w.after event) := by
  induction h with
  | refl => exact .inl ⟨List.not_mem_nil, rfl⟩
  | unheard _ h' ih =>
    rw [h'.watch]
    exact ih honce
  | @happens _ _ events n e d _ h' ih =>
    rw [List.map_append, List.nodup_append] at honce
    obtain ⟨honce, -, hnew⟩ := honce
    have hnot : n ∉ events.map Prod.fst := fun hn => hnew n hn n (by simp) rfl
    rw [h'.watch?]
    by_cases hk : k = n
    · subst hk
      rcases ih honce with ⟨-, hsame⟩ | ⟨event, w, hmem, -⟩
      · rw [if_pos rfl]
        exact .inr ⟨e, d.front.watch, by simp, hsame ▸ h'.watch?_before, h'.allowed, rfl⟩
      · exact absurd (List.mem_map_of_mem (f := Prod.fst) hmem) hnot
    · rw [if_neg hk]
      rcases ih honce with ⟨hnot, hsame⟩ | ⟨event, w, hmem, hw, hallowed, hafter⟩
      · exact .inl ⟨by simp [hnot, hk], hsame⟩
      · exact .inr ⟨event, w, List.mem_append_left _ hmem, hw, hallowed, hafter⟩

/-- Failures are counted. -/
theorem failures {events : List (Nat × StateEvent)} (h : Unfolds g events g') :
    g'.metrics.failures =
      g.metrics.failures + .ofNat (events.filter fun e => e.2 = .failing).length := by
  induction h with
  | refl => exact (UInt64.add_zero _).symm
  | unheard _ h' ih => rw [h'.failures, ih]
  | @happens _ _ events n e d _ h' ih =>
    rw [h'.failures, ih, List.filter_append, List.length_append, UInt64.ofNat_add, UInt64.add_assoc]
    by_cases he : e = .failing
    · simp [he]
    · simp [he]

/-- Those who watch are told of the events in order. -/
theorem log {events : List (Nat × StateEvent)} (h : Unfolds g events g')
    (honce : (events.map Prod.fst).Nodup) : ∃ noticed, g'.log = g.log ++ noticed ∧
      (∀ name, noticed.filter (Event.tells name) =
        events.flatMap fun e => ((g.watch? e.1).map fun w => w.told name e.2).getD []) ∧
      noticed.filterMap Event.blamed? =
        events.filterMap fun e => (g.watch? e.1).bind fun w => w.blamed e.2 := by
  induction h with
  | refl => exact ⟨[], by simp, fun _ => rfl, rfl⟩
  | unheard _ h' ih =>
    obtain ⟨noticed, hlog, htold, hblamed⟩ := ih honce
    obtain ⟨others, hothers, haside⟩ := h'.log
    refine ⟨noticed ++ others, by rw [hothers, hlog, List.append_assoc], fun name => ?_, ?_⟩
    · rw [List.filter_append, filter_tells_eq_nil haside, List.append_nil, htold]
    · rw [List.filterMap_append, filterMap_blamed?_eq_nil haside, List.append_nil, hblamed]
  | @happens _ _ events n e d hevents h' ih =>
    rw [List.map_append, List.nodup_append] at honce
    obtain ⟨honce, -, hnew⟩ := honce
    have hnot : n ∉ events.map Prod.fst := fun hn => hnew n hn n (by simp) rfl
    obtain ⟨noticed, hlog, htold, hblamed⟩ := ih honce
    obtain ⟨others, hothers, htold', hblamed'⟩ := h'.log_told
    have hwatch := h'.watch?_before
    rcases hevents.watch? honce n with ⟨-, hsame⟩ | ⟨event, w, hmem, -⟩
    · rw [hsame] at hwatch
      refine ⟨noticed ++ others, by rw [hothers, hlog, List.append_assoc], fun name => ?_, ?_⟩
      · rw [List.filter_append, htold, htold', List.flatMap_append]
        simp [hwatch]
      · rw [List.filterMap_append, hblamed, hblamed', List.filterMap_append]
        cases hb : d.front.watch.blamed e <;> simp [hwatch, hb]
    · exact absurd (List.mem_map_of_mem (f := Prod.fst) hmem) hnot

end Unfolds

/-! ## All actions -/

/-- What an action does to what there is to tell. -/
inductive Plot (g : Gateway) (a : Action) (g' : Gateway) : Prop
  /-- Events happen, of which every connection has one at most. -/
  | unfolds {events} (h : Unfolds g events g') (once : (events.map Prod.fst).Nodup)
      (failing : ∀ n, (n, .failing) ∈ events → a.canFail n)
      (closing : ∀ n, (n, .closing) ∈ events → a = .close n)
  | restock (h : Restocked g a g') (log : g'.log = g.log)
      (failures : g'.metrics.failures = g.metrics.failures)
  | setting (kind : a.kind = .setting) (h : g' = g.perform a)
  | forget (kind : a = .clearLog) (h : g' = g.clearLog)

theorem Plot.of_unheard {a : Action} (h : Unheard g g') : Plot g a g' :=
  .unfolds (.of_unheard h) List.nodup_nil (fun _ hn => absurd hn List.not_mem_nil)
    fun _ hn => absurd hn List.not_mem_nil

theorem Effect.plot {a : Action} (he : Effect g a g') : Plot g a g' := by
  cases he with
  | restock h hlog hfailures => exact .restock h hlog hfailures
  | setting hk => exact .setting hk rfl
  | lapses h =>
    obtain ⟨places, hunfolds, hfails⟩ := Unfolds.of_lapses h
    have hfailing : ∀ e ∈ places.map fun k => (k, StateEvent.failing), e.2 = .failing := by
      intro e he
      obtain ⟨k, -, rfl⟩ := List.mem_map.1 he
      rfl
    refine .unfolds hunfolds (hunfolds.nodup_of_failing hfailing).1 (fun n hn => ?_) fun n hn => ?_
    · obtain ⟨k, hk, heq⟩ := List.mem_map.1 hn
      obtain ⟨rfl, -⟩ := Prod.mk.inj heq
      exact hfails k hk
    · cases hfailing _ hn
  | bind h => exact .unfolds (.of_happens h) (List.nodup_singleton _) (by simp) (by simp)
  | «open» _ haside h =>
    exact .unfolds ((Unfolds.of_unheard (.of_aside haside)).happens h) (List.nodup_singleton _)
      (by simp) (by simp)
  | close h =>
    refine .unfolds (.of_happens h) (List.nodup_singleton _) (by simp) fun n hn => ?_
    obtain ⟨rfl, -⟩ := Prod.mk.inj (List.mem_singleton.1 hn)
    rfl
  | setMode h => exact .of_unheard (.of_setsMode h)
  | @join _ _ a b _ _ h =>
    refine .unfolds (((Unfolds.of_unheard (.of_behind (behind_link g a b))).happens h.left).happens
      h.right) ?_ (by simp) (by simp)
    simpa using h.distinct
  | @send _ frame _ peer _ _ _ _ _ =>
    exact .of_unheard
      (.of_log_eq (fun k => watch?_of_untimed (untimed_send g peer frame k)) rfl rfl)
  | receive k => exact .of_unheard (.of_behind (.modifyLink _))
  | clearLog => exact .forget rfl rfl

end Gateway

end MediaGateway
