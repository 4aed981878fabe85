import MediaGateway.Proofs.Gateway.Metrics

/-!
# What an endpoint hears

An endpoint is told by its name, and what it is told does not say which connection it is about. So
what it hears in the course of an action comes with the connections that it is about (`Hears`): for
each of them just what has become of it, as far as the endpoint owns it (`callsAbout`).
-/

namespace MediaGateway

/-- What an endpoint is told. -/
inductive EndpointCall where
  | modeUpdated (old new : Mode)
  | released (id : UInt32) (type : ConnectionType)
deriving DecidableEq

/-- What the endpoint with a name is told by an event. -/
def Event.callTo? (name : String) : Event → Option EndpointCall
  | .modeUpdated endpoint old new => if endpoint = name then some (.modeUpdated old new) else none
  | .released endpoint id type => if endpoint = name then some (.released id type) else none
  | _ => none

/-- What an endpoint is to know of a connection that it owns. -/
structure Holding where
  id : UInt32
  type : ConnectionType
  bound : Bool
  mode : Mode
deriving DecidableEq

/-- What the endpoint is told at the end of a binding. -/
def Holding.ending (h : Holding) : List EndpointCall :=
  (if h.mode = .inactive then [] else [.modeUpdated h.mode .inactive]) ++ [.released h.id h.type]

/-- What an endpoint is to be told of a connection that it owned before, or owns after. -/
def callsAbout : Option Holding → Option Holding → List EndpointCall
  | none, _ => []
  | some h, none => if h.bound then h.ending else []
  | some h, some h' => if h'.mode = h.mode then [] else [.modeUpdated h.mode h'.mode]

theorem callsAbout_self (h? : Option Holding) : callsAbout h? h? = [] := by
  cases h? <;> simp [callsAbout]

/-- What may become of a connection while no endpoint is set: it is owned as long as it is bound. -/
inductive Passes : Option Holding → Option Holding → Prop
  | never : Passes none none
  | lasts {h h' : Holding} (id : h'.id = h.id) (type : h'.type = h.type)
      (bound : h.bound = true → h'.bound = true) : Passes (some h) (some h')
  | ends {h : Holding} : Passes (some h) none

theorem Passes.refl (h? : Option Holding) : Passes h? h? := by
  cases h? with
  | none => exact .never
  | some h => exact .lasts rfl rfl id

theorem Passes.of_none (h? : Option Holding) : Passes h? none := by
  cases h? with
  | none => exact .never
  | some h => exact .ends

theorem Passes.trans {h? h'? h''? : Option Holding} (h : Passes h? h'?) (h' : Passes h'? h''?) :
    Passes h? h''? := by
  cases h with
  | never => exact h'
  | lasts id type bound =>
    cases h' with
    | lasts id' type' bound' => exact .lasts (id'.trans id) (type'.trans type) (bound' ∘ bound)
    | ends => exact .ends
  | ends =>
    cases h'
    exact .ends

/-- Those of the calls that are about the connection at a place. -/
def callsOf (told : List (Nat × EndpointCall)) (k : Nat) : List EndpointCall :=
  (told.filter (·.1 = k)).map Prod.snd

theorem mem_callsOf {told : List (Nat × EndpointCall)} {e : Nat × EndpointCall} :
    e.2 ∈ callsOf told e.1 ↔ e ∈ told := by
  rw [callsOf, List.mem_map]
  constructor
  · rintro ⟨e', he', hcall⟩
    obtain ⟨hmem, hplace⟩ := List.mem_filter.1 he'
    rwa [← Prod.ext (of_decide_eq_true hplace) hcall]
  · intro he
    exact ⟨e, List.mem_filter.2 ⟨he, decide_eq_true rfl⟩, rfl⟩

/-- Calls are those about each of the connections, one after another where they are about the
same. -/
def Interleaves (calls : List EndpointCall) (about : Nat → List EndpointCall) : Prop :=
  ∃ told : List (Nat × EndpointCall), told.map Prod.snd = calls ∧ ∀ k, callsOf told k = about k

namespace Interleaves

variable {calls calls' : List EndpointCall} {about about' : Nat → List EndpointCall}

theorem nil (h : ∀ k, about k = []) : Interleaves [] about := ⟨[], rfl, fun k => (h k).symm⟩

/-- All are about one connection. -/
theorem one {handle : Nat} (hself : about handle = calls) (hothers : ∀ k, k ≠ handle → about k = []) :
    Interleaves calls about := by
  refine ⟨calls.map fun call => (handle, call), ?_, fun k => ?_⟩
  · rw [List.map_map]
    exact List.map_id _
  · by_cases hk : k = handle
    · subst hk
      simp [callsOf, List.filter_map, Function.comp_def, hself]
    · simp [callsOf, Ne.symm hk, hothers k hk]

theorem append (h : Interleaves calls about) (h' : Interleaves calls' about') :
    Interleaves (calls ++ calls') fun k => about k ++ about' k := by
  obtain ⟨told, rfl, habout⟩ := h
  obtain ⟨told', rfl, habout'⟩ := h'
  refine ⟨told ++ told', List.map_append, fun k => ?_⟩
  have hsplit : callsOf (told ++ told') k = callsOf told k ++ callsOf told' k := by
    rw [callsOf, List.filter_append, List.map_append]
    rfl
  rw [hsplit, habout, habout']

/-- Every call is about some connection. -/
theorem exists_mem (h : Interleaves calls about) {call : EndpointCall} (hmem : call ∈ calls) :
    ∃ k, call ∈ about k := by
  obtain ⟨told, rfl, habout⟩ := h
  obtain ⟨e, he, rfl⟩ := List.mem_map.1 hmem
  exact ⟨e.1, habout e.1 ▸ mem_callsOf.2 he⟩

end Interleaves

/-- What of a front an endpoint is to know, if it owns the connection. -/
def Front.heldBy (f : Front) (owner : Nat) : Option Holding :=
  if f.endpoint = some owner then some ⟨f.id, f.type, f.life.state.isBound, f.life.mode⟩ else none

namespace Gateway

variable {g g' g'' : Gateway} {handle k owner : Nat} {name : String} {c : Connection}
  {event : StateEvent} {a : Action}

/-- What the endpoint at a place is to know of the connection at another one, if it owns it. -/
def held? (g : Gateway) (owner handle : Nat) : Option Holding :=
  (g.front? handle).bind fun f => f.heldBy owner

theorem held?_of_get? (hc : g.get? handle = some c) :
    g.held? owner handle = c.front.heldBy owner := by
  rw [held?, front?_of_get? hc]
  rfl

theorem held?_of_front? (h : g'.front? k = g.front? k) : g'.held? owner k = g.held? owner k := by
  rw [held?, h, held?]

theorem held?_of_untimed
    (h : (g'.front? k).map Front.untimed = (g.front? k).map Front.untimed) :
    g'.held? owner k = g.held? owner k := by
  have hheld (g : Gateway) : g.held? owner k =
      ((g.front? k).map Front.untimed).bind fun f => f.heldBy owner := by
    rw [held?, Option.bind_map]
    rfl
  rw [hheld, h, ← hheld]

theorem held?_bound {h : Holding} (hh : g.held? owner k = some h) :
    ∃ s, g.state? k = some s ∧ h.bound = s.isBound := by
  obtain ⟨f, hf, hheld⟩ := Option.bind_eq_some_iff.1 hh
  obtain ⟨c, hc, rfl⟩ := get?_of_front? hf
  refine ⟨c.life.state, state?_of_get? hc, ?_⟩
  unfold Front.heldBy at hheld
  split at hheld
  · rw [← Option.some.inj hheld]
    rfl
  · cases hheld

/-- The endpoint at a place lives, and nobody else who lives has its name. -/
structure Owns (g : Gateway) (owner : Nat) (name : String) : Prop where
  alive : ∃ e, g.endpoints[owner]? = some e ∧ e.alive = true ∧ e.name = name
  only : ∀ j e, g.endpoints[j]? = some e → e.alive = true → e.name = name → j = owner

theorem Owns.congr (h : g.Owns owner name) (he : g'.endpoints = g.endpoints) :
    g'.Owns owner name := by
  constructor
  · rw [he]
    exact h.alive
  · rw [he]
    exact h.only

/-- Whoever is told by that name is the endpoint that owns the connection. -/
theorem Owns.name_iff (h : g.Owns owner name) (endpoint : Option Nat) :
    ((endpoint.bind (g.endpoints[·]?)).filter Endpoint.alive).map Endpoint.name = some name ↔
      endpoint = some owner := by
  constructor
  · intro hname
    obtain ⟨e, he, hname⟩ := Option.map_eq_some_iff.1 hname
    obtain ⟨he, halive⟩ := Option.filter_eq_some_iff.1 he
    obtain ⟨j, hj, he⟩ := Option.bind_eq_some_iff.1 he
    rw [hj, h.only j e he halive hname]
  · rintro rfl
    obtain ⟨e, he, halive, hname⟩ := h.alive
    simp [he, halive, hname]

/-! ## What is told in an announcement -/

theorem filterMap_callTo?_hookEvents (f : Front) (call : HookCall) (name : String) :
    (f.hookEvents call).filterMap (Event.callTo? name) = [] := by
  cases hh : f.hooks <;> simp [Front.hookEvents, hh, Event.callTo?]

theorem filterMap_callTo?_events (a : Announcement) (listeners : List Listener) (name : String) :
    (a.events listeners).filterMap (Event.callTo? name) =
      if a.endpoint.map Endpoint.name = some name then
        (a.mode.map fun m => EndpointCall.modeUpdated m.1 m.2).toList ++
          if a.release then [.released a.id a.type] else []
      else [] := by
  obtain ⟨_, id, type, change, mode, endpoint, release, failure⟩ := a
  have htransitions (change : ConnectionState × ConnectionState) :
      (listeners.map fun l => Event.transition l.name id change.1 change.2).filterMap
        (Event.callTo? name) = [] := by simp [Event.callTo?]
  have hfailure : ((failure.map fun l => Event.failed l.name).toList).filterMap
      (Event.callTo? name) = [] := by cases failure <;> rfl
  have hendpoint (e : Endpoint) : ((mode.map fun m => Event.modeUpdated e.name m.1 m.2).toList ++
      (if release then [Event.released e.name id type] else [])).filterMap (Event.callTo? name) =
        if e.name = name then (mode.map fun m => EndpointCall.modeUpdated m.1 m.2).toList ++
          if release then [.released id type] else [] else [] := by
    by_cases he : e.name = name <;> cases mode <;> cases release <;> simp [Event.callTo?, he]
  simp only [Announcement.events, List.filterMap_append, hfailure, List.append_nil]
  cases endpoint with
  | none =>
    cases change with
    | none => rfl
    | some change => simpa using htransitions change
  | some e =>
    cases change with
    | none => simpa using hendpoint e
    | some change =>
      rw [htransitions change, List.nil_append]
      simpa using hendpoint e

/-! ## What is heard -/

/-- The endpoint that owns connections heard of each of them what has become of it. -/
structure Hears (owner : Nat) (name : String) (g g' : Gateway) : Prop where
  log : ∃ noticed, g'.log = g.log ++ noticed ∧
    Interleaves (noticed.filterMap (Event.callTo? name)) fun k =>
      callsAbout (g.held? owner k) (g'.held? owner k)
  passes : ∀ k, Passes (g.held? owner k) (g'.held? owner k)

namespace Hears

/-- Something happened at one place. -/
theorem at_place (hothers : ∀ k, k ≠ handle → g'.held? owner k = g.held? owner k)
    {noticed : List Event} (hlog : g'.log = g.log ++ noticed)
    (hnoticed : noticed.filterMap (Event.callTo? name) =
      callsAbout (g.held? owner handle) (g'.held? owner handle))
    (hpasses : Passes (g.held? owner handle) (g'.held? owner handle)) :
    Hears owner name g g' := by
  refine ⟨⟨noticed, hlog, .one hnoticed.symm fun k hk => ?_⟩, fun k => ?_⟩
  · rw [hothers k hk, callsAbout_self]
  · by_cases hk : k = handle
    · rw [hk]
      exact hpasses
    · rw [hothers k hk]
      exact .refl _

/-- Nothing is heard as long as nothing changes. -/
theorem of_same (hheld : ∀ k, g'.held? owner k = g.held? owner k) {noticed : List Event}
    (hlog : g'.log = g.log ++ noticed) (hnoticed : noticed.filterMap (Event.callTo? name) = []) :
    Hears owner name g g' := by
  refine ⟨⟨noticed, hlog, ?_⟩, fun k => ?_⟩
  · rw [hnoticed]
    exact .nil fun k => by rw [hheld, callsAbout_self]
  · rw [hheld]
    exact .refl _

theorem of_aside (h : Aside g g') : Hears owner name g g' := by
  obtain ⟨calls, hlog⟩ := h.log
  refine .of_same (fun k => held?_of_untimed (h.fronts k)) hlog ?_
  simp [Event.callTo?]

theorem of_behind (h : Behind g g') : Hears owner name g g' := by
  have hlog : g'.log = g.log ++ [] := by rw [h.rest, List.append_nil]
  exact .of_same (fun k => held?_of_front? (h.fronts k)) hlog rfl

/-- Stretches of work add up if no connection is concerned by both. -/
theorem trans (h : Hears owner name g g') (h' : Hears owner name g' g'')
    (hapart : ∀ k, g'.held? owner k = g.held? owner k ∨ g''.held? owner k = g'.held? owner k) :
    Hears owner name g g'' where
  log := by
    obtain ⟨noticed, hlog, hnoticed⟩ := h.log
    obtain ⟨noticed', hlog', hnoticed'⟩ := h'.log
    refine ⟨noticed ++ noticed', by rw [hlog', hlog, List.append_assoc], ?_⟩
    have habout : (fun k => callsAbout (g.held? owner k) (g''.held? owner k)) = fun k =>
        callsAbout (g.held? owner k) (g'.held? owner k) ++
          callsAbout (g'.held? owner k) (g''.held? owner k) := by
      funext k
      rcases hapart k with hsame | hsame
      · rw [hsame, callsAbout_self, List.nil_append]
      · rw [hsame, callsAbout_self, List.append_nil]
    rw [List.filterMap_append, habout]
    exact hnoticed.append hnoticed'
  passes := fun k => (h.passes k).trans (h'.passes k)

end Hears

/-! ## One event -/

theorem filterMap_callTo?_eventsOf (ho : g.Owns owner name) (f : Front) (event : StateEvent) :
    (g.eventsOf handle f event).filterMap (Event.callTo? name) =
      if event.target = .null then ((f.heldBy owner).map Holding.ending).getD [] else [] := by
  rw [eventsOf, List.filterMap_append, filterMap_callTo?_hookEvents, List.nil_append,
    filterMap_callTo?_events]
  have hending (failed : Bool) :
      ((g.ending handle f failed).endpoint.map Endpoint.name = some name) ↔
        f.endpoint = some owner := ho.name_iff f.endpoint
  cases event with
  | binding | opening => simp [announcement, StateEvent.target]
  | closing | failing =>
    simp only [announcement, hending, StateEvent.target, if_true]
    by_cases howner : f.endpoint = some owner
    · by_cases hm : f.life.mode = .inactive <;>
        simp [Gateway.ending, Holding.ending, Front.heldBy, howner, hm]
    · simp [Front.heldBy, howner]

theorem heldBy_frontAfter (g : Gateway) (f : Front) (event : StateEvent) (owner : Nat) :
    (g.frontAfter f event).1.heldBy owner =
      if event.target = .null then none
      else (f.heldBy owner).map fun h => { h with bound := true } := by
  cases event with
  | binding | opening =>
    by_cases howner : f.endpoint = some owner
    · simp [Front.heldBy, howner, frontAfter, Front.withLife, boundLife, openedLife,
        StateEvent.target, ConnectionState.isBound]
    · simp [Front.heldBy, howner, frontAfter, Front.withLife, StateEvent.target]
  | closing | failing => rfl

theorem Happens.hears (h : Happens g g' handle event c) (ho : g.Owns owner name) :
    Hears owner name g g' := by
  have hbefore : g.held? owner handle = c.front.heldBy owner := held?_of_get? h.get?
  have hafter : g'.held? owner handle = (g.frontAfter c.front event).1.heldBy owner := by
    rw [held?, h.fronts, if_pos rfl]
    rfl
  rw [heldBy_frontAfter] at hafter
  refine .at_place (fun k (hk : k ≠ handle) => ?_) h.log ?_ ?_
  · exact held?_of_front? (by rw [h.fronts, if_neg hk])
  · rw [filterMap_callTo?_eventsOf ho, hbefore, hafter]
    by_cases hend : event.target = .null
    · rw [if_pos hend, if_pos hend]
      cases hheld : c.front.heldBy owner with
      | none => rfl
      | some held =>
        obtain ⟨s, hs, hbound⟩ := held?_bound (hbefore.trans hheld)
        have hne : s ≠ .null := by
          rintro rfl
          exact h.state?_ending hend hs
        have hstill : held.bound = true := by simpa [hbound, ConnectionState.isBound] using hne
        simp [callsAbout, hstill]
    · cases c.front.heldBy owner <;> simp [hend, callsAbout]
  · rw [hbefore, hafter]
    by_cases hend : event.target = .null
    · rw [if_pos hend]
      exact .of_none _
    · rw [if_neg hend]
      cases c.front.heldBy owner with
      | none => exact .never
      | some h => exact .lasts rfl rfl fun _ => rfl

/-! ## Work -/

theorem SetsMode.hears {mode : Mode} (h : SetsMode g g' handle mode c) (ho : g.Owns owner name) :
    Hears owner name g g' := by
  have hbefore : g.held? owner handle = c.front.heldBy owner := held?_of_get? h.get?
  have hafter : g'.held? owner handle = (c.front.heldBy owner).map fun h => { h with mode } := by
    rw [held?, h.fronts, if_pos rfl]
    by_cases howner : c.front.endpoint = some owner <;> simp [Front.heldBy, Front.withLife, howner]
  refine .at_place (fun k (hk : k ≠ handle) => ?_) h.log ?_ ?_
  · exact held?_of_front? (by rw [h.fronts, if_neg hk])
  · have hname := ho.name_iff c.endpoint
    rw [List.filterMap_append, filterMap_callTo?_hookEvents, List.nil_append, hbefore, hafter]
    have hchanges : mode ≠ c.life.mode := Ne.symm h.changes
    by_cases howner : c.front.endpoint = some owner
    · obtain ⟨e, he, hename⟩ := Option.map_eq_some_iff.1 (hname.2 howner)
      have hendpoint : g.endpointOf? c = some e := he
      simp [hendpoint, Event.callTo?, hename, Front.heldBy, howner, callsAbout, hchanges]
    · have hnobody : ∀ e, g.endpointOf? c = some e → e.name ≠ name := by
        intro e he hename
        have hsome : g.endpointOf? c = (c.endpoint.bind (g.endpoints[·]?)).filter Endpoint.alive := rfl
        rw [← hsome, he] at hname
        exact howner (hname.1 (congrArg some hename))
      cases hendpoint : g.endpointOf? c with
      | none => simp [Front.heldBy, howner, callsAbout]
      | some e => simp [Event.callTo?, hnobody e hendpoint, Front.heldBy, howner, callsAbout]
  · rw [hbefore, hafter]
    cases c.front.heldBy owner with
    | none => exact .never
    | some h => exact .lasts rfl rfl id

/-- What lapses is heard, by induction: a connection that failed is idle and does not fail again. -/
theorem Lapses.hears {p : Nat → Prop} (h : Lapses p g g') (ho : g.Owns owner name) :
    g'.endpoints = g.endpoints ∧ Hears owner name g g' ∧
      ∀ k, g'.held? owner k = g.held? owner k ∨ g'.state? k = some .null := by
  induction h with
  | refl => exact ⟨rfl, .of_aside (.refl g), fun k => .inl rfl⟩
  | @tail g₁ g₂ _ hlapse ih =>
    obtain ⟨hendpoints, hears, hbefore⟩ := ih
    cases hlapse with
    | aside haside =>
      have hheld (k : Nat) : g₂.held? owner k = g₁.held? owner k :=
        held?_of_untimed (haside.fronts k)
      refine ⟨haside.endpoints.trans hendpoints, hears.trans (.of_aside haside) fun k =>
        .inr (hheld k), fun k => ?_⟩
      rw [hheld, state?_of_watch? (watch?_of_untimed (haside.fronts k))]
      exact hbefore k
    | @fail n d _ hfails =>
      have hheld (k : Nat) (hk : k ≠ n) : g₂.held? owner k = g₁.held? owner k :=
        held?_of_front? (by rw [hfails.fronts, if_neg hk])
      have hbound : g₁.state? n ≠ some .null := hfails.state?_ending rfl
      refine ⟨hfails.endpoints.trans hendpoints,
        hears.trans (hfails.hears (ho.congr hendpoints)) fun k => ?_, fun k => ?_⟩
      · by_cases hk : k = n
        · rw [hk]
          exact .inl ((hbefore n).resolve_right hbound)
        · exact .inr (hheld k hk)
      · by_cases hk : k = n
        · rw [hk]
          exact .inr hfails.state?_self
        · rw [hheld k hk, hfails.state?_of_ne hk]
          exact hbefore k

/-! ## All actions -/

/-- What an endpoint with a name hears. -/
def heard (name : String) (g g' : Gateway) : List EndpointCall :=
  (g'.log.drop g.log.length).filterMap (Event.callTo? name)

/-- Whether the connection at a place is not bound, or not there. -/
def isIdle (g : Gateway) (handle : Nat) : Bool := (g.state? handle).all (· = .null)

theorem isIdle_iff : g.isIdle handle = true ↔ ∀ c, g.get? handle = some c → c.life.state = .null := by
  cases hc : g.get? handle with
  | none => simp [isIdle, state?, stand?, front?, hc]
  | some c => simp [isIdle, state?_of_get? hc]

/-- A connection that nobody bound is idle. -/
theorem held?_idle (hs : g.isIdle k = true) {h : Holding} (hh : g.held? owner k = some h) :
    h.bound = false := by
  obtain ⟨s, hstate, hbound⟩ := held?_bound hh
  rw [isIdle, hstate] at hs
  have hnull : s = .null := by simpa using hs
  rw [hbound, hnull]
  rfl

/-- Whether an action lets the endpoint with a name live, and gives only idle connections to
others. -/
def spares (g : Gateway) (name : String) : Action → Bool
  | .attachEndpoint handle e => e.name ≠ name && g.isIdle handle
  | .dropEndpoint n => n ≠ name
  | _ => true

/-- What is heard in the course of an action, whatever becomes of the record of events. -/
structure Tells (owner : Nat) (name : String) (g g' : Gateway) : Prop where
  calls : Interleaves (heard name g g') fun k => callsAbout (g.held? owner k) (g'.held? owner k)
  passes : ∀ k, Passes (g.held? owner k) (g'.held? owner k)

theorem Hears.tells (h : Hears owner name g g') : Tells owner name g g' where
  calls := by
    obtain ⟨noticed, hlog, hnoticed⟩ := h.log
    rwa [heard, hlog, List.drop_left]
  passes := h.passes

/-- Nothing is told where connections stay as they are, or leave before they are bound. -/
theorem Tells.of_silent (hheard : heard name g g' = [])
    (h : ∀ k, g'.held? owner k = g.held? owner k ∨
      (g'.held? owner k = none ∧ ∀ h, g.held? owner k = some h → h.bound = false)) :
    Tells owner name g g' := by
  refine ⟨?_, fun k => ?_⟩
  · rw [hheard]
    refine .nil fun k => ?_
    rcases h k with hsame | ⟨hnone, hidle⟩
    · rw [hsame, callsAbout_self]
    · rw [hnone]
      cases hheld : g.held? owner k with
      | none => rfl
      | some h => simp [callsAbout, hidle h hheld]
  · rcases h k with hsame | ⟨hnone, -⟩
    · rw [hsame]
      exact .refl _
    · rw [hnone]
      exact .of_none _

theorem heard_of_log_eq (h : g'.log = g.log) : heard name g g' = [] := by
  rw [heard, h, List.drop_length]
  rfl

theorem held?_of_get?_eq (h : g'.get? k = g.get? k) : g'.held? owner k = g.held? owner k :=
  held?_of_front? (by rw [front?, h, front?])

theorem held?_of_none (h : g.get? k = none) : g.held? owner k = none := by
  rw [held?, front?, h]
  rfl

/-- Only idle connections are given back. -/
theorem recycle_of_not_null (hc : g.get? handle = some c) (hs : c.life.state ≠ .null) :
    (g.recycle handle).2 = g := by
  cases hf : c.isForeign with
  | true => rw [recycle_of_foreign hc hf]
  | false => rw [recycle_of_bound hc hf hs]

theorem tells_restock (h : Restocked g a (g.perform a)) (hlog : (g.perform a).log = g.log)
    (hbound : g.KeepsBound a) : Tells owner name g (g.perform a) := by
  refine .of_silent (heard_of_log_eq hlog) fun k => ?_
  generalize hg' : g.perform a = g' at h
  cases h with
  | same h _ => exact .inl (held?_of_get?_eq (h k))
  | arrive c _ watched _ h _ =>
    by_cases hkn : k = g.connections.length
    · have hnobody : g'.held? owner k = none := by
        rw [held?_of_get? ((h k).trans (if_pos hkn)), ← watched]
        rfl
      have hnew : g.held? owner k = none := held?_of_none (by simp [get?, hkn])
      exact .inl (hnobody.trans hnew.symm)
    · exact .inl (held?_of_get?_eq ((h k).trans (if_neg hkn)))
  | @detach handle _ h _ =>
    by_cases hkh : k = handle
    · subst hkh
      have hget := (h k).trans (if_pos rfl)
      cases hc : g.get? k with
      | none =>
        rw [hc] at hget
        exact .inl (held?_of_get?_eq (hget.trans hc.symm))
      | some c =>
        by_cases hs : c.life.state = .null
        · rw [hc] at hget
          have hidle : g.isIdle k = true := isIdle_iff.2 fun c' hc' =>
            Option.some.inj (hc.symm.trans hc') ▸ hs
          exact .inr ⟨held?_of_get? hget, fun held => held?_idle hidle⟩
        · have hsame : g.perform (.recycle k) = g := recycle_of_not_null hc hs
          rw [← hg', hsame]
          exact .inl rfl
    · exact .inl (held?_of_get?_eq ((h k).trans (if_neg hkh)))
  | leave handle h _ =>
    by_cases hkh : k = handle
    · have hgone := (h k).trans (if_pos hkh)
      refine .inr ⟨held?_of_none hgone, fun held => held?_idle (isIdle_iff.2 fun c hc => ?_)⟩
      by_contra hs
      have hstays := hbound k (lt_of_get? hc) (by simpa [hc, ConnectionState.isBound] using hs)
      rw [hg', hgone] at hstays
      cases hstays
    · exact .inl (held?_of_get?_eq ((h k).trans (if_neg hkh)))

theorem held?_modify {u : Connection → Connection}
    (hu : ∀ c, (u c).front.heldBy owner = c.front.heldBy owner) (k : Nat) :
    (g.modify handle u).held? owner k = g.held? owner k := by
  simp only [held?, front?, Option.bind_map]
  exact bind_get?_modify (fun c _ => hu c) k

/-- The endpoint owns the connection now, if it is there. -/
theorem get?_setEndpoint (g : Gateway) (handle place k : Nat) :
    (g.setEndpoint handle place).get? k =
      if k = handle then (g.get? handle).map fun c => { c with endpoint := some place }
      else g.get? k :=
  get?_modify g handle k _

theorem get?_attachEndpoint (g : Gateway) (handle k : Nat) (e : Endpoint) :
    (g.attachEndpoint handle e).get? k =
      if k = handle then (g.get? handle).map fun c => { c with endpoint := some g.endpoints.length }
      else g.get? k := by
  have hplace : (g.dropEndpoint e.name).endpoints.length = g.endpoints.length := List.length_map ..
  rw [← hplace]
  exact get?_setEndpoint (g.dropEndpoint e.name) handle _ k

/-- A setting takes a connection from nobody, but to give it to another one. -/
theorem held?_setting (hk : a.kind = .setting) (k : Nat) :
    (g.perform a).held? owner k = g.held? owner k ∨ ∃ e, a = .attachEndpoint k e := by
  cases a with
  | setHook handle hook outcome =>
    refine .inl (held?_modify (fun c => ?_) k)
    cases hl : c.leg with
    | foreign hooks =>
      simp only [Connection.front, Front.heldBy, Connection.type, Leg.type, hl]
      rfl
    | call _ | link _ => rfl
  | addListener handle l => exact .inl (held?_modify (by intro c; rfl) k)
  | removeListener handle key => exact .inl (held?_modify (by intro c; rfl) k)
  | setFailureListener handle l => exact .inl (held?_modify (by intro c; rfl) k)
  | attachEndpoint handle e =>
    by_cases hkh : k = handle
    · exact .inr ⟨e, by rw [hkh]⟩
    · exact .inl (held?_of_get?_eq ((get?_attachEndpoint g handle k e).trans (if_neg hkh)))
  | installSink handle => exact .inl (held?_of_front? ((Behind.modifyCall _).fronts k))
  | dropEndpoint _ | fetchFrames _ | dropSink _ => exact .inl rfl
  | _ => cases hk

theorem tells_setting (hk : a.kind = .setting) (hspares : g.spares name a = true)
    (ho : g.Owns owner name) : Tells owner name g (g.perform a) := by
  refine .of_silent (heard_of_log_eq (setting_perform g hk).log) fun k => ?_
  have hheld : (g.perform a).held? owner k = g.held? owner k ∨ ∃ e, a = .attachEndpoint k e :=
    held?_setting hk k
  rcases hheld with hsame | ⟨e, rfl⟩
  · exact .inl hsame
  · have hget := (get?_attachEndpoint g k k e).trans (if_pos rfl)
    have hidle := (Bool.and_eq_true_iff.1 hspares).2
    obtain ⟨old, hold, -⟩ := ho.alive
    have hother : g.endpoints.length ≠ owner := (List.getElem?_eq_some_iff.1 hold).1.ne'
    refine .inr ⟨?_, fun held => held?_idle hidle⟩
    cases hc : g.get? k with
    | none =>
      rw [hc] at hget
      exact held?_of_none hget
    | some c =>
      rw [hc] at hget
      rw [perform, held?_of_get? hget, Front.heldBy, if_neg]
      simpa [Connection.front] using hother

/-- Whatever an action does, the endpoint is told of it as it should. -/
theorem tells_perform (hs : g.Steady) (hp : g.Proper a) (hbound : g.KeepsBound a)
    (hspares : g.spares name a = true) (ho : g.Owns owner name) :
    Tells owner name g (g.perform a) := by
  have heffect := hs.effect hp
  generalize hg' : g.perform a = g' at heffect
  cases heffect with
  | restock h hlog _ =>
    subst hg'
    exact tells_restock h hlog hbound
  | setting hk => exact tells_setting hk hspares ho
  | lapses h => exact (h.hears ho).2.1.tells
  | bind h | close h => exact (h.hears ho).tells
  | «open» _ haside h =>
    refine ((Hears.of_aside haside).trans (h.hears (ho.congr haside.endpoints)) fun k => .inl ?_).tells
    exact held?_of_untimed (haside.fronts k)
  | setMode h => exact (h.hears ho).tells
  | @join g₁ _ x y _ _ h =>
    have hbehind := behind_link g x y
    have howns : (g.link x y).Owns owner name := ho.congr (by rw [hbehind.rest])
    have hlinked := (Hears.of_behind hbehind).trans (h.left.hears howns) fun k =>
      .inl (held?_of_front? (hbehind.fronts k))
    refine (hlinked.trans (h.right.hears (howns.congr h.left.endpoints)) fun k => ?_).tells
    by_cases hk : k = x
    · have hky : k ≠ y := hk ▸ h.distinct
      exact .inr (held?_of_front? ((h.right.fronts k).trans (if_neg hky)))
    · refine .inl (held?_of_front? ?_)
      rw [h.left.fronts, if_neg hk, hbehind.fronts]
  | send _ _ _ _ =>
    exact .of_silent (heard_of_log_eq rfl) fun k => .inl (held?_of_untimed (untimed_send g _ _ k))
  | receive k => exact (Hears.of_behind (.modifyLink _)).tells
  | clearLog =>
    have hnothing : heard name g g.clearLog = [] := by simp [heard, clearLog]
    exact .of_silent hnothing fun k => .inl rfl

end Gateway

end MediaGateway
