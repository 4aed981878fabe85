import MediaGateway.Proofs.Gateway.Front
import MediaGateway.Proofs.Gateway.Renewal

/-!
# A connection and its next owner

Whoever watches a connection is taken off when it is recycled. From then on only those watch it who
come later, and nothing that happens depends on who watched it before. But recycling does not concern
the call behind the connection. Until a new sink is installed, frames go to the sink of the earlier
owner, and a new binding takes back all of the earlier call but what payload numbers mean and the rate
of the clocks.
-/

namespace MediaGateway.Gateway

variable {g g' : Gateway} {k handle : Nat}

/-! ## What an action makes of a connection -/

/-- What an action makes of the connection at a place, as far as others can set it. -/
structure Succeeds (g : Gateway) (k : Nat) (a : Action) (c c' : Connection) : Prop
    extends Connection.SameKind c c' where
  listeners : ∀ l ∈ c'.listeners, l ∈ c.listeners ∨ a = .addListener k l
  failureListener : ∀ l ∈ c'.failureListener, l ∈ c.failureListener ∨ a = .setFailureListener k l
  endpoint : ∀ e ∈ c'.endpoint, e ∈ c.endpoint ∨
    (e = g.endpoints.length ∧ ∃ new, a = .attachEndpoint k new)
  sink : a ≠ .installSink k → c'.sink? = c.sink?
  newSink : a = .installSink k → c.builtType? = some .rtp → c'.sink? = some g.sinks.length

namespace Succeeds

variable {a : Action} {c c' : Connection}

/-- Those who watch are as before, or are taken off. -/
theorem of_fewer (hkind : Connection.SameKind c c') (hlisteners : c'.listeners ⊆ c.listeners)
    (hfailure : c'.failureListener = none ∨ c'.failureListener = c.failureListener)
    (hendpoint : c'.endpoint = none ∨ c'.endpoint = c.endpoint) (hsink : c'.sink? = c.sink?)
    (ha : a ≠ .installSink k) : Succeeds g k a c c' where
  toSameKind := hkind
  listeners := fun l hl => .inl (hlisteners hl)
  failureListener := by
    intro l hl
    rcases hfailure with hnone | hsame
    · rw [hnone] at hl
      cases hl
    · exact .inl (hsame ▸ hl)
  endpoint := by
    intro e he
    rcases hendpoint with hnone | hsame
    · rw [hnone] at he
      cases he
    · exact .inl (hsame ▸ he)
  sink := fun _ => hsink
  newSink := fun h => absurd h ha

theorem of_worked (h : c.Worked c') (ha : a ≠ .installSink k) : Succeeds g k a c c' :=
  of_fewer h.toSameKind (fun _ hl => h.listeners ▸ hl) h.failureListener h.endpoint h.sink ha

theorem refl (g : Gateway) (c : Connection) (ha : a ≠ .installSink k) : Succeeds g k a c c :=
  of_worked (Std.Refl.refl c) ha

theorem detach (g : Gateway) (c : Connection) (ha : a ≠ .installSink k) :
    Succeeds g k a c c.detach :=
  of_fewer (.of_leg rfl rfl) (List.nil_subset _) (.inl rfl) (.inl rfl) rfl ha

end Succeeds

/-- A setting of one connection. -/
theorem succeeds_modify {a : Action} {u : Connection → Connection} {c' : Connection}
    (hc' : (g.modify handle u).get? k = some c') (hk : k ≠ handle → a ≠ .installSink k)
    (hu : k = handle → ∀ c, Succeeds g k a c (u c)) :
    ∃ c, g.get? k = some c ∧ Succeeds g k a c c' := by
  rw [get?_modify] at hc'
  by_cases h : k = handle
  · rw [if_pos h, Option.map_eq_some_iff] at hc'
    obtain ⟨c, hc, rfl⟩ := hc'
    exact ⟨c, h ▸ hc, hu h c⟩
  · rw [if_neg h] at hc'
    exact ⟨c', hc', .refl g c' (hk h)⟩

theorem succeeds_setting {a : Action} (h : a.kind = .setting) {c' : Connection}
    (hc' : (g.perform a).get? k = some c') : ∃ c, g.get? k = some c ∧ Succeeds g k a c c' := by
  cases a with
  | setHook handle hook outcome =>
    refine succeeds_modify (u := _) hc' (by simp) fun _ c => ?_
    cases hl : c.leg with
    | foreign hooks =>
      refine .of_fewer ⟨rfl, ?_⟩ (List.Subset.refl _) (.inr rfl) (.inr rfl) ?_ (by simp)
      · simp [Connection.builtType?, Leg.builtType?, hl]
      · simp [Connection.sink?, Connection.call?, hl]
    | call _ | link _ => exact .refl g c (by simp)
  | addListener handle l =>
    refine succeeds_modify hc' (by simp) fun hk c => ?_
    subst hk
    refine ⟨.of_leg rfl rfl, fun l' hl' => ?_, fun _ => .inl, fun _ => .inl, fun _ => rfl, by simp⟩
    rcases List.mem_append.1 hl' with hl' | hl'
    · exact .inl hl'
    · obtain rfl := List.mem_singleton.1 hl'
      exact .inr rfl
  | removeListener handle key =>
    exact succeeds_modify hc' (by simp) fun _ c =>
      .of_fewer (.of_leg rfl rfl) (List.filter_subset_self _) (.inr rfl) (.inr rfl) rfl (by simp)
  | setFailureListener handle l =>
    refine succeeds_modify hc' (by simp) fun hk c => ?_
    subst hk
    refine ⟨.of_leg rfl rfl, fun _ => .inl, fun l' hl' => ?_, fun _ => .inl, fun _ => rfl, by simp⟩
    obtain rfl := Option.some.inj hl'
    exact .inr rfl
  | attachEndpoint handle e =>
    refine succeeds_modify (g := g) hc' (by simp) fun hk c => ?_
    subst hk
    refine ⟨.of_leg rfl rfl, fun _ => .inl, fun _ => .inl, fun e' he' => .inr ⟨?_, e, rfl⟩,
      fun _ => rfl, by simp⟩
    rw [← Option.some.inj he']
    exact List.length_map ..
  | installSink handle =>
    refine succeeds_modify (g := g) hc' (fun hk h => hk (Action.installSink.inj h).symm)
      fun hk c => ?_
    subst hk
    cases hl : c.leg with
    | call call =>
      refine ⟨⟨rfl, ?_⟩, fun _ => .inl, fun _ => .inl, fun _ => .inl, fun h => absurd rfl h, ?_⟩
      · simp [Connection.builtType?, Leg.builtType?, hl]
      · simp [Connection.sink?, Connection.call?]
    | link _ | foreign _ =>
      refine ⟨.of_leg rfl rfl, fun _ => .inl, fun _ => .inl, fun _ => .inl, fun h => absurd rfl h,
        fun _ htype => ?_⟩
      simp [Connection.builtType?, Leg.builtType?, hl] at htype
  | dropEndpoint name => exact ⟨c', hc', .refl g c' (by simp)⟩
  | fetchFrames sink => exact ⟨c', hc', .refl g c' (by simp)⟩
  | dropSink sink => exact ⟨c', hc', .refl g c' (by simp)⟩
  | _ => cases h

/-- Every action, at a place that is known already. -/
theorem succeeds_perform (hk : k < g.connections.length) (a : Action) {c' : Connection}
    (hc' : (g.perform a).get? k = some c') : ∃ c, g.get? k = some c ∧ Succeeds g k a c c' := by
  have hsink (h : a.kind ≠ .setting) : a ≠ .installSink k := fun he => h (by rw [he]; rfl)
  cases ha : a.kind with
  | restock =>
    rcases (restock_perform g ha).get?_cases hc' with ⟨c, hc, rfl | rfl⟩ | ⟨hnew, -⟩
    · exact ⟨c', hc, .refl g c' (hsink (by simp [ha]))⟩
    · exact ⟨c, hc, .detach g c (hsink (by simp [ha]))⟩
    · omega
  | setting => exact succeeds_setting ha hc'
  | redraw =>
    obtain ⟨e, rfl⟩ := Action.eq_redraw ha
    exact ⟨c', hc', .refl g c' (by simp)⟩
  | work =>
    obtain ⟨c, hc, hworked⟩ := (turns_perform g ha).works.within.exists_of_get? hc'
    exact ⟨c, hc, .of_worked hworked (hsink (by simp [ha]))⟩

/-- Connections, endpoints and sinks keep their places. -/
structure KeepsPlaces (g g' : Gateway) : Prop where
  connections : g.connections.length ≤ g'.connections.length
  endpoints : g.endpoints.length ≤ g'.endpoints.length
  sinks : g.sinks.length ≤ g'.sinks.length

namespace KeepsPlaces

theorem refl (g : Gateway) : KeepsPlaces g g := ⟨Nat.le_refl _, Nat.le_refl _, Nat.le_refl _⟩

theorem trans {g'' : Gateway} (h : KeepsPlaces g g') (h' : KeepsPlaces g' g'') :
    KeepsPlaces g g'' where
  connections := Nat.le_trans h.connections h'.connections
  endpoints := Nat.le_trans h.endpoints h'.endpoints
  sinks := Nat.le_trans h.sinks h'.sinks

theorem restock (h : Restock g g') : KeepsPlaces g g' := by
  cases h with
  | create type =>
    simp only [Gateway.create, obtain, refer]
    cases hp : g.pool type with
    | cons handle rest => cases type <;> exact ⟨Nat.le_refl _, Nat.le_refl _, Nat.le_refl _⟩
    | nil => cases type <;> exact ⟨by simp [build, addConnection], Nat.le_refl _, Nat.le_refl _⟩
  | adopt id hooks => exact ⟨by simp [Gateway.adopt, addConnection, refer], Nat.le_refl _, Nat.le_refl _⟩
  | recycle handle =>
    simp only [Gateway.recycle]
    repeat' split
    any_goals exact .refl g
    · unfold withPool
      split <;> exact ⟨by simp [Gateway.modify], Nat.le_refl _, Nat.le_refl _⟩
    · exact ⟨by simp [Gateway.modify], Nat.le_refl _, Nat.le_refl _⟩
  | giveUp reference =>
    simp only [Gateway.giveUp, reap]
    split
    · exact .refl g
    · split
      · exact ⟨Nat.le_refl _, Nat.le_refl _, Nat.le_refl _⟩
      · exact ⟨by simp, Nat.le_refl _, Nat.le_refl _⟩

theorem setting (h : Setting g g') : KeepsPlaces g g' := by
  have hstock := h.sameStock
  refine ⟨Nat.le_of_eq hstock.places.symm, ?_, ?_⟩
  · cases h with
    | attachEndpoint handle e => simp [Gateway.attachEndpoint, dropEndpoint]
    | dropEndpoint name => exact Nat.le_of_eq (List.length_map ..).symm
    | _ => exact Nat.le_refl _
  · cases h with
    | installSink handle => simp [Gateway.installSink]
    | fetchFrames sink => exact Nat.le_of_eq (List.length_modify ..).symm
    | dropSink sink => exact Nat.le_of_eq (List.length_modify ..).symm
    | _ => exact Nat.le_refl _

theorem perform (g : Gateway) (a : Action) : KeepsPlaces g (g.perform a) := by
  cases ha : a.kind with
  | restock => exact restock (restock_perform g ha)
  | setting => exact setting (setting_perform g ha)
  | redraw =>
    obtain ⟨e, rfl⟩ := Action.eq_redraw ha
    exact ⟨Nat.le_refl _, Nat.le_refl _, Nat.le_refl _⟩
  | work =>
    have hworks := (turns_perform g ha).works
    have hendpoints : (g.perform a).endpoints = g.endpoints :=
      congrArg Ground.endpoints hworks.within.ground
    exact ⟨Nat.le_of_eq hworks.within.places.symm, Nat.le_of_eq (by rw [hendpoints]),
      Nat.le_of_eq hworks.sinks.symm⟩

end KeepsPlaces

/-! ## Since a connection was recycled -/

/-- What is to be said of a connection since it had nobody who watched it: who came, and where its
frames go. It is `c` then, in `g`, and `done` is what was done since. -/
structure Afresh (g : Gateway) (handle : Nat) (c : Connection) (done : List Action)
    (c' : Connection) : Prop extends Connection.SameKind c c' where
  listeners : ∀ l ∈ c'.listeners, .addListener handle l ∈ done
  failureListener : ∀ l ∈ c'.failureListener, .setFailureListener handle l ∈ done
  endpoint : ∀ e ∈ c'.endpoint, g.endpoints.length ≤ e
  sink : .installSink handle ∉ done → c'.sink? = c.sink?
  newSink : .installSink handle ∈ done → ∃ place, c'.sink? = some place ∧ g.sinks.length ≤ place

namespace Afresh

variable {c c' c'' : Connection} {done : List Action}

theorem start (g : Gateway) (handle : Nat) (c : Connection) : Afresh g handle c [] c.detach where
  toSameKind := .of_leg rfl rfl
  listeners := fun _ hl => by cases hl
  failureListener := fun _ hl => by cases hl
  endpoint := fun _ he => by cases he
  sink := fun _ => rfl
  newSink := fun h => by cases h

theorem step {a : Action} (h : Afresh g handle c done c') (hp : KeepsPlaces g g')
    (htype : c.builtType? = some .rtp) (hs : Succeeds g' handle a c' c'') :
    Afresh g handle c (done ++ [a]) c'' where
  toSameKind := IsTrans.trans _ _ _ h.toSameKind hs.toSameKind
  listeners := by
    intro l hl
    rw [List.mem_append, List.mem_singleton]
    exact (hs.listeners l hl).imp (h.listeners l) Eq.symm
  failureListener := by
    intro l hl
    rw [List.mem_append, List.mem_singleton]
    exact (hs.failureListener l hl).imp (h.failureListener l) Eq.symm
  endpoint := by
    intro e he
    rcases hs.endpoint e he with he | ⟨rfl, -⟩
    · exact h.endpoint e he
    · exact hp.endpoints
  sink := by
    intro hnot
    rw [List.mem_append, List.mem_singleton, not_or] at hnot
    exact (hs.sink (Ne.symm hnot.2)).trans (h.sink hnot.1)
  newSink := by
    intro hin
    by_cases ha : a = .installSink handle
    · exact ⟨_, hs.newSink ha (h.type.trans htype), hp.sinks⟩
    · rw [List.mem_append, List.mem_singleton] at hin
      obtain ⟨place, hplace, hnew⟩ := h.newSink (hin.resolve_right (Ne.symm ha))
      exact ⟨place, (hs.sink ha).trans hplace, hnew⟩

end Afresh

/-- By induction on what is done after some of it was done already. -/
theorem afresh_run {c : Connection} (htype : c.builtType? = some .rtp) (done rest : List Action)
    (hp : KeepsPlaces g g') (hk : handle < g.connections.length)
    (h : ∀ c', g'.get? handle = some c' → Afresh g handle c done c') :
    ∀ c', (g'.run rest).get? handle = some c' → Afresh g handle c (done ++ rest) c' := by
  induction rest generalizing g' done with
  | nil => rwa [List.append_nil]
  | cons a rest ih =>
    rw [List.append_cons]
    refine ih (done ++ [a]) (hp.trans (.perform g' a)) fun c'' hc'' => ?_
    obtain ⟨c', hc', hs⟩ := succeeds_perform (Nat.lt_of_lt_of_le hk hp.connections) a hc''
    exact (h c' hc').step hp htype hs

/-! ## Recycling -/

theorem recycle_ok {c : Connection} (hc : g.get? handle = some c) (hf : c.isForeign = false)
    (hok : (g.recycle handle).1 = .ok ()) : c.life.state = .null := by
  by_contra hs
  rw [recycle_of_bound hc hf hs] at hok
  cases hok

/-- What recycling leaves does not depend on who watched the connection. -/
theorem recycle_watched {c : Connection} (hc : g.get? handle = some c) (hf : c.isForeign = false)
    (hs : c.life.state = .null) (listeners : List Listener)
    (failureListener : Option FailureListener) (endpoint : Option Nat) :
    (g.modify handle fun c => { c with listeners, failureListener, endpoint }).recycle handle =
      g.recycle handle := by
  have hc' : (g.modify handle fun c => { c with listeners, failureListener, endpoint }).get? handle =
      some { c with listeners, failureListener, endpoint } := by
    rw [get?_modify, if_pos rfl, hc]
    rfl
  rw [recycle_of_idle hc' hf hs, recycle_of_idle hc hf hs, modify_modify, pool_modify]
  rfl

/-- Of a recycled connection with a call: what happens later does not depend on who watched it before,
and only those watch it who came later. What it plays goes to its sink only, and that is the one from
before until a new one is installed. Binding it makes the call a new one, but for what it recalls. -/
theorem next_owner_of_recycled_connection (config : GatewayConfig) (environment : Environment)
    (before rest : List Action) (handle : Nat) (c : Connection)
    (hc : ((make config environment).run before).get? handle = some c)
    (htype : c.builtType? = some .rtp)
    (hok : (((make config environment).run before).recycle handle).1 = .ok ()) :
    let g := (make config environment).run before
    let g' := (g.recycle handle).2.run rest
    (∀ listeners failureListener endpoint,
      ((g.modify handle fun c => { c with listeners, failureListener, endpoint }).recycle
        handle).2.run rest = g') ∧
    ∀ c', g'.get? handle = some c' →
      Afresh g handle c rest c' ∧
      (∀ place, c'.sink? ≠ some place → (g'.pump handle).2.sinks[place]? = g'.sinks[place]?) ∧
      (c'.life.state = .null → (g'.bindConnection handle).1 = .ok () ∧ ∃ call call',
        c'.call? = some call ∧
        (g'.startBind handle).2.view? handle = some ⟨.halfOpen, c'.life.mode, call'⟩ ∧
        call' = (g'.newCall c'.id).recalling call ∧
        call'.exchange = { cname := g'.environment.cname c'.id } ∧
        ∀ s ∈ call'.sessions, s.negotiated = .empty ∧ s.statistics = {}) := by
  intro g g'
  have hf : c.isForeign = false := (Connection.builtType?_eq_some.1 htype).1
  have hs : c.life.state = .null := recycle_ok hc hf hok
  have hrecycled : (g.recycle handle).2.get? handle = some c.detach := by
    rw [recycle_of_idle hc hf hs, get?_withPool, get?_modify, if_pos rfl, hc]
    rfl
  have hafresh : ∀ c', g'.get? handle = some c' → Afresh g handle c rest c' := by
    refine afresh_run htype [] rest (.restock (.recycle handle)) (lt_of_get? hc) fun c' hc' => ?_
    obtain rfl := Option.some.inj (hrecycled.symm.trans hc')
    exact .start g handle c
  have hrun : g' = (make config environment).run (before ++ .recycle handle :: rest) := by
    simp only [run, List.foldl_append, List.foldl_cons]
    rfl
  refine ⟨fun listeners failureListener endpoint => ?_, fun c' hc' => ⟨hafresh c' hc', fun place => ?_,
    fun hnull => ?_⟩⟩
  · rw [recycle_watched hc hf hs]
  · exact sinks_pump g' handle hc'
  · obtain ⟨call, hcall⟩ := Connection.exists_call? ((hafresh c' hc').type.trans htype)
    have hsound := callsSound_run config environment (before ++ .recycle handle :: rest)
    have hbelong := sessionsBelong_run config environment (before ++ .recycle handle :: rest)
    rw [← hrun] at hsound hbelong
    have hview : g'.view? handle = some ⟨c'.life.state, c'.life.mode, call⟩ := by
      simp [view?, hc', Connection.view?, hcall]
    have hrenew := renew_eq (hsound handle _ hview) hcall (hbelong handle c' hc')
    refine ⟨bindConnection_ok hc' hcall hnull, call, _, hcall, view_startBind hc' hcall hnull, hrenew,
      rfl, fun s hs => ?_⟩
    obtain ⟨t, -, rfl⟩ := (Call.mem_sessions_mapSessions (c := call)
      (f := fun s => s.reset (g'.environment.numbering s.seat))).1 hs
    exact ⟨rfl, rfl⟩

/-- A call is closed and recycled, and handed out again to someone who installs a sink. The listener
from before is gone, nothing that the call plays reaches the sink from before, and it can be bound. -/
theorem next_owner_who_installs_sink :
    let before : List Action := [.create .rtp, .installSink 0,
      .addListener 0 ⟨0, "first", none, .finish .done⟩, .bind 0, .close 0]
    let rest : List Action := [.create .rtp, .installSink 0]
    let g := (make {} .isolated).run before
    let g' := (g.recycle 0).2.run rest
    g'.resolve? 1 = some 0 ∧ (g'.pump 0).2.sinks[0]? = g'.sinks[0]? ∧
    (g'.bindConnection 0).1 = .ok () ∧ ∃ c', g'.get? 0 = some c' ∧ c'.listeners = [] := by
  intro before rest g g'
  have hshared : g'.resolve? 1 = some 0 := by decide +kernel
  have hsome : (g.get? 0).isSome = true := by decide +kernel
  have htype : g.builtType? 0 = some .rtp := by decide +kernel
  have hok : (g.recycle 0).1 = .ok () := by decide +kernel
  have hsome' : (g'.get? 0).isSome = true := by decide +kernel
  have hlife : (g'.get? 0).map (fun c => c.life.state) = some .null := by decide +kernel
  have hsink : (g'.get? 0).bind Connection.sink? = some 1 := by decide +kernel
  obtain ⟨c, hc⟩ := Option.isSome_iff_exists.1 hsome
  obtain ⟨c', hc'⟩ := Option.isSome_iff_exists.1 hsome'
  rw [builtType?, hc] at htype
  rw [hc'] at hlife hsink
  obtain ⟨-, hnext⟩ := next_owner_of_recycled_connection {} .isolated before rest 0 c hc htype hok
  obtain ⟨hafresh, hpump, hbind⟩ := hnext c' hc'
  have hsink : c'.sink? = some 1 := hsink
  have hold : c'.sink? ≠ some 0 := by simp [hsink]
  obtain ⟨hbound, -⟩ := hbind (Option.some.inj hlife)
  refine ⟨hshared, hpump 0 hold, hbound, c', hc', List.eq_nil_iff_forall_not_mem.2 fun l hl => ?_⟩
  have hadded := hafresh.listeners l hl
  simp [rest] at hadded

/-- A call with a sink is recycled and handed out again to someone who answers an offer and listens.
What the other side sends is played into the sink from before. -/
theorem next_owner_plays_into_sink_from_before :
    let g := (make {} .isolated).run [.create .rtp, .installSink 0]
    let offer : String := "v=0\r\no=- 1 1 IN IP4 127.0.0.1\r\ns=-\r\nc=IN IP4 127.0.0.1\r\nt=0 0\r\n" ++
      "m=audio 4000 RTP/AVP 0\r\n"
    let g' := (g.recycle 0).2.run [.create .rtp, .bind 0, .processOffer 0 offer,
      .setMode 0 .recvOnly, .arrive 0 .audio (.rtp (.make 0 1 160 7 [1, 2, 3] false) ⟨.loopback, 4000⟩),
      .pump 0, .elapse 100]
    (g.recycle 0).1 = .ok () ∧ g'.resolve? 1 = some 0 ∧
    g'.sinks.map (fun s => s.frames.length) = [0] ∧
    (g'.pump 0).2.sinks.map (fun s => s.frames.length) = [1] := by
  decide +kernel

end MediaGateway.Gateway
