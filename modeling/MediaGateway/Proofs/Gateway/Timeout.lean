import MediaGateway.Proofs.Gateway.Heartbeat

/-!
# Timeouts are exact

Along a run of operations and ticks, the heartbeats that a connection was given since it entered its
state, or was refreshed last, and the heartbeats that are left make up the full time of the state. So
it times out at the tick that makes the time full, not earlier and not later.
-/

namespace MediaGateway

/-- Whether an action refreshes a connection. -/
def Action.refreshes (handle : Nat) : Action → Bool
  | .refresh k => k == handle
  | _ => false

/-- Whether an action is a tick of heartbeats. -/
def Action.isHeartbeat : Action → Bool
  | .tick .heartbeat => true
  | _ => false

namespace Gateway

variable {g g' g'' : Gateway}

/-- The state of a connection and the number of its binding. -/
def stay? (g : Gateway) (handle : Nat) : Option (ConnectionState × Nat) :=
  (g.life? handle).map fun l => (l.state, l.generation)

/-- The ticks of heartbeats since a connection entered its state or was refreshed last, counted along
a run that begins after `n` of them. -/
def beatsSince (handle : Nat) (g : Gateway) : List Action → Nat → Nat
  | [], n => n
  | a :: rest, n =>
    beatsSince handle (g.perform a) rest
      (if a.refreshes handle = true ∨ (g.perform a).stay? handle ≠ g.stay? handle then 0
        else if a.isHeartbeat = true then n + 1
        else n)

/-- A run of operations with ticks between them: no listener starts operations in the middle of a
tick, and there is no media that refreshes connections. -/
def TicksBetween (g : Gateway) : List Action → Prop
  | [] => True
  | a :: rest =>
    (a.leavesTime = true ∨ (∃ k, a = .refresh k) ∨ (a = .tick .heartbeat ∧ g.TicksQuietly)) ∧
      (g.perform a).TicksBetween rest

/-! ## Operations -/

/-- Every life is one that was there, or goes on from there, or is new. -/
structure Aged (g g' : Gateway) : Prop where
  config : g'.config = g.config
  resolution : g'.scheduler.resolution = g.scheduler.resolution
  places : g.connections.length ≤ g'.connections.length
  lives : ∀ k l', g'.life? k = some l' →
    (∃ l, g.life? k = some l ∧
      l.Advances g.config.timeouts g.scheduler.resolution l') ∨
    (g.connections.length ≤ k ∧
      Lifecycle.Advances g.config.timeouts g.scheduler.resolution {} l')

theorem Aged.refl (g : Gateway) : Aged g g :=
  ⟨rfl, rfl, Nat.le_refl _, fun _ l hl => .inl ⟨l, hl, .refl _ _ l⟩⟩

theorem Aged.trans (h : Aged g g') (h' : Aged g' g'') : Aged g g'' := by
  refine ⟨h'.config.trans h.config, h'.resolution.trans h.resolution,
    Nat.le_trans h.places h'.places, fun k l'' hl'' => ?_⟩
  have hlives := h'.lives k l'' hl''
  rw [h.config, h.resolution] at hlives
  rcases hlives with ⟨l', hl', ha'⟩ | ⟨hk, ha'⟩
  · rcases h.lives k l' hl' with ⟨l, hl, ha⟩ | ⟨hk, ha⟩
    · exact .inl ⟨l, hl, ha.trans ha'⟩
    · exact .inr ⟨hk, ha.trans ha'⟩
  · exact .inr ⟨Nat.le_trans h.places hk, ha'⟩

theorem LivesStep.aged (h : LivesStep g g') (hconfig : g'.config = g.config) : Aged g g' := by
  cases h with
  | same hs =>
    refine ⟨hs.config, by rw [hs.scheduler], Nat.le_of_eq hs.places.symm, fun k l hl => ?_⟩
    exact .inl ⟨l, hs.lives k ▸ hl, .refl _ _ l⟩
  | @step handle l l' epoch? hl hs hlives hplaces hscheduler =>
    refine ⟨hconfig, ?_, Nat.le_of_eq hplaces.symm, fun k m hm => ?_⟩
    · rw [hscheduler]
      cases epoch? <;> rfl
    · rcases life_cases hlives hm with ⟨rfl, rfl⟩ | ⟨-, hm⟩
      · exact .inl ⟨l, hl, hs.advances⟩
      · exact .inl ⟨m, hm, .refl _ _ m⟩
  | arrive played hlives hplaces hscheduler =>
    refine ⟨hconfig, by rw [hscheduler], by omega, fun k m hm => ?_⟩
    rcases life_cases hlives hm with ⟨rfl, rfl⟩ | ⟨-, hm⟩
    · exact .inr ⟨Nat.le_refl _, .refl _ _ _⟩
    · exact .inl ⟨m, hm, .refl _ _ m⟩
  | leave handle hlives hplaces hscheduler =>
    refine ⟨hconfig, by rw [hscheduler], Nat.le_of_eq hplaces.symm, fun k m hm => ?_⟩
    rw [hlives] at hm
    by_cases hk : k = handle
    · simp [hk] at hm
    · rw [if_neg hk] at hm
      exact .inl ⟨m, hm, .refl _ _ m⟩

theorem Changes.aged (h : Changes g g') : Aged g g' := by
  induction h with
  | refl => exact .refl _
  | tail _ hc ih => exact ih.trans (hc.lives.aged hc.sameStock.config)

/-- Actions that leave the time of connections alone unless they enter a state. -/
theorem aged_perform (g : Gateway) {a : Action} (h : a.leavesTime = true) :
    Aged g (g.perform a) := by
  cases hk : a.kind with
  | restock =>
    have hrestock := restock_perform g hk
    exact hrestock.lives.aged hrestock.ground.1
  | setting =>
    have hset := setting_perform g hk
    exact (LivesStep.same hset.sameLives).aged hset.sameStock.config
  | redraw =>
    obtain ⟨e, rfl⟩ := Action.eq_redraw hk
    exact ⟨rfl, rfl, Nat.le_refl _, fun _ l hl => .inl ⟨l, hl, .refl _ _ l⟩⟩
  | work => exact (changes_perform g hk h).aged

/-! ## The tally -/

/-- The time left of a connection and the heartbeats since it entered its state make up the full
time. -/
def Tallied (g : Gateway) (handle n : Nat) : Prop :=
  ∀ l, g.life? handle = some l → g.config.timeouts.seconds l.state ≠ 0 →
    l.ttl + n = g.config.timeouts.ttl l.state g.scheduler.resolution

theorem Tallied.aged {handle n : Nat} (h : g.Tallied handle n) (ha : Aged g g') :
    g'.Tallied handle (if g'.stay? handle ≠ g.stay? handle then 0 else n) := by
  intro l' hl' hs
  rw [ha.config] at hs
  rw [ha.config, ha.resolution]
  rcases ha.lives handle l' hl' with ⟨l, hl, hadv⟩ | ⟨hk, hadv⟩
  · by_cases hstay : g'.stay? handle = g.stay? handle
    · simp only [stay?, hl, hl', Option.map_some, Option.some.injEq, Prod.mk.injEq] at hstay
      rw [if_neg (by simp [stay?, hl, hl', hstay]), hadv.ttl_eq hstay.1 hstay.2, hstay.1]
      exact h l hl (hstay.1 ▸ hs)
    · rw [if_pos hstay, hadv.ttl_full]
      · rfl
      · simpa [stay?, hl, hl'] using hstay
  · have hnone : g.life? handle = none := by
      cases hl : g.life? handle with
      | none => rfl
      | some l =>
        have := lt_of_life? hl
        omega
    rw [if_pos (by simp [stay?, hl', hnone])]
    refine hadv.ttl_full fun hsame => ?_
    rw [hsame.1] at hs
    exact hs rfl

theorem stay?_refresh (g : Gateway) (k handle : Nat) :
    (g.refresh k).stay? handle = g.stay? handle := by
  simp only [stay?, life?_refresh]
  by_cases hk : handle = k
  · subst hk
    rw [if_pos rfl, Option.map_map]
    refine congrArg (fun v => (g.life? handle).map v) (funext fun l => ?_)
    simp only [Function.comp_apply, Lifecycle.refresh]
    split <;> rfl
  · rw [if_neg hk]

theorem Tallied.refresh {handle n : Nat} (h : g.Tallied handle n) (k : Nat) :
    (g.refresh k).Tallied handle (if k = handle then 0 else n) := by
  intro l' hl' hs
  rw [life?_refresh] at hl'
  by_cases hk : k = handle
  · subst hk
    rw [if_pos rfl] at hl' ⊢
    obtain ⟨l, hl, rfl⟩ := Option.map_eq_some_iff.1 hl'
    rw [Lifecycle.refresh_state] at hs ⊢
    rw [Lifecycle.refresh_of_bound (Timeouts.isBound_of_seconds hs)]
    rfl
  · rw [if_neg (Ne.symm hk)] at hl'
    rw [if_neg hk]
    exact h l' hl' hs

theorem config_tick (g : Gateway) (q : Queue) : (g.tick q).2.config = g.config :=
  (plainTurns_tick g q).turns.sameStock.config

theorem Tallied.tick {handle n : Nat} (h : g.Tallied handle n) (ht : Timed [] g)
    (hq : g.TicksQuietly) : (g.tick .heartbeat).2.Tallied handle
      (if (g.tick .heartbeat).2.stay? handle ≠ g.stay? handle then 0 else n + 1) := by
  intro l' hl' hs
  have hresolution : (g.tick .heartbeat).2.scheduler.resolution = g.scheduler.resolution := by
    rw [(ht.tick .heartbeat).resolution, config_tick, ht.resolution]
  have hstay : (g.tick .heartbeat).2.stay? handle =
      some (l'.state, l'.generation) := by rw [stay?, hl']; rfl
  rw [life?_tick ht hq] at hl'
  obtain ⟨l, hl, rfl⟩ := Option.map_eq_some_iff.1 hl'
  rw [config_tick] at hs
  rw [config_tick, hresolution, hstay]
  by_cases hone : l.ttl = 1
  · rw [Lifecycle.afterHeartbeat, if_pos hone] at hs
    exact absurd rfl hs
  · rw [Lifecycle.afterHeartbeat, if_neg hone] at hs ⊢
    have hpos := (ht.sound handle l hl).counted.2 hs
    have hsum := h l hl hs
    rw [if_neg (by simp [stay?, hl])]
    simp only
    omega

/-- The times are tallied along a run, by induction on the actions. -/
theorem tallied_run {actions : List Action} {handle n : Nat} (h : g.Tallied handle n)
    (ht : Timed [] g) (hb : g.TicksBetween actions) :
    (g.run actions).Tallied handle (beatsSince handle g actions n) := by
  induction actions generalizing g n with
  | nil => exact h
  | cons a rest ih =>
    obtain ⟨ha, hrest⟩ := hb
    refine ih ?_ (ht.perform a) hrest
    rcases ha with ha | ⟨k, rfl⟩ | ⟨rfl, hq⟩
    · have htallied := h.aged (aged_perform g ha)
      cases a with
      | refresh _ | send _ _ | pollMedia _ | pump _ | tick _ => simp [Action.leavesTime] at ha
      | _ => simpa [Action.refreshes, Action.isHeartbeat] using htallied
    · have hrefresh : (g.perform (.refresh k)).Tallied handle (if k = handle then 0 else n) :=
        h.refresh k
      have hstay : (g.perform (.refresh k)).stay? handle = g.stay? handle := stay?_refresh g k handle
      simpa [Action.refreshes, Action.isHeartbeat, hstay] using hrefresh
    · have htick : (g.perform (.tick .heartbeat)).Tallied handle
          (if (g.perform (.tick .heartbeat)).stay? handle ≠ g.stay? handle then 0 else n + 1) :=
        h.tick ht hq
      simpa [Action.refreshes, Action.isHeartbeat] using htick

/-! ## Timeouts -/

/-- Timeouts are exact, in every reachable state of a gateway with any number of connections.

Time is counted exactly in the states in which it is limited, by exactly one task of the current
epoch. Heartbeats of other epochs, or of connections that are gone, have no effect and leave, and the
last heartbeat of a connection is its failure.

At a tick, every connection whose time is counted has one heartbeat less, those that had one left are
in `NULL`, and the tasks that have nothing more to count are gone. What is noticed of a tick are the
failures, in the order of the tasks.

Along a run of operations with ticks between them, the heartbeats left and those since the connection
entered its state, or was refreshed last, make up the full time. So it fails at the tick that makes
the time full, and never where time is not limited. -/
theorem heartbeat_timeouts_exact (config : GatewayConfig) (environment : Environment)
    (actions : List Action) :
    let start := make config environment
    let g := start.run actions
    let full (s : ConnectionState) : Nat :=
      (config.timeouts.seconds s).toNat * (max config.resolution 1).toNat + 1
    (∀ k l, g.life? k = some l →
      (0 < l.ttl ↔ config.timeouts.seconds l.state ≠ 0) ∧
      g.scheduler.heartbeat.count (.heartbeat k l.epoch) = if 0 < l.ttl then 1 else 0) ∧
    (∀ k e, (∀ l, g.life? k = some l → l.epoch ≠ e) → g.heartbeat k e = (false, g)) ∧
    (∀ k c, g.get? k = some c → c.life.ttl = 1 →
      g.heartbeat k c.life.epoch = (false, g.failConnection k)) ∧
    (g.TicksQuietly →
      (∀ k, (g.tick .heartbeat).2.front? k = (g.front? k).map Front.afterHeartbeat) ∧
      (g.tick .heartbeat).2.scheduler.heartbeat = g.scheduler.heartbeat.filter g.outlasts ∧
      (g.tick .heartbeat).2.log = g.log ++ g.scheduler.heartbeat.flatMap g.expiryEvents ∧
      (g.tick .heartbeat).2.metrics.failures =
        g.metrics.failures + UInt64.ofNat (g.scheduler.heartbeat.countP g.expires)) ∧
    (start.TicksBetween actions → ∀ k l, g.life? k = some l →
      config.timeouts.seconds l.state ≠ 0 →
      l.ttl + beatsSince k start actions 0 = full l.state ∧
      (g.TicksQuietly → ((g.tick .heartbeat).2.life? k).map Lifecycle.state =
        some (if beatsSince k start actions 0 + 1 = full l.state then .null else l.state))) ∧
    (g.TicksQuietly → ∀ k l, g.life? k = some l → config.timeouts.seconds l.state = 0 →
      (g.tick .heartbeat).2.life? k = some l) := by
  intro start g full
  have ht : Timed [] g := timed_run config environment actions
  have hconfig : g.config = config := config_run config environment actions
  have hcounted : ∀ {k l}, g.life? k = some l →
      (0 < l.ttl ↔ config.timeouts.seconds l.state ≠ 0) := by
    intro k l hl
    have := (ht.sound k l hl).counted
    rwa [hconfig] at this
  refine ⟨fun k l hl => ⟨hcounted hl, ?_⟩, fun k e he => ?_, fun k c hc hone => ?_,
    fun hq => tick_of_quiet ht hq, fun hb k l hl hs => ?_, fun hq k l hl hs => ?_⟩
  · have hcount := (ht.paced k l hl).counted
    rw [tasks, List.nil_append] at hcount
    rw [hcount]
    exact if_congr (ht.sound k l hl).armed rfl rfl
  · cases hc : g.get? k with
    | none => exact heartbeat_of_none hc e
    | some c => exact heartbeat_of_stale hc fun h => he _ (life?_of_get? hc) h.2
  · have hsound := ht.sound k _ (life?_of_get? hc)
    exact heartbeat_of_expired hc (hsound.armed.2 (by omega)) (by omega)
      (hsound.isBound (by omega))
  · have htallied : g.Tallied k (beatsSince k start actions 0) := by
      refine tallied_run (fun l hl => ?_) (.make config environment) hb
      simp [life?, front?, get?, start, make] at hl
    have hfull : l.ttl + beatsSince k start actions 0 = full l.state := by
      have := htallied l hl (by rwa [hconfig])
      rwa [ht.resolution, hconfig, Timeouts.ttl, if_neg hs] at this
    refine ⟨hfull, fun hq => ?_⟩
    have hpos := (hcounted hl).2 hs
    rw [life?_tick ht hq, hl, Option.map_some, Option.map_some, Lifecycle.afterHeartbeat]
    by_cases hone : l.ttl = 1
    · rw [if_pos hone, if_pos (by omega)]
    · rw [if_neg hone, if_neg (by omega)]
  · have hzero : l.ttl = 0 := by
      by_contra hne
      exact (hcounted hl).1 (by omega) hs
    rw [life?_tick ht hq, hl, Option.map_some, Lifecycle.afterHeartbeat_of_zero hzero]

/-- With a second to find the other side and one heartbeat in a second, a connection lives for two
ticks: it fails at the second one. -/
theorem heartbeat_timeouts_exact_after_two_ticks :
    let config : GatewayConfig := { timeouts := ⟨1, 0⟩, resolution := 1 }
    let actions : List Action := [.adopt 7 {}, .bind 0, .tick .heartbeat]
    let start := make config .isolated
    let g := start.run actions
    (∃ l, g.life? 0 = some l ∧ config.timeouts.seconds l.state ≠ 0 ∧ l.ttl = 1) ∧
    start.TicksBetween actions ∧ g.TicksQuietly ∧
    g.scheduler.heartbeat.count (.heartbeat 0 1) = 1 ∧
    g.heartbeat 0 1 = (false, g.failConnection 0) ∧
    beatsSince 0 start actions 0 + 1 = 2 ∧
    ((g.tick .heartbeat).2.life? 0).map Lifecycle.state = some .null ∧
    (g.tick .heartbeat).2.scheduler.heartbeat = [] ∧
    (g.tick .heartbeat).2.log = [.hookCalled .created, .hookCalled .failed] := by
  intro config actions start g
  obtain ⟨hcounted, -, hlast, htick, hexact, -⟩ :=
    heartbeat_timeouts_exact config .isolated actions
  have hc : g.get? 0 = some
      { id := 7, leg := .foreign {}, life := ⟨.halfOpen, .inactive, 1, 1, true, 1⟩ } := by
    decide +kernel
  have hl := life?_of_get? hc
  have hs : config.timeouts.seconds .halfOpen ≠ 0 := by decide
  have hquiet : g.TicksQuietly := ticksQuietly_of_unheard (by decide +kernel)
  have hbetween : start.TicksBetween actions :=
    ⟨.inl rfl, .inl rfl, .inr (.inr ⟨rfl, ticksQuietly_of_unheard (by decide +kernel)⟩), trivial⟩
  have hsince : beatsSince 0 start actions 0 + 1 = 2 := by decide +kernel
  obtain ⟨-, hqueue, hlog, -⟩ := htick hquiet
  refine ⟨⟨_, hl, hs, rfl⟩, hbetween, hquiet, (hcounted 0 _ hl).2, hlast 0 _ hc rfl, hsince, ?_, ?_, ?_⟩
  · rw [(hexact hbetween 0 _ hl hs).2 hquiet, hsince]
    rfl
  · rw [hqueue]
    decide +kernel
  · rw [hlog]
    decide +kernel

end Gateway

end MediaGateway
