import MediaGateway.Proofs.Gateway.Timed

/-!
# Ticks of heartbeats

A tick of heartbeats counts the time of every connection down by one, no matter how many there are
and in which order they were bound. A connection whose time is over fails. The time left and the
heartbeats since the connection entered its state, or was refreshed, always make up the full time.
-/

namespace MediaGateway

/-- What a heartbeat makes of a front. The last one takes its owner and its failure listener off. -/
def Front.afterHeartbeat (f : Front) : Front :=
  if f.life.ttl = 1 then
    { f.withLife f.life.afterHeartbeat with endpoint := none, failureListener := none }
  else f.withLife f.life.afterHeartbeat

theorem Front.life_afterHeartbeat (f : Front) :
    f.afterHeartbeat.life = f.life.afterHeartbeat := by
  simp only [afterHeartbeat]
  split <;> rfl

theorem Front.afterHeartbeat_of_ne {f : Front} (h : f.life.ttl ≠ 1) :
    f.afterHeartbeat = f.withLife { f.life with ttl := f.life.ttl - 1 } := by
  rw [afterHeartbeat, if_neg h, Lifecycle.afterHeartbeat, if_neg h]

theorem Front.afterHeartbeat_of_zero {f : Front} (h : f.life.ttl = 0) : f.afterHeartbeat = f := by
  rw [afterHeartbeat, if_neg (by omega), Lifecycle.afterHeartbeat_of_zero h]
  rfl

namespace Gateway

variable {g g' : Gateway} {hand : List Task} {handle : Nat} {c : Connection} {f : Front}

/-- No listener of a connection that fails at the next tick starts operations. -/
def TicksQuietly (g : Gateway) : Prop :=
  ∀ k f, g.front? k = some f → f.life.ttl = 1 → f.IsQuiet

theorem ticksQuietly_of_unheard
    (h : (g.connections.all fun c? => c?.all fun c => c.listeners.isEmpty) = true) :
    g.TicksQuietly := by
  intro k f hf _ l hl
  obtain ⟨c, hc, rfl⟩ := get?_of_front? hf
  have hmem : some c ∈ g.connections := List.mem_of_getElem? (Option.join_eq_some_iff.1 hc)
  have hnone : c.listeners = [] := by
    simpa using List.all_eq_true.1 h _ hmem
  simp [Connection.front, hnone] at hl

/-- The connection whose time a task counts, if there is one. -/
def counted? (g : Gateway) : Task → Option Front
  | .heartbeat k e => (g.front? k).filter fun f => f.life.armed && f.life.epoch == e
  | .media _ => none

/-- Whether a heartbeat is not the last one. -/
def outlasts (g : Gateway) (task : Task) : Bool :=
  (g.counted? task).any fun f => decide (1 < f.life.ttl)

/-- Whether a heartbeat is the last one. -/
def expires (g : Gateway) (task : Task) : Bool :=
  (g.counted? task).any fun f => f.life.ttl == 1

/-- What others notice of a heartbeat. -/
def expiryEvents (g : Gateway) : Task → List Event
  | .heartbeat k e =>
    match g.counted? (.heartbeat k e) with
    | some f => if f.life.ttl = 1 then g.failureEvents k f else []
    | none => []
  | .media _ => []

/-! ## One heartbeat -/

theorem counted?_of_current (hf : g.front? handle = some f) (ha : f.life.armed = true) :
    g.counted? (.heartbeat handle f.life.epoch) = some f := by
  simp [counted?, hf, ha]

theorem counted?_of_stale (hf : g.front? handle = some f) {e : Nat}
    (h : ¬(f.life.armed = true ∧ f.life.epoch = e)) : g.counted? (.heartbeat handle e) = none := by
  simp only [counted?, hf, Option.filter_some]
  rw [if_neg]
  simpa using h

theorem counted?_eq_some {k e : Nat} :
    g.counted? (.heartbeat k e) = some f ↔
      g.front? k = some f ∧ f.life.armed = true ∧ f.life.epoch = e := by
  simp [counted?, Option.filter_eq_some_iff]

/-- What a heartbeat with quiet listeners has made of a gateway. -/
structure Beaten (g g' : Gateway) (handle e : Nat) : Prop where
  fronts : ∀ k, g'.front? k = if k = handle then (g.front? handle).map fun f =>
    if f.life.armed = true ∧ f.life.epoch = e then f.afterHeartbeat else f else g.front? k
  scheduler : g'.scheduler = g.scheduler
  endpoints : g'.endpoints = g.endpoints
  log : g'.log = g.log ++ g.expiryEvents (.heartbeat handle e)
  failures : g'.metrics.failures =
    g.metrics.failures + if g.expires (.heartbeat handle e) then 1 else 0

/-- A heartbeat that counts nothing changes nothing. -/
theorem Beaten.of_stale {e : Nat} (h : g.counted? (.heartbeat handle e) = none) :
    Beaten g g handle e where
  fronts := by
    intro k
    by_cases hk : k = handle
    · subst hk
      rw [if_pos rfl]
      cases hf : g.front? k with
      | none => rfl
      | some f =>
        have hstale : ¬(f.life.armed = true ∧ f.life.epoch = e) := by
          rintro ⟨ha, rfl⟩
          simp [counted?_of_current hf ha] at h
        simp only [Option.map_some, if_neg hstale]
    · rw [if_neg hk]
  scheduler := rfl
  endpoints := rfl
  log := by simp [expiryEvents, h]
  failures := by simp [expires, h]

/-- A heartbeat that counts the time of a connection. -/
theorem Beaten.of_refronts {events : List Event} (hf : g.front? handle = some f)
    (ha : f.life.armed = true)
    (h : Refronts (g.noteAll events) g' handle f.afterHeartbeat none)
    (hevents : g.expiryEvents (.heartbeat handle f.life.epoch) = events)
    (hfailures : g'.metrics.failures =
      g.metrics.failures + if g.expires (.heartbeat handle f.life.epoch) then 1 else 0) :
    Beaten g g' handle f.life.epoch where
  fronts := by
    intro k
    rw [h.fronts]
    by_cases hk : k = handle
    · rw [if_pos hk, if_pos hk, hf, Option.map_some, if_pos ⟨ha, rfl⟩]
    · rw [if_neg hk, if_neg hk]
      rfl
  scheduler := h.scheduler
  endpoints := by rw [h.rest]; rfl
  log := by rw [h.rest, hevents]; rfl
  failures := hfailures

/-- The end of a connection whose time is over is what the heartbeat makes of it. -/
theorem endedFront_eq (g : Gateway) (ha : f.life.armed = true) (ht : f.life.ttl = 1) :
    g.endedFront f = f.afterHeartbeat := by
  have hlife : g.endedLife f.life = f.life.afterHeartbeat :=
    Lifecycle.finish_eq_afterHeartbeat ha ht
  rw [endedFront, hlife, Front.afterHeartbeat, if_pos ht]

theorem heartbeat_of_quiet (h : Timed hand g) {handle e : Nat}
    (hq : ∀ f, g.counted? (.heartbeat handle e) = some f → f.life.ttl = 1 → f.IsQuiet) :
    (g.heartbeat handle e).1 = g.outlasts (.heartbeat handle e) ∧
      Beaten g (g.heartbeat handle e).2 handle e := by
  cases hc : g.get? handle with
  | none =>
    have hnone : g.counted? (.heartbeat handle e) = none := by simp [counted?, front?, hc]
    rw [heartbeat_of_none hc]
    exact ⟨by simp [outlasts, hnone], .of_stale hnone⟩
  | some c =>
    have hf := front?_of_get? hc
    by_cases hcur : c.life.armed = true ∧ c.life.epoch = e
    · obtain ⟨ha, rfl⟩ := hcur
      have hcounted : g.counted? (.heartbeat handle c.life.epoch) = some c.front :=
        counted?_of_current hf ha
      have hsound := h.sound handle _ (life?_of_get? hc)
      have hpos := hsound.armed.1 ha
      by_cases ht : c.life.ttl = 1
      · rw [heartbeat_of_expired hc ha (by omega) (hsound.isBound hpos)]
        obtain ⟨hrefronts, hfailures⟩ :=
          failConnection_of_quiet hc (hsound.isBound hpos) (hq _ hcounted ht)
        rw [endedFront_eq g ha ht] at hrefronts
        refine ⟨by simp [outlasts, hcounted, ht], .of_refronts hf ha hrefronts ?_ ?_⟩
        · simp [expiryEvents, hcounted, ht]
        · simpa [expires, hcounted, ht] using hfailures
      · have hmore : 1 < c.life.ttl := by omega
        rw [heartbeat_of_alive hc ha hmore]
        have hcount : Refronts (g.noteAll []) (g.modify handle (Connection.withTtl (c.life.ttl - 1)))
            handle c.front.afterHeartbeat none := by
          have hnone : g.noteAll [] = g := by simp [noteAll]
          rw [hnone, Front.afterHeartbeat_of_ne ht]
          exact .modify hf fun c' hc' =>
            congrArg (fun f : Front => f.withLife { f.life with ttl := c.life.ttl - 1 }) hc'
        refine ⟨by simp [outlasts, hcounted, hmore], .of_refronts hf ha hcount ?_ ?_⟩
        · simp [expiryEvents, hcounted, ht]
        · simp [expires, hcounted, ht, modify]
    · rw [heartbeat_of_stale hc hcur]
      have hnone : g.counted? (.heartbeat handle e) = none := counted?_of_stale hf hcur
      exact ⟨by simp [outlasts, hnone], .of_stale hnone⟩

/-! ## All heartbeats -/

/-- A heartbeat has no effect on what other tasks count. -/
theorem Beaten.counted? {e : Nat} (h : Beaten g g' handle e) {task : Task}
    (hother : task = .heartbeat handle e → g.counted? task = none) :
    g'.counted? task = g.counted? task := by
  cases task with
  | media k => rfl
  | heartbeat k e' =>
    by_cases hk : k = handle
    · subst hk
      cases hf : g.front? k with
      | none => simp [Gateway.counted?, h.fronts, hf]
      | some f =>
        by_cases hcur : f.life.armed = true ∧ f.life.epoch = e
        · obtain ⟨ha, rfl⟩ := hcur
          have hne : f.life.epoch ≠ e' := by
            rintro rfl
            simp [counted?_of_current hf ha] at hother
          have hf' : g'.front? k = some f.afterHeartbeat := by
            rw [h.fronts, if_pos rfl, hf, Option.map_some, if_pos ⟨ha, rfl⟩]
          rw [counted?_of_stale hf fun h => hne h.2]
          refine counted?_of_stale hf' ?_
          rw [Front.life_afterHeartbeat, Lifecycle.afterHeartbeat]
          split
          · simp
          · simp [hne]
        · simp [Gateway.counted?, h.fronts, hf, hcur]
    · simp [Gateway.counted?, h.fronts, hk]

/-- What heartbeats with quiet listeners have made of a gateway. -/
structure Ticked (g g' : Gateway) (tasks : List Task) : Prop where
  fronts : ∀ k, g'.front? k = (g.front? k).map fun f =>
    if f.life.armed = true ∧ .heartbeat k f.life.epoch ∈ tasks then f.afterHeartbeat else f
  scheduler : g'.scheduler = g.scheduler
  endpoints : g'.endpoints = g.endpoints
  log : g'.log = g.log ++ tasks.flatMap g.expiryEvents
  failures : g'.metrics.failures = g.metrics.failures + UInt64.ofNat (tasks.countP g.expires)

theorem Ticked.nil (g : Gateway) : Ticked g g [] where
  fronts := fun k => by simp
  scheduler := rfl
  endpoints := rfl
  log := by simp
  failures := by simp

theorem Ticked.cons {g₁ : Gateway} {e : Nat} {rest : List Task} (hb : Beaten g g₁ handle e)
    (h : Ticked g₁ g' rest)
    (hother : .heartbeat handle e ∈ rest → g.counted? (.heartbeat handle e) = none) :
    Ticked g g' (.heartbeat handle e :: rest) := by
  have hcounted : ∀ task ∈ rest, g₁.counted? task = g.counted? task :=
    fun task ht => hb.counted? fun heq => heq ▸ hother (heq ▸ ht)
  have hexpires : rest.countP g₁.expires = rest.countP g.expires := by
    refine List.countP_congr fun task ht => ?_
    simp only [expires, hcounted task ht]
  have hevents : rest.flatMap g₁.expiryEvents = rest.flatMap g.expiryEvents := by
    refine List.flatMap_congr fun task ht => ?_
    cases task with
    | media k => rfl
    | heartbeat k e =>
      simp only [expiryEvents, hcounted _ ht, failureEvents, ending, hb.endpoints]
  refine ⟨fun k => ?_, h.scheduler.trans hb.scheduler, h.endpoints.trans hb.endpoints, ?_, ?_⟩
  · rw [h.fronts, hb.fronts]
    by_cases hk : k = handle
    · subst hk
      rw [if_pos rfl]
      cases hf : g.front? k with
      | none => rfl
      | some f =>
        simp only [Option.map_some, Option.some.injEq]
        by_cases hcur : f.life.armed = true ∧ f.life.epoch = e
        · obtain ⟨ha, rfl⟩ := hcur
          have hlast : .heartbeat k f.life.epoch ∉ rest := by
            intro ht
            simp [counted?_of_current hf ha] at hother
            exact hother ht
          have hdone : ¬(f.afterHeartbeat.life.armed = true ∧
              .heartbeat k f.afterHeartbeat.life.epoch ∈ rest) := by
            rw [Front.life_afterHeartbeat, Lifecycle.afterHeartbeat]
            split
            · simp
            · simp [hlast]
          rw [if_pos (c := f.life.armed = true ∧ f.life.epoch = f.life.epoch) ⟨ha, rfl⟩,
            if_neg hdone, if_pos ⟨ha, List.mem_cons_self⟩]
        · rw [if_neg hcur]
          have hmem : (f.life.armed = true ∧ .heartbeat k f.life.epoch ∈ rest) ↔
              (f.life.armed = true ∧
                .heartbeat k f.life.epoch ∈ Task.heartbeat k e :: rest) := by
            simp only [List.mem_cons, Task.heartbeat.injEq, true_and]
            tauto
          simp only [hmem]
    · simp [hk]
  · rw [h.log, hb.log, hevents, List.flatMap_cons, List.append_assoc]
  · rw [h.failures, hb.failures, hexpires, List.countP_cons]
    cases g.expires (.heartbeat handle e) with
    | false => simp
    | true => simp [UInt64.add_assoc, UInt64.add_comm]

/-- Heartbeats are run, by induction on the tasks: each connection's time is counted once. -/
theorem runTasks_of_quiet {tasks hand : List Task} (h : Timed (tasks ++ hand) g)
    (hkind : ∀ task ∈ tasks, task.queue = .heartbeat)
    (hq : ∀ task ∈ tasks, ∀ f, g.counted? task = some f → f.life.ttl = 1 → f.IsQuiet) :
    (g.runTasks tasks).1 = tasks.filter g.outlasts ∧ Ticked g (g.runTasks tasks).2 tasks := by
  induction tasks generalizing g hand with
  | nil => exact ⟨rfl, .nil g⟩
  | cons task rest ih =>
    obtain ⟨hkind₀, hkindrest⟩ := List.forall_mem_cons.1 hkind
    obtain ⟨hq₀, hqrest⟩ := List.forall_mem_cons.1 hq
    cases task with
    | media k => cases hkind₀
    | heartbeat k e =>
      obtain ⟨hstays, hb⟩ := heartbeat_of_quiet h hq₀
      -- The task that counts a connection's time is there only once.
      have hother : .heartbeat k e ∈ rest → g.counted? (.heartbeat k e) = none := by
        intro ht
        by_contra hne
        obtain ⟨f, hf⟩ := Option.ne_none_iff_exists'.1 hne
        obtain ⟨hfront, ha, rfl⟩ := counted?_eq_some.1 hf
        have hcount := (h.paced k f.life (life?_of_front? hfront)).counted
        rw [if_pos ha, tasks, List.cons_append, List.cons_append, List.count_cons_self,
          List.append_assoc, List.count_append] at hcount
        have := List.count_pos_iff.2 ht
        omega
      have hcounted : ∀ task ∈ rest, (g.heartbeat k e).2.counted? task = g.counted? task :=
        fun task ht => hb.counted? fun heq => heq ▸ hother (heq ▸ ht)
      have hrun : Timed (rest ++ if (g.heartbeat k e).1 then .heartbeat k e :: hand else hand)
          (g.heartbeat k e).2 := by
        have hrun : Timed (if (g.heartbeat k e).1 then .heartbeat k e :: (rest ++ hand)
            else rest ++ hand) (g.heartbeat k e).2 := Timed.heartbeat h
        cases hs : (g.heartbeat k e).1 with
        | false =>
          rw [hs] at hrun
          exact hrun
        | true =>
          rw [hs] at hrun
          exact hrun.perm List.perm_middle.symm
      obtain ⟨hkept, hticked⟩ := ih hrun hkindrest fun task ht f hf =>
        hqrest task ht f (hcounted task ht ▸ hf)
      have hfilter : rest.filter (g.heartbeat k e).2.outlasts = rest.filter g.outlasts := by
        refine List.filter_congr fun task ht => ?_
        simp only [outlasts, hcounted task ht]
      rw [runTasks_cons]
      refine ⟨?_, .cons hb hticked hother⟩
      simp only [runTask, hstays, hkept, hfilter, List.filter_cons]

/-- A tick of heartbeats: the time of every connection is counted down by one, and the tasks that
stay are those that have more to count. -/
theorem tick_of_quiet (h : Timed [] g) (hq : g.TicksQuietly) :
    (∀ k, (g.tick .heartbeat).2.front? k = (g.front? k).map Front.afterHeartbeat) ∧
    (g.tick .heartbeat).2.scheduler.heartbeat = g.scheduler.heartbeat.filter g.outlasts ∧
    (g.tick .heartbeat).2.log = g.log ++ g.scheduler.heartbeat.flatMap g.expiryEvents ∧
    (g.tick .heartbeat).2.metrics.failures =
      g.metrics.failures + UInt64.ofNat (g.scheduler.heartbeat.countP g.expires) := by
  have htaken : Timed (g.scheduler.heartbeat ++ []) (g.takeTasks .heartbeat) := by
    rw [List.append_nil]
    exact h.takeTasks .heartbeat
  have hquiet : ∀ task ∈ g.scheduler.heartbeat, ∀ f,
      (g.takeTasks .heartbeat).counted? task = some f → f.life.ttl = 1 → f.IsQuiet := by
    intro task ht f hf hone
    cases task with
    | media k => cases hf
    | heartbeat k e => exact hq k f (counted?_eq_some.1 hf).1 hone
  obtain ⟨hkept, hticked⟩ := runTasks_of_quiet htaken (h.queues .heartbeat) hquiet
  rw [tick_eq]
  refine ⟨fun k => ?_, ?_, hticked.log, hticked.failures⟩
  · have hfront : ((g.takeTasks .heartbeat).runTasks g.scheduler.heartbeat).2.front? k =
        (g.front? k).map _ := hticked.fronts k
    refine hfront.trans ?_
    cases hf : g.front? k with
    | none => rfl
    | some f =>
      have hlife := life?_of_front? hf
      simp only [Option.map_some, Option.some.injEq]
      by_cases ha : f.life.armed = true
      · have hcount := (h.paced k _ hlife).counted
        rw [if_pos ha] at hcount
        have hmem : .heartbeat k f.life.epoch ∈ g.scheduler.heartbeat :=
          List.count_pos_iff.1 (by rw [tasks, List.nil_append] at hcount; omega)
        rw [if_pos ⟨ha, hmem⟩]
      · have hzero : f.life.ttl = 0 := by
          have := (h.sound k _ hlife).armed
          by_contra hne
          exact ha (this.2 (by omega))
        rw [if_neg fun hcur => ha hcur.1, Front.afterHeartbeat_of_zero hzero]
  · have hnone : ((g.takeTasks .heartbeat).runTasks g.scheduler.heartbeat).2.scheduler.heartbeat =
        [] := congrArg Scheduler.heartbeat hticked.scheduler
    have hqueue : (((g.takeTasks .heartbeat).runTasks g.scheduler.heartbeat).2.keepTasks .heartbeat
        ((g.takeTasks .heartbeat).runTasks g.scheduler.heartbeat).1).scheduler.heartbeat =
        ((g.takeTasks .heartbeat).runTasks g.scheduler.heartbeat).1 ++
          ((g.takeTasks .heartbeat).runTasks g.scheduler.heartbeat).2.scheduler.heartbeat := rfl
    refine hqueue.trans ?_
    rw [hnone, List.append_nil, hkept]
    rfl

/-- What a tick of heartbeats makes of lives. -/
theorem life?_tick (h : Timed [] g) (hq : g.TicksQuietly) (k : Nat) :
    (g.tick .heartbeat).2.life? k = (g.life? k).map Lifecycle.afterHeartbeat := by
  rw [life?, (tick_of_quiet h hq).1, life?, Option.map_map, Option.map_map]
  exact congrArg (fun v => (g.front? k).map v) (funext Front.life_afterHeartbeat)

end Gateway

end MediaGateway
