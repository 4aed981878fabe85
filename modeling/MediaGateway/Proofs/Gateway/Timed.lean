import MediaGateway.Proofs.Gateway.CallInvariant
import MediaGateway.Proofs.Gateway.Lives

/-!
# Time is counted once

Every connection whose time is counted has exactly one task that counts it. Such a task carries the
epoch in which it was submitted, and tasks of earlier epochs have no effect. During a tick the tasks
of its queue are neither in the queue nor gone: the invariant speaks of the tasks in hand and those
that wait.
-/

namespace MediaGateway

/-- The queue that a task waits in. -/
def Task.queue : Task → Queue
  | .media _ => .media
  | .heartbeat _ _ => .heartbeat

/-! ## One life and its tasks -/

/-- A connection has one task of its epoch while time is counted, and none otherwise. -/
structure Paced (tasks : List Task) (k : Nat) (l : Lifecycle) : Prop where
  counted : tasks.count (.heartbeat k l.epoch) = if l.armed then 1 else 0
  /-- No task is of an epoch to come. -/
  past : ∀ e, .heartbeat k e ∈ tasks → e ≤ l.epoch

namespace Paced

variable {tasks tasks' : List Task} {task : Task} {k : Nat} {l l' : Lifecycle}

theorem new (h : ∀ e, .heartbeat k e ∉ tasks) : Paced tasks k {} where
  counted := List.count_eq_zero.2 (h 0)
  past := fun e he => absurd he (h e)

theorem congr (h : Paced tasks k l) (hepoch : l'.epoch = l.epoch) (harmed : l'.armed = l.armed) :
    Paced tasks k l' where
  counted := by
    rw [hepoch, harmed]
    exact h.counted
  past := by
    rw [hepoch]
    exact h.past

theorem perm (h : Paced tasks k l) (hp : tasks.Perm tasks') : Paced tasks' k l where
  counted := by
    rw [← hp.count_eq]
    exact h.counted
  past := fun e he => h.past e (hp.mem_iff.2 he)

/-- Heartbeats are submitted for a new epoch if the time is counted from now on. -/
theorem rearms (h : Paced tasks k l) {epoch? : Option Nat} (hr : l.Rearms l' epoch?) :
    Paced (tasks ++ (epoch?.map (Task.heartbeat k)).toList) k l' := by
  -- A task of the next epoch would be of an epoch to come.
  have hnone : tasks.count (.heartbeat k (l.epoch + 1)) = 0 := by
    refine List.count_eq_zero.2 fun hmem => ?_
    have := h.past _ hmem
    omega
  cases hr with
  | keep hepoch harmed => simpa using h.congr hepoch harmed
  | disarm hepoch harmed =>
    refine ⟨?_, fun e he => ?_⟩
    · simpa [hepoch, harmed] using hnone
    · have := h.past e (by simpa using he)
      omega
  | arm hepoch harmed =>
    refine ⟨?_, fun e he => ?_⟩
    · simp [hepoch, harmed, hnone]
    · simp only [Option.map_some, Option.toList_some, List.mem_append, List.mem_singleton,
        Task.heartbeat.injEq, true_and] at he
      rcases he with he | rfl
      · have := h.past e he
        omega
      · exact Nat.le_refl _

/-- Tasks about something else do not count. -/
theorem append_iff (hother : ∀ task ∈ tasks', ∀ e, task ≠ .heartbeat k e) :
    Paced (tasks ++ tasks') k l ↔ Paced tasks k l := by
  have hnone (e : Nat) : .heartbeat k e ∉ tasks' := fun he => hother _ he e rfl
  have hcount : (tasks ++ tasks').count (.heartbeat k l.epoch) =
      tasks.count (.heartbeat k l.epoch) := by
    rw [List.count_append, List.count_eq_zero.2 (hnone l.epoch)]
    rfl
  have hmem (e : Nat) : .heartbeat k e ∈ tasks ++ tasks' ↔ .heartbeat k e ∈ tasks := by
    simp [hnone e]
  constructor
  · intro h
    exact ⟨hcount ▸ h.counted, fun e he => h.past e ((hmem e).2 he)⟩
  · intro h
    exact ⟨hcount ▸ h.counted, fun e he => h.past e ((hmem e).1 he)⟩

/-- A task leaves that is not the one that counts. -/
theorem drop (h : Paced (task :: tasks) k l)
    (hstale : ¬(l.armed = true ∧ task = .heartbeat k l.epoch)) : Paced tasks k l := by
  refine ⟨?_, fun e he => h.past e (List.mem_cons_of_mem _ he)⟩
  have hcounted := h.counted
  by_cases ht : task = .heartbeat k l.epoch
  · have harmed : l.armed = false := by
      cases ha : l.armed with
      | false => rfl
      | true => exact absurd ⟨ha, ht⟩ hstale
    rw [ht, List.count_cons_self, harmed] at hcounted
    simp at hcounted
  · rwa [List.count_cons_of_ne ht] at hcounted

end Paced

namespace Gateway

variable {g g' : Gateway} {hand : List Task} {handle : Nat}

/-- The tasks in hand and the heartbeats that wait. -/
def tasks (g : Gateway) (hand : List Task) : List Task := hand ++ g.scheduler.heartbeat

/-- What holds of times and tasks between any two pieces of work, with tasks in hand. -/
structure Timed (hand : List Task) (g : Gateway) : Prop where
  resolution : g.scheduler.resolution = max g.config.resolution 1
  sound : ∀ k l, g.life? k = some l → l.Sound g.config.timeouts
  paced : ∀ k l, g.life? k = some l → Paced (g.tasks hand) k l
  /-- No task is about a connection to come. -/
  places : ∀ k e, .heartbeat k e ∈ g.tasks hand → k < g.connections.length
  queues : ∀ q, ∀ task ∈ g.scheduler.pending q, task.queue = q

theorem lt_of_life? {k : Nat} {l : Lifecycle} (hl : g.life? k = some l) :
    k < g.connections.length := by
  by_contra hk
  simp [life?, front?, get?, List.getElem?_eq_none (Nat.le_of_not_lt hk)] at hl

/-- Lives after one of them has become another. -/
theorem life_cases {l' m : Lifecycle} {k : Nat}
    (hlives : ∀ k, g'.life? k = if k = handle then some l' else g.life? k)
    (hm : g'.life? k = some m) : (k = handle ∧ m = l') ∨ (k ≠ handle ∧ g.life? k = some m) := by
  rw [hlives] at hm
  by_cases hk : k = handle
  · rw [if_pos hk] at hm
    exact .inl ⟨hk, (Option.some.inj hm).symm⟩
  · rw [if_neg hk] at hm
    exact .inr ⟨hk, hm⟩

theorem life?_refresh (g : Gateway) (handle k : Nat) :
    (g.refresh handle).life? k = if k = handle then (g.life? handle).map fun l =>
      l.refresh g.config.timeouts g.scheduler.resolution else g.life? k := by
  simp only [refresh, life?, front?, get?_modify]
  by_cases hk : k = handle
  · rw [if_pos hk, if_pos hk]
    cases g.get? handle <;> rfl
  · rw [if_neg hk, if_neg hk]

namespace Timed

theorem make (config : GatewayConfig) (environment : Environment) :
    Timed [] (make config environment) where
  resolution := rfl
  sound := fun k l hl => by simp [life?, front?, get?, Gateway.make] at hl
  paced := fun k l hl => by simp [life?, front?, get?, Gateway.make] at hl
  places := fun k e hk => by simp [tasks, Gateway.make, Scheduler.make] at hk
  queues := fun q task ht => by cases q <;> simp [Gateway.make, Scheduler.make, Scheduler.pending] at ht

/-! ## Changes and moves -/

/-- Nothing happens to tasks where every life is in the epoch in which one was. -/
theorem of_lives (h : Timed hand g) (hconfig : g'.config = g.config)
    (hscheduler : g'.scheduler = g.scheduler)
    (hplaces : g'.connections.length = g.connections.length)
    (hlives : ∀ k l', g'.life? k = some l' → ∃ l, g.life? k = some l ∧
      l'.epoch = l.epoch ∧ l'.armed = l.armed ∧ l'.Sound g.config.timeouts) : Timed hand g' := by
  have htasks : g'.tasks hand = g.tasks hand := by rw [tasks, tasks, hscheduler]
  refine ⟨by rw [hscheduler, hconfig, h.resolution], fun k l' hl' => ?_, fun k l' hl' => ?_,
    fun k e he => ?_, by rw [hscheduler]; exact h.queues⟩
  · obtain ⟨-, -, -, -, hsound⟩ := hlives k l' hl'
    rwa [hconfig]
  · obtain ⟨l, hl, hepoch, harmed, -⟩ := hlives k l' hl'
    rw [htasks]
    exact (h.paced k l hl).congr hepoch harmed
  · rw [hplaces]
    exact h.places k e (htasks ▸ he)

theorem same (h : Timed hand g) (hs : SameLives g g') : Timed hand g' := by
  refine h.of_lives hs.config hs.scheduler hs.places fun k l hl => ?_
  rw [hs.lives] at hl
  exact ⟨l, hl, rfl, rfl, h.sound k l hl⟩

theorem step (h : Timed hand g) (hconfig : g'.config = g.config) {l l' : Lifecycle}
    {epoch? : Option Nat} (hl : g.life? handle = some l)
    (hs : Lifecycle.Step g.config.timeouts g.scheduler.resolution l l' epoch?)
    (hlives : ∀ k, g'.life? k = if k = handle then some l' else g.life? k)
    (hplaces : g'.connections.length = g.connections.length)
    (hscheduler : g'.scheduler = (g.submitHeartbeat handle epoch?).scheduler) :
    Timed hand g' := by
  have hsubmit : g'.scheduler = { g.scheduler with
      heartbeat := g.scheduler.heartbeat ++ (epoch?.map (Task.heartbeat handle)).toList } := by
    rw [hscheduler]
    cases epoch? <;> simp [submitHeartbeat, Scheduler.submit, Scheduler.withPending,
      Scheduler.pending]
  have htasks : g'.tasks hand = g.tasks hand ++ (epoch?.map (Task.heartbeat handle)).toList := by
    rw [tasks, tasks, hsubmit, List.append_assoc]
  have hnew : ∀ task ∈ (epoch?.map (Task.heartbeat handle)).toList, ∃ e,
      task = .heartbeat handle e := by
    cases epoch? with
    | none => simp
    | some epoch => simp
  refine ⟨by rw [hsubmit, hconfig]; exact h.resolution, fun k m hm => ?_, fun k m hm => ?_,
    fun k e he => ?_, fun q task ht => ?_⟩
  · rw [hconfig]
    rcases life_cases hlives hm with ⟨-, rfl⟩ | ⟨-, hm⟩
    · exact (h.sound handle l hl).step hs
    · exact h.sound k m hm
  · rw [htasks]
    rcases life_cases hlives hm with ⟨rfl, rfl⟩ | ⟨hk, hm⟩
    · exact (h.paced k l hl).rearms hs.rearms
    · refine (Paced.append_iff fun task ht e => ?_).2 (h.paced k m hm)
      obtain ⟨e', rfl⟩ := hnew task ht
      simp [Ne.symm hk]
  · rw [hplaces]
    rw [htasks, List.mem_append] at he
    rcases he with he | he
    · exact h.places k e he
    · obtain ⟨e', he'⟩ := hnew _ he
      obtain ⟨rfl, -⟩ := Task.heartbeat.inj he'
      exact lt_of_life? hl
  · rw [hsubmit] at ht
    cases q with
    | media => exact h.queues .media task ht
    | heartbeat =>
      rcases List.mem_append.1 ht with ht | ht
      · exact h.queues .heartbeat task ht
      · obtain ⟨e', rfl⟩ := hnew task ht
        rfl

theorem arrive (h : Timed hand g) (hconfig : g'.config = g.config) {played : List Nat}
    (hlives : ∀ k, g'.life? k = if k = g.connections.length then some {} else g.life? k)
    (hplaces : g'.connections.length = g.connections.length + 1)
    (hscheduler : g'.scheduler =
      { g.scheduler with media := g.scheduler.media ++ played.map Task.media }) :
    Timed hand g' := by
  have htasks : g'.tasks hand = g.tasks hand := by rw [tasks, tasks, hscheduler]
  refine ⟨by rw [hscheduler, hconfig]; exact h.resolution, fun k m hm => ?_, fun k m hm => ?_,
    fun k e he => ?_, fun q task ht => ?_⟩
  · rw [hconfig]
    rcases life_cases hlives hm with ⟨-, rfl⟩ | ⟨-, hm⟩
    · exact .new _
    · exact h.sound k m hm
  · rw [htasks]
    rcases life_cases hlives hm with ⟨rfl, rfl⟩ | ⟨-, hm⟩
    · refine .new fun e he => ?_
      have := h.places _ e he
      omega
    · exact h.paced k m hm
  · have := h.places k e (htasks ▸ he)
    omega
  · rw [hscheduler] at ht
    cases q with
    | heartbeat => exact h.queues .heartbeat task ht
    | media =>
      rcases List.mem_append.1 ht with ht | ht
      · exact h.queues .media task ht
      · obtain ⟨k, -, rfl⟩ := List.mem_map.1 ht
        rfl

theorem lives (h : Timed hand g) (hs : LivesStep g g') (hconfig : g'.config = g.config) :
    Timed hand g' := by
  cases hs with
  | same hs => exact h.same hs
  | step hl hs hlives hplaces hscheduler => exact h.step hconfig hl hs hlives hplaces hscheduler
  | arrive played hlives hplaces hscheduler => exact h.arrive hconfig hlives hplaces hscheduler
  | leave handle hlives hplaces hscheduler =>
    refine h.of_lives hconfig hscheduler hplaces fun k l hl => ?_
    rw [hlives] at hl
    by_cases hk : k = handle
    · simp [hk] at hl
    · rw [if_neg hk] at hl
      exact ⟨l, hl, rfl, rfl, h.sound k l hl⟩

theorem change (h : Timed hand g) (hc : Change g g') : Timed hand g' :=
  h.lives hc.lives hc.sameStock.config

theorem changes (h : Timed hand g) (hc : Changes g g') : Timed hand g' := by
  induction hc with
  | refl => exact h
  | tail _ hc ih => exact ih.change hc

theorem refresh (h : Timed hand g) (handle : Nat) : Timed hand (g.refresh handle) := by
  refine h.of_lives rfl rfl (length_modify g handle _) fun k l' hl' => ?_
  rw [life?_refresh] at hl'
  by_cases hk : k = handle
  · rw [if_pos hk] at hl'
    obtain ⟨l, hl, rfl⟩ := Option.map_eq_some_iff.1 hl'
    refine ⟨l, hk ▸ hl, ?_, ?_, (h.sound handle l hl).refresh⟩
    · simp only [Lifecycle.refresh]
      split <;> rfl
    · simp only [Lifecycle.refresh]
      split <;> rfl
  · rw [if_neg hk] at hl'
    exact ⟨l', hl', rfl, rfl, h.sound k l' hl'⟩

theorem move (h : Timed hand g) (hm : Move g g') : Timed hand g' := by
  cases hm with
  | change hc => exact h.change hc
  | refresh handle => exact h.refresh handle
  | send handle frame =>
    simp only [Gateway.send]
    split
    · exact h
    · split
      · exact h
      · split
        · exact (h.same (.of_behind (.modifyLink _))).refresh _
        · exact h

theorem moves (h : Timed hand g) (hm : Moves g g') : Timed hand g' := by
  induction hm with
  | refl => exact h
  | tail _ hm ih => exact ih.move hm

end Timed

/-! ## Heartbeats -/

theorem life?_withTtl {c : Connection} (hc : g.get? handle = some c) (n k : Nat) :
    (g.modify handle (Connection.withTtl n)).life? k =
      if k = handle then some { c.life with ttl := n } else g.life? k := by
  simp only [life?, front?, get?_modify]
  by_cases hk : k = handle
  · rw [if_pos hk, if_pos hk, hc]
    rfl
  · rw [if_neg hk, if_neg hk]

theorem armed_endedLife (g : Gateway) (l : Lifecycle) : (g.endedLife l).armed = false := by
  rw [endedLife, Lifecycle.enter_null]

theorem heartbeat_of_none (hc : g.get? handle = none) (e : Nat) :
    g.heartbeat handle e = (false, g) := by
  simp only [heartbeat, hc]

section Heartbeat

variable {c : Connection} (hc : g.get? handle = some c)
include hc

/-- A heartbeat of another epoch has no effect. -/
theorem heartbeat_of_stale {e : Nat} (h : ¬(c.life.armed = true ∧ c.life.epoch = e)) :
    g.heartbeat handle e = (false, g) := by
  simp only [heartbeat, hc, Lifecycle.beat_of_stale h]

/-- A heartbeat that is not the last one is counted. -/
theorem heartbeat_of_alive (ha : c.life.armed = true) (ht : 1 < c.life.ttl) :
    g.heartbeat handle c.life.epoch =
      (true, g.modify handle (Connection.withTtl (c.life.ttl - 1))) := by
  simp only [heartbeat, hc, Lifecycle.beat_of_current ha, if_pos ht, put]
  refine Prod.ext rfl (modify_congr fun c' hc' => ?_)
  obtain rfl : c = c' := Option.some.inj (hc.symm.trans hc')
  rfl

/-- The last heartbeat fails the connection. -/
theorem heartbeat_of_expired (ha : c.life.armed = true) (ht : c.life.ttl ≤ 1)
    (hs : c.life.state.isBound = true) :
    g.heartbeat handle c.life.epoch = (false, g.failConnection handle) := by
  have hput : g.put handle (c.withTtl (c.life.ttl - 1)) =
      g.modify handle (Connection.withTtl (c.life.ttl - 1)) := by
    refine modify_congr fun c' hc' => ?_
    obtain rfl : c = c' := Option.some.inj (hc.symm.trans hc')
    rfl
  have hexpired : c.life.beat c.life.epoch = (.expired, { c.life with ttl := c.life.ttl - 1 }) := by
    rw [Lifecycle.beat_of_current ha, if_neg (by omega)]
  have hbeat : g.heartbeat handle c.life.epoch = (false, announceAll
      ((g.put handle (c.withTtl (c.life.ttl - 1))).teardown handle
        (c.withTtl (c.life.ttl - 1)) true).1
      ((g.put handle (c.withTtl (c.life.ttl - 1))).teardown handle
        (c.withTtl (c.life.ttl - 1)) true).2) := by
    simp only [heartbeat, hc, hexpired]
    rfl
  rw [hbeat, hput, teardown_withTtl hc, failConnection, startFail_of_bound hc hs]
  rfl

end Heartbeat

/-! ## Tasks -/

namespace Timed

variable {task : Task}

/-- A task leaves that does not count the time of its connection. -/
theorem drop (h : Timed (task :: hand) g)
    (hstale : ∀ k l, g.life? k = some l → ¬(l.armed = true ∧ task = .heartbeat k l.epoch)) :
    Timed hand g where
  resolution := h.resolution
  sound := h.sound
  paced := fun k l hl => (h.paced k l hl).drop (hstale k l hl)
  places := fun k e he => h.places k e (List.mem_cons_of_mem _ he)
  queues := h.queues

theorem perm {hand' : List Task} (h : Timed hand g) (hp : hand.Perm hand') : Timed hand' g where
  resolution := h.resolution
  sound := h.sound
  paced := fun k l hl => (h.paced k l hl).perm (hp.append_right _)
  places := fun k e he => h.places k e ((hp.append_right _).mem_iff.2 he)
  queues := h.queues

/-- A connection that fails is done with its task before anybody is told. -/
theorem fail {c : Connection} {e : Nat} (h : Timed (.heartbeat handle e :: hand) g)
    (hc : g.get? handle = some c) (hs : c.life.state.isBound = true) :
    Timed hand (g.failConnection handle) := by
  have hstart := startFail_of_bound hc hs
  have hfronts := (teardown_front hc true).2.1.fronts
  have htorn : Timed (.heartbeat handle e :: hand) (g.teardown handle c true).2 := by
    have hchange := h.change (.fail handle)
    rwa [hstart] at hchange
  have hdropped : Timed hand (g.teardown handle c true).2 := by
    refine htorn.drop fun k l hl ht => ?_
    obtain ⟨rfl, -⟩ := Task.heartbeat.inj ht.2
    simp only [life?, hfronts, if_true, Option.map_some, Option.some.injEq] at hl
    have harmed : l.armed = false := by
      rw [← hl]
      exact armed_endedLife g c.life
    simp [harmed] at ht
  rw [failConnection, hstart]
  exact hdropped.changes (onlyTells_announce maxDepth _ _).changes

theorem heartbeat {e : Nat} (h : Timed (.heartbeat handle e :: hand) g) :
    Timed (if (g.heartbeat handle e).1 then .heartbeat handle e :: hand else hand)
      (g.heartbeat handle e).2 := by
  cases hc : g.get? handle with
  | none =>
    rw [heartbeat_of_none hc]
    refine h.drop fun k l hl ht => ?_
    obtain ⟨rfl, -⟩ := Task.heartbeat.inj ht.2
    simp [life?, front?, hc] at hl
  | some c =>
    have hlife := life?_of_get? hc
    by_cases hcur : c.life.armed = true ∧ c.life.epoch = e
    · obtain ⟨ha, rfl⟩ := hcur
      have hsound := h.sound handle _ hlife
      by_cases ht : 1 < c.life.ttl
      · rw [heartbeat_of_alive hc ha ht]
        refine h.of_lives rfl rfl (length_modify g handle _) fun k l' hl' => ?_
        rcases life_cases (life?_withTtl hc _) hl' with ⟨rfl, rfl⟩ | ⟨-, hl⟩
        · exact ⟨c.life, hlife, rfl, rfl, hsound.beat ht⟩
        · exact ⟨l', hl, rfl, rfl, h.sound k l' hl⟩
      · have hs := hsound.isBound (hsound.armed.1 ha)
        rw [heartbeat_of_expired hc ha (by omega) hs]
        exact h.fail hc hs
    · rw [heartbeat_of_stale hc hcur]
      refine h.drop fun k l hl ht => ?_
      obtain ⟨rfl, rfl⟩ := Task.heartbeat.inj ht.2
      obtain rfl : c.life = l := Option.some.inj (hlife.symm.trans hl)
      exact hcur ⟨ht.1, rfl⟩

theorem runTask (h : Timed (task :: hand) g) :
    Timed (if (g.runTask task).1 then task :: hand else hand) (g.runTask task).2 := by
  cases task with
  | media k =>
    simp only [Gateway.runTask]
    split
    · exact h.moves (plainMoves_pump g k).moves
    · exact h.drop fun k l _ ht => by cases ht.2
  | heartbeat k e => exact h.heartbeat

/-- Tasks that are run keep the times counted, by induction on the tasks. -/
theorem runTasks {tasks : List Task} (h : Timed (tasks ++ hand) g) :
    Timed ((g.runTasks tasks).1 ++ hand) (g.runTasks tasks).2 := by
  induction tasks generalizing g hand with
  | nil => exact h
  | cons task rest ih =>
    have hrun : Timed (if (g.runTask task).1 then task :: (rest ++ hand) else rest ++ hand)
        (g.runTask task).2 := runTask h
    rw [runTasks_cons]
    cases hstays : (g.runTask task).1 with
    | false =>
      rw [hstays] at hrun
      exact ih hrun
    | true =>
      rw [hstays] at hrun
      exact (ih (hrun.perm List.perm_middle.symm)).perm List.perm_middle

end Timed

/-! ## Ticks and runs -/

theorem runTasks_sublist (g : Gateway) (tasks : List Task) :
    (g.runTasks tasks).1.Sublist tasks := by
  induction tasks generalizing g with
  | nil => exact .slnil
  | cons task rest ih =>
    rw [runTasks_cons]
    cases (g.runTask task).1 with
    | false => exact (ih _).cons task
    | true => exact (ih _).cons_cons task

namespace Timed

theorem takeTasks (h : Timed [] g) (q : Queue) :
    Timed (g.scheduler.pending q) (g.takeTasks q) := by
  cases q with
  | heartbeat =>
    refine ⟨h.resolution, h.sound, fun k l hl => ?_, fun k e he => ?_, fun q task ht => ?_⟩
    · have hpaced : Paced g.scheduler.heartbeat k l := h.paced k l hl
      simpa [tasks, Gateway.takeTasks, Scheduler.withPending, Scheduler.pending] using hpaced
    · exact h.places k e (by
        simpa [tasks, Gateway.takeTasks, Scheduler.withPending, Scheduler.pending] using he)
    · cases q with
      | media => exact h.queues .media task ht
      | heartbeat => simp [Gateway.takeTasks, Scheduler.withPending, Scheduler.pending] at ht
  | media =>
    have hother (k : Nat) : ∀ task ∈ g.scheduler.media, ∀ e, task ≠ .heartbeat k e := by
      rintro task ht e rfl
      cases h.queues .media _ ht
    refine ⟨h.resolution, h.sound, fun k l hl => ?_, fun k e he => ?_, fun q task ht => ?_⟩
    · exact ((Paced.append_iff (hother k)).2 (h.paced k l hl)).perm List.perm_append_comm
    · rcases List.mem_append.1 he with he | he
      · exact absurd rfl (hother k _ he e)
      · exact h.places k e he
    · cases q with
      | media => simp [Gateway.takeTasks, Scheduler.withPending, Scheduler.pending] at ht
      | heartbeat => exact h.queues .heartbeat task ht

theorem keepTasks (h : Timed hand g) {q : Queue} (hq : ∀ task ∈ hand, task.queue = q) :
    Timed [] (g.keepTasks q hand) := by
  cases q with
  | heartbeat =>
    refine ⟨h.resolution, h.sound, fun k l hl => h.paced k l hl, fun k e he => h.places k e he,
      fun q task ht => ?_⟩
    cases q with
    | media => exact h.queues .media task ht
    | heartbeat =>
      rcases List.mem_append.1 ht with ht | ht
      · exact hq task ht
      · exact h.queues .heartbeat task ht
  | media =>
    have hother (k : Nat) : ∀ task ∈ hand, ∀ e, task ≠ .heartbeat k e := by
      rintro task ht e rfl
      cases hq _ ht
    refine ⟨h.resolution, h.sound, fun k l hl => ?_, fun k e he => ?_, fun q task ht => ?_⟩
    · exact (Paced.append_iff (hother k)).1 ((h.paced k l hl).perm List.perm_append_comm)
    · exact h.places k e (List.mem_append_right hand he)
    · cases q with
      | heartbeat => exact h.queues .heartbeat task ht
      | media =>
        rcases List.mem_append.1 ht with ht | ht
        · exact hq task ht
        · exact h.queues .media task ht

theorem tick (h : Timed [] g) (q : Queue) : Timed [] (g.tick q).2 := by
  rw [tick_eq]
  have htaken : Timed (g.scheduler.pending q ++ []) (g.takeTasks q) := by
    rw [List.append_nil]
    exact h.takeTasks q
  have hrun := htaken.runTasks
  rw [List.append_nil] at hrun
  exact hrun.keepTasks fun task ht =>
    h.queues q task ((runTasks_sublist _ _).subset ht)

theorem perform (h : Timed [] g) (a : Action) : Timed [] (g.perform a) := by
  cases hk : a.kind with
  | restock =>
    have hrestock := restock_perform g hk
    exact h.lives hrestock.lives hrestock.ground.1
  | setting => exact h.same (setting_perform g hk).sameLives
  | redraw =>
    obtain ⟨e, rfl⟩ := Action.eq_redraw hk
    exact h.same (.of_connections rfl rfl rfl)
  | work =>
    by_cases ha : ∃ q, a = .tick q
    · obtain ⟨q, rfl⟩ := ha
      exact h.tick q
    · exact h.moves (moves_perform g hk fun q hq => ha ⟨q, hq⟩)

end Timed

/-- Times are counted once after every run. -/
theorem timed_run (config : GatewayConfig) (environment : Environment) (actions : List Action) :
    Timed [] ((make config environment).run actions) := by
  have hrun (g : Gateway) (h : Timed [] g) : Timed [] (g.run actions) := by
    induction actions generalizing g with
    | nil => exact h
    | cons a rest ih => exact ih _ (h.perform a)
  exact hrun _ (.make config environment)

end Gateway

end MediaGateway
