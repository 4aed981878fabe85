import MediaGateway.Proofs.Gateway.Timed
import MediaGateway.Proofs.Scheduler.History

/-!
# The ticks of the gateway are orderly

All that the gateway does to its scheduler is to submit tasks. So its own tasks, whatever their
listeners do, are tasks of the kind whose histories are orderly, and with that none of them is lost,
repeated or overtaken in its ticks.

The scheduler keeps the state that its tasks work on apart from itself, and the gateway has its
scheduler within. The two are brought together by putting the scheduler back into the gateway after
each tick.
-/

namespace MediaGateway.Gateway

variable {g g' g'' : Gateway}

/-- The scheduler has got tasks. -/
def Submits (g g' : Gateway) : Prop :=
  ∃ tasks, g'.scheduler = g.scheduler.submitAll tasks

namespace Submits

theorem of_scheduler (h : g'.scheduler = g.scheduler) : Submits g g' :=
  ⟨[], h⟩

theorem trans (h : Submits g g') (h' : Submits g' g'') : Submits g g'' := by
  obtain ⟨tasks, h⟩ := h
  obtain ⟨tasks', h'⟩ := h'
  refine ⟨tasks ++ tasks', ?_⟩
  rw [h', h, Scheduler.submitAll, Scheduler.submitAll, Scheduler.submitAll, List.foldl_append]

end Submits

theorem submitAll_map (s : Scheduler Task) (q : Queue) (tasks : List Task) :
    s.submitAll (tasks.map (q, ·)) = s.withPending q (s.pending q ++ tasks) := by
  induction tasks generalizing s with
  | nil => cases q <;> simp [Scheduler.submitAll, Scheduler.withPending, Scheduler.pending]
  | cons task rest ih =>
    show (s.submit q task).submitAll (rest.map (q, ·)) = _
    rw [ih]
    cases q <;> simp [Scheduler.submit, Scheduler.withPending, Scheduler.pending]

theorem LivesStep.submits (h : LivesStep g g') : Submits g g' := by
  cases h with
  | same h => exact .of_scheduler h.scheduler
  | @step handle _ _ epoch? _ _ _ _ scheduler =>
    cases epoch? with
    | none => exact .of_scheduler scheduler
    | some epoch => exact ⟨[(.heartbeat, .heartbeat handle epoch)], scheduler⟩
  | arrive handles _ _ scheduler =>
    exact ⟨_, scheduler.trans (submitAll_map _ .media (handles.map Task.media)).symm⟩
  | leave _ _ _ scheduler => exact .of_scheduler scheduler

theorem Change.submits (h : Change g g') : Submits g g' :=
  h.lives.submits

theorem Move.submits (h : Move g g') : Submits g g' := by
  cases h with
  | change h => exact h.submits
  | refresh handle => exact .of_scheduler rfl
  | send handle frame =>
    simp only [Gateway.send]
    repeat' split
    all_goals exact .of_scheduler rfl

theorem Moves.submits (h : Moves g g') : Submits g g' := by
  induction h with
  | refl => exact .of_scheduler rfl
  | tail _ hm ih => exact ih.trans hm.submits

theorem submits_heartbeat (g : Gateway) (handle epoch : Nat) :
    Submits g (g.heartbeat handle epoch).2 := by
  simp only [heartbeat]
  split
  · exact .of_scheduler rfl
  · rename_i c hc
    split
    · exact .of_scheduler rfl
    · exact .of_scheduler rfl
    · -- the connection is torn down, and all hear of it
      rename_i life hb
      have hput : (g.put handle { c with life }).get? handle = some { c with life } := by
        simp [get?_put, hc]
      have hteardown := (teardown_front hput true).2.1.scheduler
      exact (Submits.of_scheduler hteardown).trans
        (onlyTells_announce maxDepth _ _).changes.moves.submits

theorem submits_runTask (g : Gateway) (task : Task) : Submits g (g.runTask task).2 := by
  cases task with
  | media handle =>
    simp only [runTask]
    split
    · exact (plainMoves_pump g handle).moves.submits
    · exact .of_scheduler rfl
  | heartbeat handle epoch => exact submits_heartbeat g handle epoch

/-- The gateway's tasks are among those that do nothing to the scheduler but submit to it. -/
theorem exists_behaviour_taskRun : ∃ b : Scheduler.Behaviour Task Gateway, b.run = taskRun :=
  Scheduler.exists_behaviour taskRun fun task scheduler g =>
    submits_runTask { g with scheduler } task

/-! ## Ticks -/

open Scheduler (Step Behaviour Observed Orderly)

/-- Runs queues one after the other. -/
def ticks (g : Gateway) (qs : List Queue) : Gateway :=
  qs.foldl (fun g q => (g.tick q).2) g

/-- It makes no difference to a tick which scheduler the state had that its tasks work on. -/
theorem tick_withScheduler (g : Gateway) (s : Scheduler Task) (q : Queue) :
    ({ g with scheduler := s }.tick q).2 =
      { (s.tick taskRun q g).2.2 with scheduler := (s.tick taskRun q g).2.1 } := by
  have hrun := runAll_eq g (s.pending q) (s.withPending q [])
  rw [tick_eq]
  show ((({ g with scheduler := s.withPending q [] } : Gateway).runTasks (s.pending q)).2.keepTasks q
    (({ g with scheduler := s.withPending q [] } : Gateway).runTasks (s.pending q)).1) = _
  rw [← hrun]
  rfl

variable {b : Behaviour Task Gateway}

/-- Queues run one after the other leave what the history of their ticks leaves, of the scheduler and
of the state apart from it. -/
theorem ticks_withScheduler (hb : b.run = taskRun) (g : Gateway) (s : Scheduler Task)
    (qs : List Queue) :
    let r := (qs.map Step.tick).foldl (Scheduler.step b) (s, g)
    { g with scheduler := s }.ticks qs = { r.2 with scheduler := r.1 } := by
  induction qs generalizing g s with
  | nil => rfl
  | cons q rest ih =>
    have hrest := ih (s.tick taskRun q g).2.2 (s.tick taskRun q g).2.1
    rw [← tick_withScheduler] at hrest
    simp only [List.map_cons, List.foldl_cons, Scheduler.step, hb]
    exact hrest

/-- The tasks that wait in a scheduler, as submissions. -/
def waiting (s : Scheduler Task) : List (Step Task) :=
  s.media.map (.submit .media) ++ s.heartbeat.map (.submit .heartbeat)

/-- With its tasks submitted, an empty scheduler is the one in which they wait. -/
theorem foldl_waiting (b : Behaviour Task Gateway) {s : Scheduler Task}
    (h : max s.resolution 1 = s.resolution) (g : Gateway) :
    (waiting s).foldl (Scheduler.step b) (.make s.resolution, g) = (s, g) := by
  have hsubmit (s : Scheduler Task) (q : Queue) (tasks : List Task) :
      (tasks.map (Step.submit q)).foldl (Scheduler.step b) (s, g) =
        (s.submitAll (tasks.map (q, ·)), g) := by
    induction tasks generalizing s with
    | nil => rfl
    | cons task rest ih => exact ih (s.submit q task)
  rw [waiting, List.foldl_append, hsubmit, hsubmit, submitAll_map, submitAll_map]
  simp [Scheduler.make, Scheduler.withPending, Scheduler.pending, h]

/-- After every run of the gateway, the ticks of its queues follow on the submissions of the tasks
that wait, as an orderly history: each tick runs once every task that waits, in the order of
submission, and the gateway is left with the scheduler and the state that this history leaves. -/
theorem ticks_orderly (config : GatewayConfig) (environment : Environment)
    (actions : List Action) :
    let g := (make config environment).run actions
    ∃ b : Behaviour Task Gateway, b.run = taskRun ∧ ∀ qs : List Queue,
      let start := Observed.start g.scheduler.resolution g
      let steps := waiting g.scheduler ++ qs.map .tick
      Orderly b start steps ∧ ∀ i,
        let r := (steps.take ((waiting g.scheduler).length + i)).foldl (Scheduler.step b) start.plain
        g.ticks (qs.take i) = { r.2 with scheduler := r.1 } := by
  intro g
  obtain ⟨b, hb⟩ := exists_behaviour_taskRun
  refine ⟨b, hb, fun qs => ⟨(Observed.ordered_start _ g).orderly rfl _, fun i => ?_⟩⟩
  have hresolution : max g.scheduler.resolution 1 = g.scheduler.resolution := by
    rw [(timed_run config environment actions).resolution]
    simp only [max]
    split <;> simp_all
  have hwaiting := foldl_waiting b hresolution g
  have hticks := ticks_withScheduler hb g g.scheduler (qs.take i)
  simp only [List.take_length_add_append, List.foldl_append, ← List.map_take]
  rw [show (Observed.start g.scheduler.resolution g).plain =
    (Scheduler.make g.scheduler.resolution, g) from rfl, hwaiting]
  exact hticks

end MediaGateway.Gateway
