import MediaGateway.Scheduler
import Mathlib.Data.List.Basic

/-!
# Watching the scheduler at work

A task has no name, and it may be another value after each run, so what the scheduler does with *one*
task is not visible in its queues. Here the same scheduler runs tasks that carry a number, given to
them when they are submitted, and takes down what they do; forgetting the numbers gives back the
scheduler without them (`observe_plain`).
-/

namespace MediaGateway

namespace Scheduler

variable {τ υ σ : Type}

/-! ## Submitting -/

@[simp] theorem pending_withPending_same (s : Scheduler τ) (q : Queue) (tasks : List τ) :
    (s.withPending q tasks).pending q = tasks := by
  cases q <;> rfl

theorem pending_withPending_of_ne (s : Scheduler τ) {q q' : Queue} (tasks : List τ) (h : q' ≠ q) :
    (s.withPending q tasks).pending q' = s.pending q' := by
  cases q <;> cases q' <;> first | rfl | exact absurd rfl h

theorem pending_submit (s : Scheduler τ) (q q' : Queue) (task : τ) :
    (s.submit q task).pending q' = s.pending q' ++ if q = q' then [task] else [] := by
  by_cases h : q = q'
  · subst h
    simp [submit]
  · simp [submit, h, pending_withPending_of_ne s _ (Ne.symm h)]

/-- Submits tasks one after the other. -/
def submitAll (s : Scheduler τ) (tasks : List (Queue × τ)) : Scheduler τ :=
  tasks.foldl (fun s t => s.submit t.1 t.2) s

/-- Those of some submitted tasks that went to a queue. -/
def sentTo (q : Queue) (tasks : List (Queue × τ)) : List τ :=
  (tasks.filter fun t => t.1 = q).map (·.2)

theorem sentTo_append (q : Queue) (tasks tasks' : List (Queue × τ)) :
    sentTo q (tasks ++ tasks') = sentTo q tasks ++ sentTo q tasks' := by
  simp [sentTo]

theorem mem_sentTo {q : Queue} {tasks : List (Queue × τ)} {t : τ} :
    t ∈ sentTo q tasks ↔ (q, t) ∈ tasks := by
  simp [sentTo]

/-- Submitting only adds, at the end of each queue and in the order of submission. -/
theorem pending_submitAll (s : Scheduler τ) (tasks : List (Queue × τ)) (q : Queue) :
    (s.submitAll tasks).pending q = s.pending q ++ sentTo q tasks := by
  induction tasks generalizing s with
  | nil => simp [submitAll, sentTo]
  | cons t rest ih =>
    have h := ih (s.submit t.1 t.2)
    rw [pending_submit, List.append_assoc] at h
    rw [show s.submitAll (t :: rest) = (s.submit t.1 t.2).submitAll rest from rfl, h]
    by_cases hq : t.1 = q <;> simp [sentTo, hq]

/-! ## What tasks do -/

/-- What a task does when it is run: as what it stays, if it does, the tasks that it submits, in this
order, and what becomes of the state that tasks work on. -/
abbrev Behaviour (τ σ : Type) : Type :=
  τ → Scheduler τ → σ → Option τ × List (Queue × τ) × σ

/-- The run of a task that behaves so. -/
def Behaviour.run (b : Behaviour τ σ) : Run τ σ := fun task s x =>
  let (kept, submitted, x) := b task s x
  (kept, s.submitAll submitted, x)

/-- Every run that does nothing to the scheduler but submit to it is the run of a behaviour. -/
theorem exists_behaviour (run : Run τ σ)
    (h : ∀ task s x, ∃ submitted, (run task s x).2.1 = s.submitAll submitted) :
    ∃ b : Behaviour τ σ, b.run = run := by
  choose submitted hrun using h
  refine ⟨fun task s x => ((run task s x).1, submitted task s x, (run task s x).2.2), ?_⟩
  funext task s x
  simp only [Behaviour.run, ← hrun]

/-! ## The scheduler with other tasks -/

/-- The scheduler with each task replaced. -/
def map (f : τ → υ) (s : Scheduler τ) : Scheduler υ where
  media := s.media.map f
  heartbeat := s.heartbeat.map f
  resolution := s.resolution

@[simp] theorem pending_map (f : τ → υ) (s : Scheduler τ) (q : Queue) :
    (s.map f).pending q = (s.pending q).map f := by
  cases q <;> rfl

theorem map_withPending (f : τ → υ) (s : Scheduler τ) (q : Queue) (tasks : List τ) :
    (s.withPending q tasks).map f = (s.map f).withPending q (tasks.map f) := by
  cases q <;> rfl

theorem map_submit (f : τ → υ) (s : Scheduler τ) (q : Queue) (task : τ) :
    (s.submit q task).map f = (s.map f).submit q (f task) := by
  simp [submit, map_withPending]

theorem map_submitAll (f : τ → υ) (s : Scheduler τ) (tasks : List (Queue × τ)) :
    (s.submitAll tasks).map f = (s.map f).submitAll (tasks.map fun t => (t.1, f t.2)) := by
  induction tasks generalizing s with
  | nil => rfl
  | cons t rest ih =>
    show ((s.submit t.1 t.2).submitAll rest).map f = _
    rw [ih, map_submit]
    rfl

/-! ## Numbered tasks -/

/-- A task with the number it was given when it was submitted. -/
structure Numbered (τ : Type) where
  number : Nat
  task : τ
deriving DecidableEq, Repr

/-- What is taken down about a part of a run of the scheduler. -/
structure Notes (τ : Type) where
  /-- The tasks that were run, as they were before, and what they stayed as. -/
  ran : List (Numbered τ × Option τ)
  /-- The tasks that were submitted. -/
  submitted : List (Queue × Numbered τ)
deriving DecidableEq, Repr

/-- The state that tasks work on, with what has been taken down about them. -/
structure Watched (τ σ : Type) where
  world : σ
  /-- The number of the next task. -/
  next : Nat
  notes : Notes τ

/-- Gives numbers to tasks in their order. -/
def number : Nat → List (Queue × τ) → List (Queue × Numbered τ)
  | _, [] => []
  | next, (q, task) :: rest => (q, ⟨next, task⟩) :: number (next + 1) rest

theorem map_task_number (next : Nat) (tasks : List (Queue × τ)) :
    (number next tasks).map (fun t => (t.1, t.2.task)) = tasks := by
  induction tasks generalizing next with
  | nil => rfl
  | cons t rest ih => simp [number, ih]

theorem map_number_number (next : Nat) (tasks : List (Queue × τ)) :
    (number next tasks).map (·.2.number) = List.range' next tasks.length := by
  induction tasks generalizing next with
  | nil => rfl
  | cons t rest ih => simp [number, ih, List.range'_succ]

/-- The behaviour of numbered tasks: a task that stays keeps its number, and the tasks that it
submits get the next ones. -/
def Behaviour.watched (b : Behaviour τ σ) : Behaviour (Numbered τ) (Watched τ σ) := fun t s w =>
  let (kept, submitted, x) := b t.task (s.map (·.task)) w.world
  let submitted := number w.next submitted
  (kept.map (⟨t.number, ·⟩), submitted,
    { world := x
      next := w.next + submitted.length
      notes :=
        { ran := w.notes.ran ++ [(t, kept)]
          submitted := w.notes.submitted ++ submitted } })

/-! ## Steps and what is seen of them -/

/-- What is done to a scheduler. -/
inductive Step (τ : Type) where
  | submit (q : Queue) (task : τ)
  | tick (q : Queue)
deriving DecidableEq, Repr

/-- The queue that is run. -/
def Step.ticked : Step τ → Option Queue
  | .submit _ _ => none
  | .tick q => some q

/-- A step of the scheduler and the state that tasks work on. -/
def step (b : Behaviour τ σ) (s : Scheduler τ × σ) : Step τ → Scheduler τ × σ
  | .submit q task => (s.1.submit q task, s.2)
  | .tick q => (s.1.tick b.run q s.2).2

/-- A scheduler whose tasks have numbers. -/
structure Observed (τ σ : Type) where
  scheduler : Scheduler (Numbered τ)
  /-- The number of the next task. -/
  next : Nat
  world : σ

namespace Observed

/-- The scheduler and the state as they are without numbers. -/
def plain (o : Observed τ σ) : Scheduler τ × σ :=
  (o.scheduler.map (·.task), o.world)

/-- A scheduler without tasks. -/
def start (resolution : UInt32) (x : σ) : Observed τ σ where
  scheduler := .make resolution
  next := 0
  world := x

/-- The tick of a queue, with what is taken down about it. -/
def tick (b : Behaviour τ σ) (o : Observed τ σ) (q : Queue) :
    Nat × Scheduler (Numbered τ) × Watched τ σ :=
  o.scheduler.tick b.watched.run q ⟨o.world, o.next, ⟨[], []⟩⟩

/-- A step, with what is taken down about it. -/
def step (b : Behaviour τ σ) (o : Observed τ σ) : Step τ → Notes τ × Observed τ σ
  | .submit q task =>
    (⟨[], [(q, ⟨o.next, task⟩)]⟩,
      { o with scheduler := o.scheduler.submit q ⟨o.next, task⟩, next := o.next + 1 })
  | .tick q =>
    let (_, s, w) := o.tick b q
    (w.notes, { scheduler := s, next := w.next, world := w.world })

/-- What becomes of a scheduler by several steps. -/
def run (b : Behaviour τ σ) (o : Observed τ σ) (steps : List (Step τ)) : Observed τ σ :=
  steps.foldl (fun o s => (o.step b s).2) o

/-- What is taken down about each of several steps. -/
def record (b : Behaviour τ σ) : Observed τ σ → List (Step τ) → List (Notes τ)
  | _, [] => []
  | o, s :: rest => (o.step b s).1 :: record b (o.step b s).2 rest

end Observed

/-! ## Forgetting the numbers -/

variable (b : Behaviour τ σ)

theorem run_watched (t : Numbered τ) (s : Scheduler (Numbered τ)) (w : Watched τ σ) :
    b.run t.task (s.map (·.task)) w.world =
      ((b.watched.run t s w).1.map (·.task), (b.watched.run t s w).2.1.map (·.task),
        (b.watched.run t s w).2.2.world) := by
  simp [Behaviour.run, Behaviour.watched, map_submitAll, map_task_number, Function.comp_def]

theorem runAll_watched (tasks : List (Numbered τ)) (s : Scheduler (Numbered τ))
    (w : Watched τ σ) :
    runAll b.run (tasks.map (·.task)) (s.map (·.task)) w.world =
      ((runAll b.watched.run tasks s w).1.map (·.task),
        (runAll b.watched.run tasks s w).2.1.map (·.task),
        (runAll b.watched.run tasks s w).2.2.world) := by
  induction tasks generalizing s w with
  | nil => rfl
  | cons t rest ih =>
    have hrest := ih (b.watched.run t s w).2.1 (b.watched.run t s w).2.2
    simp only [List.map_cons, runAll, run_watched b t s w, hrest]
    cases (b.watched.run t s w).1 <;> rfl

theorem tick_watched (q : Queue) (s : Scheduler (Numbered τ)) (w : Watched τ σ) :
    tick b.run q (s.map (·.task)) w.world =
      ((tick b.watched.run q s w).1, (tick b.watched.run q s w).2.1.map (·.task),
        (tick b.watched.run q s w).2.2.world) := by
  have hrun := runAll_watched b (s.pending q) (s.withPending q []) w
  simp only [map_withPending, List.map_nil] at hrun
  simp [tick, hrun, map_withPending]

/-- A step of numbered tasks is, without the numbers, the step of the scheduler. -/
theorem step_plain (o : Observed τ σ) (st : Step τ) : (o.step b st).2.plain = step b o.plain st := by
  cases st with
  | submit q task => simp [Observed.step, Observed.plain, step, map_submit]
  | tick q =>
    have h := tick_watched b q o.scheduler ⟨o.world, o.next, ⟨[], []⟩⟩
    simp only [step, Observed.plain, h]
    rfl

/-- Watching a scheduler changes nothing about it. -/
theorem observe_plain (o : Observed τ σ) (steps : List (Step τ)) :
    (o.run b steps).plain = steps.foldl (step b) o.plain := by
  induction steps generalizing o with
  | nil => rfl
  | cons st rest ih =>
    show ((o.step b st).2.run b rest).plain = _
    rw [ih, step_plain]
    rfl

end Scheduler

end MediaGateway
