/-!
# The scheduler

Work that has to be done again and again waits in one of two queues, one for media and one for
heartbeats. A tick of a queue runs every task that is in it once, in the order in which they were
submitted. A task may stay or leave after a run, and it may submit tasks to either queue; those
submitted to the queue that is being run wait behind the tasks that stay, until the next tick.
-/

namespace MediaGateway

/-- The two queues. -/
inductive Queue where
  | media
  | heartbeat
deriving DecidableEq, Repr

/-- Tasks that wait for the next tick of their queue. -/
structure Scheduler (τ : Type) where
  /-- The tasks about media. -/
  media : List τ
  /-- The tasks about heartbeats. -/
  heartbeat : List τ
  /-- How many heartbeats there are in a second. -/
  resolution : UInt32
deriving DecidableEq, Repr

namespace Scheduler

variable {τ σ : Type}

/-- The time between two ticks of the media queue, in milliseconds. -/
def mediaPeriod : Nat := 20

/-- The number of heartbeats in a second, unless configured. -/
def defaultResolution : UInt32 := 10

/-- A scheduler without tasks; there is at least one heartbeat in a second. -/
def make (resolution : UInt32) : Scheduler τ where
  media := []
  heartbeat := []
  resolution := max resolution 1

/-- The tasks that wait in a queue. -/
def pending (s : Scheduler τ) : Queue → List τ
  | .media => s.media
  | .heartbeat => s.heartbeat

/-- The scheduler with other tasks in a queue. -/
def withPending (s : Scheduler τ) (q : Queue) (tasks : List τ) : Scheduler τ :=
  match q with
  | .media => { s with media := tasks }
  | .heartbeat => { s with heartbeat := tasks }

/-- Adds a task at the end of a queue. -/
def submit (s : Scheduler τ) (q : Queue) (task : τ) : Scheduler τ :=
  s.withPending q (s.pending q ++ [task])

/-- One run of a task: the task if it stays, and what has become of the scheduler and of the state
that tasks work on. -/
abbrev Run (τ σ : Type) : Type :=
  τ → Scheduler τ → σ → Option τ × Scheduler τ × σ

/-- Runs tasks one after the other and collects those that stay. -/
def runAll (run : Run τ σ) : List τ → Scheduler τ → σ → List τ × Scheduler τ × σ
  | [], s, x => ([], s, x)
  | task :: rest, s, x =>
    let (kept, s, x) := run task s x
    let (survivors, s, x) := runAll run rest s x
    (kept.toList ++ survivors, s, x)

/-- Runs every task of a queue once and says how many there were. -/
def tick (run : Run τ σ) (q : Queue) (s : Scheduler τ) (x : σ) : Nat × Scheduler τ × σ :=
  let tasks := s.pending q
  let (survivors, s, x) := runAll run tasks (s.withPending q []) x
  (tasks.length, s.withPending q (survivors ++ s.pending q), x)

/-! ## Ticking by the clock -/

/-- The time between two heartbeats in nanoseconds. -/
def heartbeatPeriod (s : Scheduler τ) : Nat :=
  1000000000 / s.resolution.toNat

/-- The times, in milliseconds, at which a queue with a tick every `period` nanoseconds is run
within a span: at its beginning and after every full period, rounded up to the next millisecond. A
tick at the end of the span is outside it. -/
def tickTimes (period span : Nat) : List Nat :=
  ((List.range (span * 1000000 / period + 1)).map fun k => (k * period + 999999) / 1000000).filter
    (· < span)

/-- The ticks of both queues within a span, in the order of their times; the media queue is run
every `mediaPeriod` milliseconds. There is a single clock for both, which does not start if one of
the periods is shorter than a nanosecond. -/
def ticksWithin (mediaPeriod : Nat) (s : Scheduler τ) (span : Nat) : List (Nat × Queue) :=
  if mediaPeriod = 0 ∨ s.heartbeatPeriod = 0 then []
  else
    let media := (tickTimes (mediaPeriod * 1000000) span).map fun t => (t, Queue.media)
    let heartbeat := (tickTimes s.heartbeatPeriod span).map fun t => (t, Queue.heartbeat)
    media.merge heartbeat fun a b => a.1 ≤ b.1

/-- Runs both queues for a span of milliseconds. -/
def runFor (run : Run τ σ) (mediaPeriod span : Nat) (s : Scheduler τ) (x : σ) : Scheduler τ × σ :=
  (s.ticksWithin mediaPeriod span).foldl (fun (s, x) t => (tick run t.2 s x).2) (s, x)

end Scheduler

end MediaGateway
