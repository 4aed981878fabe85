import MediaGateway.Gateway.Calls

/-!
# Running the gateway's tasks
-/

namespace MediaGateway.Gateway

/-- Runs a task once and says whether it stays. Tasks about connections that are gone leave. -/
def runTask (g : Gateway) : Task → Bool × Gateway
  | .media handle => if (g.get? handle).isSome then (true, (g.pump handle).2) else (false, g)
  | .heartbeat handle epoch => g.heartbeat handle epoch

/-- One run of a task of the gateway, with the scheduler kept apart. -/
def taskRun : Scheduler.Run Task Gateway := fun task scheduler g =>
  let (stays, g) := { g with scheduler }.runTask task
  (if stays then some task else none, g.scheduler, g)

/-- Runs every task of a queue once and says how many there were. -/
def tick (g : Gateway) (q : Queue) : Nat × Gateway :=
  let (n, scheduler, g) := g.scheduler.tick taskRun q g
  (n, { g with scheduler })

/-- Runs every task of a queue a number of times and says how many runs there were. -/
def tickTimes (g : Gateway) (q : Queue) : Nat → Nat × Gateway
  | 0 => (0, g)
  | n + 1 =>
    let (ran, g) := g.tick q
    let (more, g) := g.tickTimes q n
    (ran + more, g)

end MediaGateway.Gateway
