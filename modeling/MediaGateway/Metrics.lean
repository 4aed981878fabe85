import MediaGateway.Metrics.Sample
import MediaGateway.Statistics

/-!
# Metrics of the process

What all sessions and connections of a process have done together: counters, which only grow,
gauges, which show a present value, and a histogram of the jitter estimates. A counter is a word of
64 bits; one that runs over starts again at zero, and whoever reads it takes that for a restart.

Every update of the statistics of a session is repeated in the counters; `Meter` is the pair of the
two.
-/

namespace MediaGateway

/-- How many observed values lie at or below each of some bounds. -/
structure Histogram where
  /-- For each bound the number of values at or below it. -/
  counts : List Nat
  /-- The number of values. -/
  count : Nat
  /-- The sum of the values, rounded after every addition. -/
  sum : Int
deriving DecidableEq, Repr

namespace Histogram

/-- The bounds for jitter estimates, in timestamp units. -/
def bounds : List Nat := [0, 8, 16, 40, 80, 160, 400, 800, 1600]

/-- The histogram of no values. -/
def empty : Histogram where
  counts := bounds.map fun _ => 0
  count := 0
  sum := 0

/-- Adds a value. -/
def observe (h : Histogram) (value : Int) : Histogram where
  counts := bounds.zipWith (fun (bound count : Nat) => if value ≤ bound then count + 1 else count)
    h.counts
  count := h.count + 1
  sum := Sample.nearest (h.sum + Sample.nearest value)

end Histogram

/-- The metrics of a process. -/
structure Metrics where
  /-- Packets sent. -/
  packetsSent : UInt64 := 0
  /-- Packets received. -/
  packetsReceived : UInt64 := 0
  /-- Payload bytes sent. -/
  bytesSent : UInt64 := 0
  /-- Payload bytes received. -/
  bytesReceived : UInt64 := 0
  /-- Packets that were too late or given up by a jitter buffer. -/
  dropped : UInt64 := 0
  /-- Packets in the jitter buffer that was polled last. -/
  occupancy : Int := 0
  /-- Connections built. -/
  created : UInt64 := 0
  /-- Connections that ended by failure. -/
  failures : UInt64 := 0
  /-- Exchanges of descriptions that came to no agreement. -/
  negotiationFailures : UInt64 := 0
  /-- Connections that are open. -/
  openConnections : Int := 0
  /-- The jitter estimates after each received packet. -/
  jitter : Histogram := .empty
deriving DecidableEq, Repr

/-- The statistics of a session together with the metrics of its process. -/
structure Meter where
  /-- The counters of the session. -/
  statistics : Statistics
  /-- The counters of the process. -/
  metrics : Metrics
deriving DecidableEq, Repr

namespace Meter

/-- Counts a received packet. -/
def received (m : Meter) (sequence : UInt16) (length : Nat) : Meter where
  statistics := m.statistics.recordReceived sequence length
  metrics := { m.metrics with
    packetsReceived := m.metrics.packetsReceived + 1
    bytesReceived := m.metrics.bytesReceived + UInt64.ofNat length }

/-- Counts a packet that was sent. -/
def sent (m : Meter) (length : Nat) : Meter where
  statistics := m.statistics.recordSent length
  metrics := { m.metrics with
    packetsSent := m.metrics.packetsSent + 1
    bytesSent := m.metrics.bytesSent + UInt64.ofNat length }

/-- Counts a packet that came too late to be played. -/
def late (m : Meter) : Meter where
  statistics := m.statistics.recordLate
  metrics := { m.metrics with dropped := m.metrics.dropped + 1 }

/-- Counts packets that a jitter buffer gave up. -/
def discarded (m : Meter) (count : Nat) : Meter where
  statistics := m.statistics.recordDiscarded count
  metrics := { m.metrics with dropped := m.metrics.dropped + UInt64.ofNat count }

/-- Clears the counters of the session. -/
def reset (m : Meter) : Meter :=
  { m with statistics := {} }

end Meter

end MediaGateway
