import MediaGateway.Clock
import MediaGateway.Format.Table
import MediaGateway.Rtp.Packet
import MediaGateway.Rtp.Sequence

/-!
# The jitter buffer

Packets arrive late, early and out of order. The buffer holds every packet for a fixed time after
its arrival and hands out frames in the order of the sequence numbers. It does not wait for missing
packets; a packet that arrives when a later one has already been played is dropped and counted.

A packet that lies at or behind the last one played is late. Half a buffer of late packets in a row
means that the sender has started again: what is queued is given up and the next packet begins a
new sequence. When the buffer is full, the oldest packet gives way.

The buffer also keeps the estimate of the variation of the arrival times that RTP receivers report:
with `D` the change of the transit time from one packet to the next, the estimate moves towards
`|D|` by a sixteenth of the difference. It is kept scaled by sixteen.
-/

namespace MediaGateway

/-- How a jitter buffer is set up. -/
structure JitterConfig where
  /-- How long every packet is held, in milliseconds. -/
  tolerance : Nat
  /-- How many packets are held at most. -/
  maxPackets : Nat
deriving DecidableEq, Repr

/-- Three frames of delay, ten packets. -/
def JitterConfig.default : JitterConfig := ⟨60, 10⟩

/-- What became of a packet. -/
inductive WriteOutcome where
  /-- It waits to be played. -/
  | accepted
  /-- A packet with its sequence number waits already. -/
  | duplicate
  /-- It waits to be played, and the oldest packet was dropped for it. -/
  | overflow
  /-- It was dropped because a packet at or behind its place was played. -/
  | late
  /-- Its payload number has no meaning. -/
  | unknownPayload
deriving DecidableEq, Repr

/-- A packet that is played. -/
structure Frame where
  /-- The sequence number. -/
  sequence : UInt16
  /-- The timestamp in milliseconds. -/
  timestampMs : Nat
  /-- The timestamp in units of the media clock. -/
  timestamp : UInt32
  /-- The time to the next frame, or the last such time known. -/
  durationMs : Nat
  /-- Whether a talk spurt begins or a telephone event ends. -/
  marker : Bool
  /-- The source. -/
  ssrc : UInt32
  /-- The media. -/
  payload : List UInt8
  /-- How the media is encoded. -/
  format : Format
deriving DecidableEq, Repr

/-- A packet that waits. -/
structure Queued where
  /-- The packet. -/
  packet : Packet
  /-- When it arrived, in milliseconds. -/
  arrival : Nat
  /-- How its payload is encoded. -/
  format : Format
deriving DecidableEq, Repr

/-- The buffer of one stream. -/
structure JitterBuffer where
  /-- How it is set up. -/
  config : JitterConfig
  /-- The clock of the stream. -/
  clock : MediaClock
  /-- The packets that wait, in the order of their sequence numbers. -/
  queue : List Queued
  /-- What payload numbers mean. -/
  formats : FormatTable
  /-- The sequence number of the last packet that was played or gave way. -/
  lastDelivered : Option UInt16
  /-- How many packets were dropped. -/
  dropped : Nat
  /-- The transit time of the last packet, up to a constant. -/
  transit : Option UInt32
  /-- Sixteen times the jitter estimate. -/
  scaledJitter : UInt32
  /-- The last known time between two frames, in milliseconds. -/
  lastDurationMs : Nat
  /-- How many of the last packets were late without a break. -/
  lateRun : Nat
deriving DecidableEq

namespace JitterBuffer

/-- An empty buffer. -/
def make (config : JitterConfig) (clock : MediaClock) : JitterBuffer :=
  { config, clock, queue := [], formats := .empty, lastDelivered := none, dropped := 0,
    transit := none, scaledJitter := 0, lastDurationMs := 0, lateRun := 0 }

/-- How many late packets in a row mean that the sender has started again. -/
def resyncAfter (b : JitterBuffer) : Nat :=
  max (b.config.maxPackets / 2) 1

/-! ## The jitter estimate -/

/-- The size of the difference of two words, read as a signed number. -/
def wordDistance (a b : UInt32) : UInt32 :=
  if (a - b).toNat < 0x80000000 then a - b else b - a

/-- A sixteenth of the estimate, rounded; the sum that is rounded stops at the largest word. -/
def decay (scaled : UInt32) : UInt32 :=
  UInt32.ofNat (min (scaled.toNat + 8) 0xFFFFFFFF / 16)

/-- The scaled estimate after a transit time that differs by `d` from the one before. -/
def smooth (scaled d : UInt32) : UInt32 :=
  scaled + d - decay scaled

/-- Takes the arrival of a packet at wall time `now` into account. The first one anchors the
clock. -/
def observe (b : JitterBuffer) (now : Nat) (timestamp : UInt32) : JitterBuffer :=
  let clock := if b.clock.synchronized then b.clock else b.clock.synchronize now timestamp
  let transit := UInt32.ofInt (clock.read now) - timestamp
  { b with
    clock
    transit := some transit
    scaledJitter := match b.transit with
      | some previous => smooth b.scaledJitter (wordDistance transit previous)
      | none => b.scaledJitter }

/-- The jitter estimate in timestamp units. -/
def jitter (b : JitterBuffer) : Nat :=
  b.scaledJitter.toNat / 16

/-! ## Writing -/

/-- Whether a sequence number lies at or behind the last one played. -/
def isLate (b : JitterBuffer) (sequence : UInt16) : Bool :=
  match b.lastDelivered with
  | some last => Sequence.distance sequence last ≤ 0
  | none => false

/-- Gives up what is queued and where playing had come to. -/
def resynchronize (b : JitterBuffer) : JitterBuffer :=
  { b with
    queue := []
    lastDelivered := none
    dropped := b.dropped + b.queue.length
    transit := none
    scaledJitter := 0
    lateRun := 0
    clock := b.clock.reset }

/-- Drops a late packet, and starts anew if there were enough of them in a row. -/
def dropLate (b : JitterBuffer) : JitterBuffer :=
  let b := { b with dropped := b.dropped + 1, lateRun := b.lateRun + 1 }
  if b.resyncAfter ≤ b.lateRun then b.resynchronize else b

/-- The queue with a packet before the first one that it lies behind. -/
def insertInto (q : Queued) : List Queued → List Queued
  | [] => [q]
  | head :: rest =>
    if Sequence.distance q.packet.sequence head.packet.sequence < 0 then q :: head :: rest
    else head :: insertInto q rest

/-- Lets the oldest packet give way if there are too many. -/
def makeRoom (b : JitterBuffer) : WriteOutcome × JitterBuffer :=
  if b.config.maxPackets < b.queue.length then
    match b.queue with
    | oldest :: rest =>
      (.overflow, { b with
        queue := rest
        lastDelivered := some oldest.packet.sequence
        dropped := b.dropped + 1 })
    | [] => (.accepted, b)
  else (.accepted, b)

/-- Queues a packet that is not late, unless its sequence number is queued already. -/
def enqueue (b : JitterBuffer) (q : Queued) : WriteOutcome × JitterBuffer :=
  if b.queue.any fun other => other.packet.sequence == q.packet.sequence then (.duplicate, b)
  else { b with queue := insertInto q b.queue }.makeRoom

/-- The buffer with the clock at the rate of a format. Telephone events may have a rate of their
own and leave the clock to the media. -/
def adoptRate (b : JitterBuffer) (f : Format) : JitterBuffer :=
  if f.isTelephoneEvent then b else { b with clock := b.clock.setRate f.clockRate }

/-- Takes a packet whose payload is encoded as `f` at wall time `now`. -/
def write (b : JitterBuffer) (now : Nat) (p : Packet) (f : Format) : WriteOutcome × JitterBuffer :=
  let b := (b.adoptRate f).observe now p.timestamp
  if b.isLate p.sequence then (.late, b.dropLate)
  else { b with lateRun := 0 }.enqueue ⟨p, now, f⟩

/-- Takes a packet whose payload number says how it is encoded. -/
def writeMapped (b : JitterBuffer) (now : Nat) (p : Packet) : WriteOutcome × JitterBuffer :=
  match b.formats.find? p.payloadType with
  | some f => b.write now p f
  | none => (.unknownPayload, b)

/-! ## Reading -/

/-- The time from a packet to the next one in milliseconds, at the rate of the packet's format. -/
def duration (q next : Queued) : Nat :=
  (next.packet.timestamp - q.packet.timestamp).toNat * 1000 / max q.format.clockRate.toNat 1

/-- The packet as a frame. -/
def frame (clock : MediaClock) (q : Queued) (durationMs : Nat) : Frame where
  sequence := q.packet.sequence
  timestampMs := clock.toMillis q.packet.timestamp.toNat
  timestamp := q.packet.timestamp
  durationMs
  marker := q.packet.marker
  ssrc := q.packet.ssrc
  payload := q.packet.payload
  format := q.format

/-- Plays the first packet if it has been held long enough at wall time `now`. -/
def read (b : JitterBuffer) (now : Nat) : Option Frame × JitterBuffer :=
  match b.queue with
  | [] => (none, b)
  | q :: rest =>
    if now < q.arrival + b.config.tolerance then (none, b)
    else
      let lastDurationMs := match rest with
        | next :: _ => duration q next
        | [] => b.lastDurationMs
      (some (frame b.clock q lastDurationMs),
        { b with queue := rest, lastDurationMs, lastDelivered := some q.packet.sequence })

/-- Plays up to `n` packets that have been held long enough. -/
def readUpTo : Nat → JitterBuffer → Nat → List Frame × JitterBuffer
  | 0, b, _ => ([], b)
  | n + 1, b, now =>
    match b.read now with
    | (some f, b) =>
      let (fs, b) := readUpTo n b now
      (f :: fs, b)
    | (none, b) => ([], b)

/-- Plays every packet that has been held long enough, up to the first that has not. -/
def drain (b : JitterBuffer) (now : Nat) : List Frame × JitterBuffer :=
  readUpTo b.queue.length b now

/-- Forgets the stream; the meaning of the payload numbers stays. -/
def reset (b : JitterBuffer) : JitterBuffer :=
  { b with
    queue := []
    lastDelivered := none
    dropped := 0
    transit := none
    scaledJitter := 0
    lastDurationMs := 0
    lateRun := 0
    clock := b.clock.reset }

end JitterBuffer

end MediaGateway
