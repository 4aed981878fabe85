import MediaGateway.Rtp.Sequence

/-!
# Statistics of a session

What a session has received and sent. Loss is told from gaps: a packet ahead of the highest one
seen adds the numbers it skips, and a packet behind it is reordered and takes one away again.
-/

namespace MediaGateway

/-- The counters of one session. -/
structure Statistics where
  /-- Packets received. -/
  received : Nat := 0
  /-- Payload bytes received. -/
  bytesReceived : Nat := 0
  /-- Packets sent. -/
  sent : Nat := 0
  /-- Payload bytes sent. -/
  bytesSent : Nat := 0
  /-- Packets missing. -/
  lost : Nat := 0
  /-- Packets that came behind a later one. -/
  reordered : Nat := 0
  /-- Packets that came too late to be played. -/
  late : Nat := 0
  /-- Packets that the jitter buffer gave up. -/
  discarded : Nat := 0
  /-- The highest sequence number seen. -/
  lastSequence : Option UInt16 := none
deriving DecidableEq, Repr, Inhabited

namespace Statistics

/-- Takes the place of a packet among those received before into account. -/
def place (s : Statistics) (sequence : UInt16) : Statistics :=
  match s.lastSequence with
  | none => { s with lastSequence := some sequence }
  | some last =>
    let d := Sequence.distance sequence last
    if 0 < d then { s with lost := s.lost + (d - 1).toNat, lastSequence := some sequence }
    else if d < 0 then { s with reordered := s.reordered + 1, lost := s.lost - 1 }
    else s

/-- Counts a received packet. -/
def recordReceived (s : Statistics) (sequence : UInt16) (length : Nat) : Statistics :=
  { s with received := s.received + 1, bytesReceived := s.bytesReceived + length }.place sequence

/-- Counts a packet that was sent. -/
def recordSent (s : Statistics) (length : Nat) : Statistics :=
  { s with sent := s.sent + 1, bytesSent := s.bytesSent + length }

/-- Counts a packet that came too late to be played. -/
def recordLate (s : Statistics) : Statistics :=
  { s with late := s.late + 1 }

/-- Counts packets that the jitter buffer gave up. -/
def recordDiscarded (s : Statistics) (count : Nat) : Statistics :=
  { s with discarded := s.discarded + count }

/-- `part` of `whole` in percent, zero when there is no whole. -/
def percentage (part whole : Nat) : Float :=
  if whole = 0 then 0.0 else part.toUInt64.toFloat / whole.toUInt64.toFloat * 100.0

/-- The missing packets among all that were sent. -/
def lossPercentage (s : Statistics) : Float :=
  percentage s.lost (s.received + s.lost)

/-- The reordered packets among those received. -/
def reorderPercentage (s : Statistics) : Float :=
  percentage s.reordered s.received

/-- The counters in a diagnostic text. -/
def debugText (s : Statistics) : String :=
  "RtpStatistics \x7b packets_received: " ++ toString s.received ++
    ", packets_sent: " ++ toString s.sent ++ ", packets_lost: " ++ toString s.lost ++
    ", packets_reordered: " ++ toString s.reordered ++ ", packets_late: " ++ toString s.late ++
    ", packets_discarded: " ++ toString s.discarded ++ " \x7d"

end Statistics

end MediaGateway
