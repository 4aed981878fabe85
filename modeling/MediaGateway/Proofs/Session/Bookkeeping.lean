import MediaGateway.Proofs.JitterBuffer.Accounting
import MediaGateway.Proofs.Session.Run

/-!
# The books of a session

A session counts the packets it receives, and its jitter buffer counts those it drops. The two are
kept apart: for every packet the session looks by how much the count of the buffer has grown, books
one of that as late if the buffer said so, and the rest as discarded. `TakesIn` says what the buffer
does with one packet; it is all that is needed to see that the session never takes away more than
there is, and that both books grow alike.

The packets that are neither dropped nor waiting have been played, or were not taken in at all. An
onlooker who has seen the frames and the outcomes since the buffer was last reset can therefore
account for every packet that the session has counted since then. The buffer is reset together with
the statistics when the stream gets another source and when the session ends, and without them when
the session stops receiving.
-/

namespace MediaGateway

/-! ## What a buffer does with one packet -/

/-- One packet makes the queue longer unless packets are dropped for it, or it is not needed because
there is one already or because its payload number has no meaning. -/
structure JitterBuffer.TakesIn (b : JitterBuffer) (outcome : WriteOutcome) (b' : JitterBuffer)
    (drops : Nat) : Prop where
  dropped : b'.dropped = b.dropped + drops
  late : outcome = .late → 1 ≤ drops
  packets : b'.queue.length + drops + (outcome == .duplicate).toNat +
    (outcome == .unknownPayload).toNat = b.queue.length + 1

namespace JitterBuffer

variable {b b' : JitterBuffer}

theorem TakesIn.of_stored {q : Queued} {outcome : WriteOutcome} {maxPackets drops : Nat}
    (h : Stored maxPackets q b.queue outcome b'.queue drops)
    (hdropped : b'.dropped = b.dropped + drops) : b.TakesIn outcome b' drops := by
  generalize hqueue : b'.queue = queue' at h
  cases h with
  | late => exact ⟨hdropped, fun _ => Nat.le_refl 1, congrArg (List.length · + 1) hqueue⟩
  | restart =>
    refine ⟨hdropped, fun _ => Nat.le_add_right 1 _, ?_⟩
    rw [hqueue]
    show 0 + (1 + b.queue.length) = b.queue.length + 1
    omega
  | duplicate => exact ⟨hdropped, nofun, congrArg (List.length · + 1) hqueue⟩
  | accepted hperm _ => exact ⟨hdropped, nofun, hqueue ▸ hperm.length_eq⟩
  | overflow hperm => exact ⟨hdropped, nofun, hqueue ▸ hperm.length_eq⟩

theorem exists_takesIn (b : JitterBuffer) (now : Nat) (p : Packet) :
    ∃ drops, b.TakesIn (b.writeMapped now p).1 (b.writeMapped now p).2 drops := by
  unfold writeMapped
  split
  · rename_i f _
    obtain ⟨drops, hstored, hdropped⟩ := b.write_stored now p f
    exact ⟨drops, .of_stored hstored hdropped⟩
  · exact ⟨0, rfl, nofun, rfl⟩

/-- What is played has waited, and nothing is dropped meanwhile. -/
theorem read_counts (b : JitterBuffer) (now : Nat) :
    (b.read now).1.toList.length + (b.read now).2.queue.length = b.queue.length ∧
      (b.read now).2.dropped = b.dropped := by
  obtain ⟨hnone, hsame⟩ | ⟨q, rest, f, hqueue, hframe, -, hrest, hdropped⟩ := b.read_cases now
  · rw [hnone, hsame]
    exact ⟨Nat.zero_add _, rfl⟩
  · rw [hframe, hrest, hqueue]
    exact ⟨Nat.add_comm 1 _, hdropped⟩

theorem readUpTo_counts (n : Nat) (b : JitterBuffer) (now : Nat) :
    (readUpTo n b now).1.length + (readUpTo n b now).2.queue.length = b.queue.length ∧
      (readUpTo n b now).2.dropped = b.dropped := by
  induction n generalizing b with
  | zero => exact ⟨Nat.zero_add _, rfl⟩
  | succ n ih =>
    have hone := b.read_counts now
    unfold readUpTo
    split <;> rename_i b' hread <;> rw [hread] at hone
    · obtain ⟨hrest, hkept⟩ := ih b'
      refine ⟨?_, hkept.trans hone.2⟩
      rw [← hone.1, ← hrest]
      exact (Nat.add_right_comm _ 1 _).trans (Nat.add_comm _ 1)
    · exact hone

end JitterBuffer

/-! ## What a session books of one packet -/

/-- The counts of a meter after some packets were dropped. -/
structure Meter.CountsDrops (meter meter' : Meter) (drops : Nat) : Prop where
  received : meter'.statistics.received = meter.statistics.received
  late_le : meter.statistics.late ≤ meter'.statistics.late
  discarded_le : meter.statistics.discarded ≤ meter'.statistics.discarded
  statistics : meter'.statistics.late + meter'.statistics.discarded =
    meter.statistics.late + meter.statistics.discarded + drops
  metrics : meter'.metrics.dropped = meter.metrics.dropped + .ofNat drops

namespace Meter

theorem countsDrops_discarded (meter : Meter) (drops : Nat) :
    meter.CountsDrops (meter.discarded drops) drops where
  received := rfl
  late_le := Nat.le_refl _
  discarded_le := Nat.le_add_right _ drops
  statistics := (Nat.add_assoc _ _ _).symm
  metrics := rfl

/-- One of the dropped packets may be a late one. -/
theorem countsDrops_late (meter : Meter) {drops : Nat} (h : 1 ≤ drops) :
    meter.CountsDrops (meter.late.discarded (drops - 1)) drops := by
  obtain ⟨others, rfl⟩ := Nat.exists_eq_add_of_le h
  rw [Nat.add_sub_cancel_left]
  refine ⟨rfl, Nat.le_add_right _ 1, Nat.le_add_right _ others, ?_, ?_⟩
  · show meter.statistics.late + 1 + (meter.statistics.discarded + others) = _
    omega
  · show meter.metrics.dropped + 1 + .ofNat others = _
    rw [UInt64.ofNat_add, UInt64.add_assoc]
    rfl

/-- A received packet is not yet a dropped one. -/
theorem received_counts (meter : Meter) (sequence : UInt16) (length : Nat) :
    let meter' := meter.received sequence length
    meter'.statistics.received = meter.statistics.received + 1 ∧
      meter'.statistics.late = meter.statistics.late ∧
      meter'.statistics.discarded = meter.statistics.discarded := by
  simp only [received, Statistics.recordReceived, Statistics.place]
  repeat' split
  all_goals exact ⟨rfl, rfl, rfl⟩

end Meter

namespace MediaSession

/-- The buffer, the statistics and the metrics count the same number of packets as dropped. -/
structure RaisesAlike (s : MediaSession) (m : Metrics) (s' : MediaSession) (m' : Metrics)
    (raise : Nat) : Prop where
  buffer : s'.jitter.dropped = s.jitter.dropped + raise
  statistics : s'.statistics.late + s'.statistics.discarded =
    s.statistics.late + s.statistics.discarded + raise
  metrics : m'.dropped = m.dropped + .ofNat raise

/-- The statistics count one more packet, and forget nothing that was dropped. -/
structure CountsOne (s s' : MediaSession) : Prop where
  received : s'.statistics.received = s.statistics.received + 1
  late_le : s.statistics.late ≤ s'.statistics.late
  discarded_le : s.statistics.discarded ≤ s'.statistics.discarded

theorem record_books (s : MediaSession) (m : Metrics) (now : Nat) (p : Packet) {drops : Nat}
    (h : s.jitter.TakesIn (s.jitter.writeMapped now p).1 (s.jitter.writeMapped now p).2 drops) :
    RaisesAlike s m (s.record m now p).1 (s.record m now p).2 drops ∧
      CountsOne s (s.record m now p).1 := by
  let meter := Meter.received ⟨s.statistics, m⟩ p.sequence p.payload.length
  obtain ⟨hreceived, hlate, hdiscarded⟩ :=
    Meter.received_counts ⟨s.statistics, m⟩ p.sequence p.payload.length
  have hraise : (s.jitter.writeMapped now p).2.dropped - s.jitter.dropped = drops := by
    rw [h.dropped, Nat.add_sub_cancel_left]
  have hdrops : meter.CountsDrops
      (if (s.jitter.writeMapped now p).1 = .late then meter.late.discarded (drops - 1)
        else meter.discarded drops) drops := by
    split
    · exact meter.countsDrops_late (h.late ‹_›)
    · exact meter.countsDrops_discarded drops
  simp only [record, hraise]
  refine ⟨⟨h.dropped, ?_, hdrops.metrics⟩, hdrops.received.trans hreceived, ?_, ?_⟩
  · exact hlate ▸ hdiscarded ▸ hdrops.statistics
  · exact hlate ▸ hdrops.late_le
  · exact hdiscarded ▸ hdrops.discarded_le

/-- Whether a packet of a source ends the stream of another one. -/
def changesSource (s : MediaSession) (ssrc : UInt32) : Bool :=
  s.streamSsrc.any (· != ssrc)

/-- The session as it takes a packet: the stream of another source is forgotten. -/
def expecting (s : MediaSession) (p : Packet) (source : SocketAddress) : MediaSession :=
  if s.mode.receives then (s.latch source).follow p.ssrc else s.latch source

theorem latch_keeps (s : MediaSession) (source : SocketAddress) :
    (s.latch source).mode = s.mode ∧ (s.latch source).streamSsrc = s.streamSsrc ∧
      (s.latch source).jitter = s.jitter ∧ (s.latch source).statistics = s.statistics := by
  unfold latch
  split <;> exact ⟨rfl, rfl, rfl, rfl⟩

/-- Another source resets the buffer and the statistics, both or neither. -/
theorem expecting_cases (s : MediaSession) (p : Packet) (source : SocketAddress) :
    if s.mode.receives && s.changesSource p.ssrc
    then (s.expecting p source).jitter = s.jitter.reset ∧ (s.expecting p source).statistics = {}
    else (s.expecting p source).jitter = s.jitter ∧
      (s.expecting p source).statistics = s.statistics := by
  obtain ⟨-, hsource, hjitter, hstatistics⟩ := s.latch_keeps source
  unfold expecting changesSource
  cases s.mode.receives with
  | false => exact ⟨hjitter, hstatistics⟩
  | true =>
    simp only [Bool.true_and, if_true, follow, hsource]
    cases s.streamSsrc with
    | none => exact ⟨hjitter, hstatistics⟩
    | some ssrc =>
      by_cases hssrc : ssrc = p.ssrc
      · simp [hssrc, hjitter, hstatistics]
      · simp [hssrc, hjitter]

theorem receivePacket_eq (s : MediaSession) (m : Metrics) (now : Nat) (p : Packet)
    (source : SocketAddress) :
    s.receivePacket m now p source =
      if s.mode.receives then (s.expecting p source).record m now p
      else (s.expecting p source, m) := by
  unfold receivePacket expecting
  simp only [(s.latch_keeps source).1]
  split <;> rfl

/-- A session that does not receive books nothing. -/
theorem receivePacket_books (s : MediaSession) (m : Metrics) (now : Nat) (p : Packet)
    (source : SocketAddress) :
    ∃ raise, RaisesAlike (s.expecting p source) m (s.receivePacket m now p source).1
        (s.receivePacket m now p source).2 raise ∧
      if s.mode.receives
      then ((s.expecting p source).jitter.writeMapped now p).1 = .late → 1 ≤ raise
      else raise = 0 := by
  rw [receivePacket_eq]
  cases s.mode.receives with
  | true =>
    obtain ⟨drops, htakes⟩ := (s.expecting p source).jitter.exists_takesIn now p
    exact ⟨drops, ((s.expecting p source).record_books m now p htakes).1, htakes.late⟩
  | false => exact ⟨0, ⟨rfl, rfl, (UInt64.add_zero _).symm⟩, rfl⟩

end MediaSession

/-! ## What is in the books -/

/-- The packets that wait, and the counts of those that were received and dropped. -/
structure SessionBooks where
  queue : List Queued
  dropped : Nat
  received : Nat
  late : Nat
  discarded : Nat

namespace MediaSession

variable (s : MediaSession)

/-- What is in the books of a session. -/
def books : SessionBooks where
  queue := s.jitter.queue
  dropped := s.jitter.dropped
  received := s.statistics.received
  late := s.statistics.late
  discarded := s.statistics.discarded

theorem books_openOn (host : Host) (ports : PortRange) :
    (s.openOn host ports).2.1.books = s.books := by
  unfold openOn
  repeat' split
  all_goals rfl

theorem books_configureRtcp (host : Host) (mux : Bool) :
    (s.configureRtcp host mux).2.books = s.books := by
  simp only [configureRtcp]
  repeat' split
  all_goals rfl

theorem books_enableDtls : s.enableDtls.2.books = s.books := by
  unfold enableDtls
  split <;> rfl

theorem books_negotiate (d : Sdp.Description) (m : Sdp.MediaSection) :
    (s.negotiate d m).2.books = s.books := by
  unfold negotiate
  split <;> rfl

theorem books_transmit (m : Metrics) (network : Network) (now : Nat) (p : Payload)
    (overflow : Overflow) : (s.transmit m network now p overflow).2.1.books = s.books := by
  unfold transmit
  repeat' split
  all_goals rfl

end MediaSession

/-! ## The onlooker -/

/-- What an onlooker has seen since a jitter buffer was last reset. -/
structure PacketTally where
  /-- The statistics at that time. -/
  start : Statistics := {}
  /-- The frames that were played since then. -/
  frames : Nat := 0
  /-- The packets of which there was one already. -/
  duplicates : Nat := 0
  /-- The packets whose payload number had no meaning. -/
  unknown : Nat := 0
deriving DecidableEq

namespace PacketTally

/-- After a packet of which the buffer said `outcome`. -/
def enter (t : PacketTally) (outcome : WriteOutcome) : PacketTally :=
  { t with
    duplicates := t.duplicates + (outcome == .duplicate).toNat
    unknown := t.unknown + (outcome == .unknownPayload).toNat }

/-- After a packet that has arrived. -/
def packet (t : PacketTally) (s : MediaSession) (now : Nat) (p : Packet) (source : SocketAddress) :
    PacketTally :=
  if s.mode.receives then
    let t := if s.changesSource p.ssrc then {} else t
    t.enter ((s.expecting p source).jitter.writeMapped now p).1
  else t

/-- After all that has arrived, up to where the socket for media broke. -/
def inbox (now : Nat) : List Arrival → MediaSession → Metrics → PacketTally → PacketTally
  | [], _, _, t => t
  | .rtp p source :: rest, s, m, t =>
    let (s', m) := s.receivePacket m now p source
    inbox now rest s' m (t.packet s now p source)
  | .rtcp _ _ :: rest, s, m, t => inbox now rest { s with rtcpReceived := s.rtcpReceived + 1 } m t
  | .rtpFailure _ :: _, _, _, t => t
  | .rtcpFailure _ :: rest, s, m, t =>
    inbox now rest { s with transport := s.transport.map fun t => { t with rtcp := none } } m t

/-- After a call of a session. -/
def after (t : PacketTally) (s : MediaSession) : SessionCall → PacketTally
  | .poll m now => inbox now ((s.transport.map Transport.inbox).getD []) s m t
  | .readFrame now => { t with frames := t.frames + (s.readFrame now).1.toList.length }
  | .drain now => { t with frames := t.frames + (s.drain now).1.length }
  | .updateMode mode => if s.mode.receives && !mode.receives then { start := s.statistics } else t
  | .close | .reset _ => {}
  | .openOn _ _ | .configureRtcp _ _ | .deliver _ | .enableIce _ | .enableDtls | .negotiate _ _
  | .transmit _ _ _ _ _ => t

/-- After the calls of a run. -/
def afterAll (t : PacketTally) (s : MediaSession) : List SessionCall → PacketTally
  | [] => t
  | c :: rest => (t.after s c).afterAll (s.perform c) rest

/-- The tally accounts for what the session has counted since the buffer was last reset. -/
structure Balances (t : PacketTally) (s : MediaSession) : Prop where
  received_le : t.start.received ≤ s.statistics.received
  late_le : t.start.late ≤ s.statistics.late
  discarded_le : t.start.discarded ≤ s.statistics.discarded
  /-- Every packet that was received was played, waits, or is counted for not being played. -/
  packets : s.statistics.received - t.start.received =
    t.frames + s.jitter.queue.length + (s.statistics.late - t.start.late) +
      (s.statistics.discarded - t.start.discarded) + t.duplicates + t.unknown
  /-- What the buffer counts as dropped was late or discarded. -/
  dropped : s.jitter.dropped =
    (s.statistics.late - t.start.late) + (s.statistics.discarded - t.start.discarded)

namespace Balances

variable {t : PacketTally} {s s' : MediaSession}

/-- An empty buffer that has dropped nothing is a beginning. -/
theorem since (s : MediaSession) (hqueue : s.jitter.queue = []) (hdropped : s.jitter.dropped = 0) :
    Balances { start := s.statistics } s where
  received_le := Nat.le_refl _
  late_le := Nat.le_refl _
  discarded_le := Nat.le_refl _
  packets := by simp [hqueue]
  dropped := by simp [hdropped]

/-- Nothing else in a session is in the books. -/
theorem of_books (h : Balances t s) (hbooks : s'.books = s.books) : Balances t s' := by
  obtain ⟨hqueue, hdropped, hreceived, hlate, hdiscarded⟩ := SessionBooks.mk.inj hbooks
  exact ⟨hreceived ▸ h.received_le, hlate ▸ h.late_le, hdiscarded ▸ h.discarded_le,
    hqueue ▸ hreceived ▸ hlate ▸ hdiscarded ▸ h.packets,
    hdropped ▸ hlate ▸ hdiscarded ▸ h.dropped⟩

/-- Reading moves packets from the queue to the frames. -/
theorem played (h : Balances t s) {b : JitterBuffer} {n : Nat}
    (hcounts : n + b.queue.length = s.jitter.queue.length ∧ b.dropped = s.jitter.dropped) :
    Balances { t with frames := t.frames + n } { s with jitter := b } where
  received_le := h.received_le
  late_le := h.late_le
  discarded_le := h.discarded_le
  packets := by
    refine h.packets.trans ?_
    rw [← hcounts.1, ← Nat.add_assoc t.frames]
  dropped := hcounts.2.trans h.dropped

theorem expecting (h : Balances t s) (p : Packet) (source : SocketAddress) :
    Balances (if s.mode.receives && s.changesSource p.ssrc then {} else t)
      (s.expecting p source) := by
  have hcases := s.expecting_cases p source
  split at hcases
  · obtain ⟨hjitter, hstatistics⟩ := hcases
    rw [if_pos ‹_›, ← hstatistics]
    exact since _ (by rw [hjitter]; rfl) (by rw [hjitter]; rfl)
  · rw [if_neg ‹_›]
    exact h.of_books (by unfold MediaSession.books; rw [hcases.1, hcases.2])

/-- The outcome says which of the packets that were received did not come to wait. -/
theorem record (h : Balances t s) (m : Metrics) (now : Nat) (p : Packet) :
    Balances (t.enter (s.jitter.writeMapped now p).1) (s.record m now p).1 := by
  obtain ⟨drops, htakes⟩ := s.jitter.exists_takesIn now p
  obtain ⟨hraises, hcounts⟩ := s.record_books m now p htakes
  obtain ⟨hreceived, hlate, hdiscarded, hpackets, hdropped⟩ := h
  have hlate' := Nat.le_trans hlate hcounts.late_le
  have hdiscarded' := Nat.le_trans hdiscarded hcounts.discarded_le
  have hraised := hraises.statistics
  refine ⟨?_, hlate', hdiscarded', ?_, ?_⟩
  · exact Nat.le_trans hreceived (hcounts.received ▸ Nat.le_succ _)
  · have hqueue : (s.record m now p).1.jitter.queue.length + drops + _ + _ = _ := htakes.packets
    rw [hcounts.received]
    simp only [enter]
    omega
  · rw [hraises.buffer]
    simp only [enter]
    omega

theorem receivePacket (h : Balances t s) (m : Metrics) (now : Nat) (p : Packet)
    (source : SocketAddress) :
    Balances (t.packet s now p source) (s.receivePacket m now p source).1 := by
  have hexpecting := h.expecting p source
  rw [MediaSession.receivePacket_eq]
  unfold packet
  cases hmode : s.mode.receives with
  | true =>
    rw [hmode, Bool.true_and] at hexpecting
    exact hexpecting.record m now p
  | false =>
    rw [hmode, Bool.false_and] at hexpecting
    exact hexpecting

/-- By induction on what arrived. -/
theorem processInbox (now : Nat) (arrivals : List Arrival) (h : Balances t s) (m : Metrics) :
    Balances (inbox now arrivals s m t) (MediaSession.processInbox now arrivals s m).2.1 := by
  induction arrivals generalizing s m t with
  | nil => exact h.of_books rfl
  | cons a rest ih =>
    cases a with
    | rtp p source =>
      rw [MediaSession.processInbox_rtp]
      exact ih (h.receivePacket m now p source) (s.receivePacket m now p source).2
    | rtcp _ _ =>
      have hcount : Balances t { s with rtcpReceived := s.rtcpReceived + 1 } := h.of_books rfl
      exact ih hcount m
    | rtpFailure _ => exact h.of_books rfl
    | rtcpFailure _ =>
      have hbroken : Balances t
          { s with transport := s.transport.map fun t => { t with rtcp := none } } :=
        h.of_books rfl
      exact ih hbroken m

theorem poll (h : Balances t s) (m : Metrics) (now : Nat) :
    Balances (t.after s (.poll m now)) (s.poll m now).2.1 := by
  rw [MediaSession.poll_session]
  exact h.processInbox now _ m

theorem readFrame (h : Balances t s) (now : Nat) :
    Balances (t.after s (.readFrame now)) (s.readFrame now).2 := by
  simp only [MediaSession.readFrame, after]
  split
  · exact h.played (s.jitter.read_counts now)
  · exact h

theorem drain (h : Balances t s) (now : Nat) :
    Balances (t.after s (.drain now)) (s.drain now).2 := by
  simp only [MediaSession.drain, after]
  split
  · exact h.played (s.jitter.readUpTo_counts _ now)
  · exact h

theorem updateMode (h : Balances t s) (mode : Mode) :
    Balances (t.after s (.updateMode mode)) (s.updateMode mode) := by
  show Balances (if s.mode.receives && !mode.receives then _ else t) _
  unfold MediaSession.updateMode
  split
  · exact since { s with mode, jitter := s.jitter.reset } rfl rfl
  · exact h.of_books rfl

theorem perform (h : Balances t s) (c : SessionCall) : Balances (t.after s c) (s.perform c) := by
  cases c with
  | openOn host ports => exact h.of_books (s.books_openOn host ports)
  | configureRtcp host mux => exact h.of_books (s.books_configureRtcp host mux)
  | deliver a => exact h.of_books rfl
  | enableIce fresh => exact h.of_books rfl
  | enableDtls => exact h.of_books s.books_enableDtls
  | negotiate d m => exact h.of_books (s.books_negotiate d m)
  | updateMode mode => exact h.updateMode mode
  | poll metrics now => exact h.poll metrics now
  | readFrame now => exact h.readFrame now
  | drain now => exact h.drain now
  | transmit metrics network now p overflow =>
    exact h.of_books (s.books_transmit metrics network now p overflow)
  | close => exact since s.close rfl rfl
  | reset numbering => exact since (s.reset numbering) rfl rfl

/-- By induction on the calls. -/
theorem afterAll (h : Balances t s) (calls : List SessionCall) :
    Balances (t.afterAll s calls) (s.run calls) := by
  induction calls generalizing s t with
  | nil => exact h
  | cons c rest ih => exact ih (h.perform c)

end Balances

end PacketTally

namespace MediaSession

/-- A packet raises the counts of dropped packets alike, from where they stand once a stream of
another source is forgotten: the buffer counts as many more as the statistics count as late or
discarded and as the metrics count. So there is never less to take away than the session takes away:
the count of the buffer does not fall, and one of what a late packet raises it by is the packet.

In any run, every packet that the session has counted since its buffer was last reset was played,
waits, was late, was discarded, had come before or had no meaning; and what the buffer counts as
dropped since then is what was late and what was discarded. -/
theorem books_agree (seat : Seat) (config : SessionConfig) (numbering : Numbering) :
    (∀ (s : MediaSession) (m : Metrics) (now : Nat) (p : Packet) (source : SocketAddress),
      let before := s.expecting p source
      let after := s.receivePacket m now p source
      (if s.mode.receives && s.changesSource p.ssrc
        then before.jitter = s.jitter.reset ∧ before.statistics = {}
        else before.jitter = s.jitter ∧ before.statistics = s.statistics) ∧
      ∃ raise, RaisesAlike before m after.1 after.2 raise ∧
        if s.mode.receives
        then (before.jitter.writeMapped now p).1 = .late → 1 ≤ raise
        else raise = 0) ∧
    ∀ calls : List SessionCall,
      let fresh := make seat config numbering
      PacketTally.Balances (PacketTally.afterAll {} fresh calls) (fresh.run calls) := by
  refine ⟨fun s m now p source => ?_, fun calls => ?_⟩
  · exact ⟨s.expecting_cases p source, s.receivePacket_books m now p source⟩
  · exact (PacketTally.Balances.since (make seat config numbering) rfl rfl).afterAll calls

/-- A session with room for two packets to which one comes twice, one without a meaning and one too
many, before a late packet makes it give up what waits. It stops listening for a while, and then
plays one of two packets that follow. -/
def troubledCalls : List SessionCall :=
  let offered : Sdp.MediaSection := { media := "audio", port := 4000, formats := ["0"] }
  let d : Sdp.Description :=
    { origin := .make "1" "127.0.0.1", sessionName := "-", connection := some (.make "127.0.0.1")
      media := [offered] }
  let packet (pt : UInt8) (n : UInt16) : SessionCall :=
    .deliver (.rtp (.make pt n 160 7 [1, 2] false) ⟨.loopback, 4000⟩)
  [.openOn ⟨.isolated, .loopback, []⟩ (.make 0 0), .negotiate d offered, .updateMode .recvOnly,
    packet 0 5, packet 0 5, packet 77 6, packet 0 7, packet 0 6, .poll {} 0, .readFrame 30,
    packet 0 4, .poll {} 31, .updateMode .sendOnly, .updateMode .sendRecv,
    packet 0 8, packet 0 8, packet 0 9, .poll {} 40, .readFrame 70]

theorem books_agree_of_troubled_session :
    let fresh := make ⟨1, .audio⟩ ⟨⟨20, 2⟩, Profile.audio, none⟩ default
    let s := fresh.run troubledCalls
    let t := PacketTally.afterAll {} fresh troubledCalls
    t.start.received = 6 ∧ t.start.late = 1 ∧ t.start.discarded = 2 ∧
    t.frames = 1 ∧ t.duplicates = 1 ∧ s.jitter.queue.length = 1 ∧
    s.statistics.received - 6 =
      1 + 1 + (s.statistics.late - 1) + (s.statistics.discarded - 2) + 1 + t.unknown ∧
    s.jitter.dropped = (s.statistics.late - 1) + (s.statistics.discarded - 2) := by
  intro fresh s t
  have hbalances : t.Balances s :=
    (books_agree ⟨1, .audio⟩ ⟨⟨20, 2⟩, Profile.audio, none⟩ default).2 troubledCalls
  have hseen : t.start.received = 6 ∧ t.start.late = 1 ∧ t.start.discarded = 2 ∧
      t.frames = 1 ∧ t.duplicates = 1 ∧ s.jitter.queue.length = 1 := by
    decide +kernel
  obtain ⟨hreceived, hlate, hdiscarded, hframes, hduplicates, hqueue⟩ := hseen
  have hpackets := hbalances.packets
  have hdropped := hbalances.dropped
  rw [hreceived, hframes, hqueue, hlate, hdiscarded, hduplicates] at hpackets
  rw [hlate, hdiscarded] at hdropped
  exact ⟨hreceived, hlate, hdiscarded, hframes, hduplicates, hqueue, hpackets, hdropped⟩

end MediaSession

end MediaGateway
