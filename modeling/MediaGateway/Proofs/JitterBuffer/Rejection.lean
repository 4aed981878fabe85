import MediaGateway.Proofs.JitterBuffer.Times
import Mathlib.Algebra.Order.BigOperators.Group.List
import Mathlib.Algebra.Order.Group.Nat

/-!
# Packets that are turned away

A packet that comes too late, or a second time, does not come to wait. Those that wait are played as
if it had not come: the same ones, in the same order and at the same time.

There is one thing that it can leave behind. A packet of media sets the rate of the clock before
anyone asks whether the packet is of any use, and when a packet is played, its timestamp is turned
into milliseconds by the clock as it is then. So nothing is changed by a packet whose format has the
rate of the clock, or does not set it; any other one changes the time of what waits, unless rounding
hides it.
-/

namespace MediaGateway

/-- The frame with the start that a clock gives it. -/
def Frame.timedBy (clock : MediaClock) (f : Frame) : Frame :=
  { f with timestampMs := clock.toMillis f.timestamp.toNat }

theorem Frame.timedBy_congr {c c' : MediaClock} (h : c'.rate = c.rate) :
    Frame.timedBy c' = Frame.timedBy c := by
  funext f
  simp only [timedBy, MediaClock.toMillis_congr h]

namespace JitterBuffer

variable {b b' : JitterBuffer} {now n : Nat} {p : Packet} {f : Format} {q : Queued} {fr : Frame}
  {clock : MediaClock}

/-! ## What playing depends on -/

/-- Two buffers play the same packets at the same time, each by its own clock. -/
structure PlaysLike (b b' : JitterBuffer) : Prop where
  config : b'.config = b.config
  queue : b'.queue = b.queue
  duration : b'.lastDurationMs = b.lastDurationMs

theorem PlaysLike.read (h : b.PlaysLike b') (now : Nat) :
    (b'.read now).1 = (b.read now).1.map (Frame.timedBy b'.clock) ∧
      (b.read now).2.PlaysLike (b'.read now).2 := by
  unfold JitterBuffer.read
  rw [h.queue, h.config, h.duration]
  split
  · exact ⟨rfl, h⟩
  · split
    · exact ⟨rfl, h⟩
    · exact ⟨rfl, rfl, rfl, rfl⟩

theorem readUpTo_of_none (h : (b.read now).1 = none) : (readUpTo (n + 1) b now).1 = [] := by
  simp only [readUpTo]
  split <;> simp_all

theorem readUpTo_of_some (h : (b.read now).1 = some fr) :
    (readUpTo (n + 1) b now).1 = fr :: (readUpTo n (b.read now).2 now).1 := by
  simp only [readUpTo]
  split <;> simp_all

theorem PlaysLike.readUpTo (n : Nat) (h : b.PlaysLike b') (now : Nat) :
    (readUpTo n b' now).1 = (readUpTo n b now).1.map (Frame.timedBy b'.clock) := by
  induction n generalizing b b' with
  | zero => rfl
  | succ n ih =>
    obtain ⟨hframe, hbuffer⟩ := h.read now
    cases hread : (b.read now).1 with
    | none =>
      rw [hread] at hframe
      rw [readUpTo_of_none hread, readUpTo_of_none hframe]
      rfl
    | some fr =>
      rw [hread] at hframe
      have hrest := ih hbuffer
      rw [clock_read] at hrest
      rw [readUpTo_of_some hread, readUpTo_of_some hframe, hrest]
      rfl

theorem PlaysLike.drain (h : b.PlaysLike b') (now : Nat) :
    (b'.drain now).1 = (b.drain now).1.map (Frame.timedBy b'.clock) := by
  unfold JitterBuffer.drain
  rw [h.queue]
  exact h.readUpTo b.queue.length now

/-- The frames that are played are timed by the clock of the buffer, and are of packets that wait. -/
theorem timed_of_mem_readUpTo (h : fr ∈ (readUpTo n b now).1) :
    fr.timedBy b.clock = fr ∧ ∃ q ∈ b.queue, fr.timestamp = q.packet.timestamp := by
  induction n generalizing b with
  | zero => cases h
  | succ n ih =>
    obtain ⟨hnone, -⟩ | ⟨q, rest, first, hsome, hplays⟩ := b.read_playsFirst now
    · rw [readUpTo_of_none hnone] at h
      cases h
    · rw [readUpTo_of_some hsome] at h
      rw [hplays.waited]
      obtain rfl | hlater := List.mem_cons.1 h
      · rw [hplays.frame]
        exact ⟨rfl, q, List.mem_cons_self, rfl⟩
      · obtain ⟨htimed, q', hq', hstamp⟩ := ih hlater
        rw [hplays.clock] at htimed
        rw [hplays.queue] at hq'
        exact ⟨htimed, q', List.mem_cons_of_mem q hq', hstamp⟩

/-- Every packet that waits is played when all have been held long enough. -/
theorem exists_mem_readUpTo (hn : b.queue.length ≤ n)
    (hdue : ∀ q ∈ b.queue, q.arrival + b.config.tolerance ≤ now) (hq : q ∈ b.queue) :
    ∃ fr ∈ (readUpTo n b now).1, fr.timestamp = q.packet.timestamp := by
  induction n generalizing b with
  | zero => simp [List.eq_nil_of_length_eq_zero (Nat.le_zero.1 hn)] at hq
  | succ n ih =>
    obtain ⟨hnone, -⟩ | ⟨first, rest, fr, hsome, hplays⟩ := b.read_playsFirst now
    · -- The first packet that waits has been held long enough, so that it is played.
      cases hqueue : b.queue with
      | nil => rw [hqueue] at hq; cases hq
      | cons first rest =>
        have hfirst := hdue first (hqueue ▸ List.mem_cons_self)
        simp [JitterBuffer.read, hqueue, Nat.not_lt.2 hfirst] at hnone
    · rw [readUpTo_of_some hsome]
      rw [hplays.waited] at hn hq hdue
      obtain rfl | hrest := List.mem_cons.1 hq
      · exact ⟨fr, List.mem_cons_self, by rw [hplays.frame]; rfl⟩
      · have hconfig : (b.read now).2.config = b.config := congrArg Prod.fst hplays.settings
        have hlater : ∃ fr ∈ (readUpTo n (b.read now).2 now).1,
            fr.timestamp = q.packet.timestamp := by
          refine ih ?_ ?_ ?_
          · rw [hplays.queue]
            exact Nat.le_of_succ_le_succ hn
          · rw [hplays.queue, hconfig]
            exact fun q hq => hdue q (List.mem_cons_of_mem first hq)
          · rwa [hplays.queue]
        obtain ⟨fr', hfr, hstamp⟩ := hlater
        exact ⟨fr', List.mem_cons_of_mem fr hfr, hstamp⟩

/-- A buffer that plays the same packets by another clock plays the same frames at any time, if and
only if that clock gives the packets that wait the same start. -/
theorem PlaysLike.drain_eq_iff (h : b.PlaysLike b') :
    (∀ later, (b'.drain later).1 = (b.drain later).1) ↔
      ∀ q ∈ b.queue, b'.clock.toMillis q.packet.timestamp.toNat =
        b.clock.toMillis q.packet.timestamp.toNat := by
  constructor
  · intro hsame q hq
    -- By the last time at which one of them is due, all of them are played.
    obtain ⟨later, hlater⟩ : ∃ later, ∀ q ∈ b.queue, q.arrival + b.config.tolerance ≤ later :=
      ⟨(b.queue.map fun q => q.arrival + b.config.tolerance).sum,
        fun q hq => List.le_sum_of_mem (List.mem_map_of_mem hq)⟩
    obtain ⟨fr, hfr, hstamp⟩ := exists_mem_readUpTo (Nat.le_refl _) hlater hq
    have hretimed := h.drain later
    rw [hsame later] at hretimed
    have htimed : fr = fr.timedBy b'.clock :=
      List.map_inj_left.1 ((List.map_id _).trans hretimed) fr hfr
    rw [← hstamp]
    exact congrArg Frame.timestampMs (htimed.symm.trans (timed_of_mem_readUpTo hfr).1.symm)
  · intro hstarts later
    rw [h.drain later]
    refine (List.map_inj_left.2 fun fr hfr => ?_).trans (List.map_id _)
    obtain ⟨htimed, q, hq, hstamp⟩ := timed_of_mem_readUpTo hfr
    have hstart := hstarts q hq
    rw [← hstamp] at hstart
    calc
      fr.timedBy b'.clock = fr.timedBy b.clock := by simp only [Frame.timedBy, hstart]
      _ = fr := htimed

/-! ## Being turned away -/

/-- A packet does not come to wait, and the stream does not start anew because of it: one with its
number waits already, or it is late as one of few. -/
def TurnsAway (b : JitterBuffer) (now : Nat) (p : Packet) (f : Format) : Prop :=
  (b.write now p f).1 = .duplicate ∨
    ((b.write now p f).1 = .late ∧ b.lateRun + 1 < b.resyncAfter)

theorem duration_write (b : JitterBuffer) (now : Nat) (p : Packet) (f : Format) :
    (b.write now p f).2.lastDurationMs = b.lastDurationMs := by
  have hadopt : (b.adoptRate f).lastDurationMs = b.lastDurationMs := by
    unfold adoptRate
    split <;> rfl
  rw [← hadopt]
  simp only [write, dropLate, enqueue, makeRoom]
  repeat' split
  all_goals rfl

theorem enqueue_duplicate (h : (b.enqueue q).1 = .duplicate) : (b.enqueue q).2 = b := by
  unfold enqueue makeRoom at h ⊢
  split
  · rfl
  · rename_i hnew
    rw [if_neg hnew] at h
    repeat' split at h
    all_goals cases h

theorem write_duplicate (h : (b.write now p f).1 = .duplicate) :
    (b.write now p f).2.queue = b.queue ∧
      (b.write now p f).2.lastDelivered = b.lastDelivered ∧
      (b.write now p f).2.dropped = b.dropped := by
  have hseen : ((b.adoptRate f).observe now p.timestamp).lastDelivered = b.lastDelivered := by
    unfold adoptRate
    split <;> rfl
  obtain ⟨-, hqueue, hdropped⟩ := b.observe_keeps now p.timestamp f
  rw [← hqueue, ← hdropped, ← hseen]
  simp only [write] at h ⊢
  split at h
  · cases h
  · rename_i hlate
    rw [if_neg hlate, enqueue_duplicate h]
    exact ⟨rfl, rfl, rfl⟩

/-- What a packet leaves behind that is turned away: it is counted if it was late. -/
theorem TurnsAway.keeps (h : b.TurnsAway now p f) :
    (b.write now p f).2.queue = b.queue ∧
      (b.write now p f).2.lastDelivered = b.lastDelivered ∧
      (b.write now p f).2.dropped =
        b.dropped + if (b.write now p f).1 = .late then 1 else 0 := by
  obtain hduplicate | ⟨hlate, hfew⟩ := h
  · rw [hduplicate]
    exact write_duplicate hduplicate
  · have hwritten := b.write_written now p f
    rw [hlate] at hwritten ⊢
    cases hwritten with
    | late playing few queue last run dropped => exact ⟨queue, last, dropped⟩
    | restart playing enough queue last run dropped => omega
    | timely inTime known run => exact absurd rfl inTime

/-- A packet that is turned away touches neither what waits nor where playing has come to, and it is
counted as dropped once if it was late, and not if it was a duplicate. At any later time the packets
that are played are the same with it as without it, and so is all there is to their frames but the
start, which is taken at the rate that the packet has set. So nothing at all has changed if and only
if that rate gives every packet that waits the start that it had; and this is so if the packet has
not set the rate, because it is a telephone event or has no rate of its own, or has set it to what it
was. -/
theorem turned_away_unplayed (b : JitterBuffer) (now : Nat) (p : Packet) (f : Format)
    (h : b.TurnsAway now p f) :
    let b' := (b.write now p f).2
    (b'.queue = b.queue ∧ b'.lastDelivered = b.lastDelivered ∧
      b'.dropped = b.dropped + if (b.write now p f).1 = .late then 1 else 0) ∧
    (∀ later, (b'.drain later).1 =
      (b.drain later).1.map (Frame.timedBy (b.adoptRate f).clock)) ∧
    ((∀ later, (b'.drain later).1 = (b.drain later).1) ↔
      ∀ q ∈ b.queue, (b.adoptRate f).clock.toMillis q.packet.timestamp.toNat =
        b.clock.toMillis q.packet.timestamp.toNat) ∧
    (f.isTelephoneEvent = true ∨ f.clockRate.toNat = 0 ∨ f.clockRate = b.clock.rate →
      ∀ later, (b'.drain later).1 = (b.drain later).1) := by
  intro b'
  have hlike : b.PlaysLike b' :=
    ⟨congrArg Prod.fst (b.settings_write now p f), h.keeps.1, b.duration_write now p f⟩
  have hrate : b'.clock.rate = (b.adoptRate f).clock.rate := b.rate_write now p f
  have hiff := hlike.drain_eq_iff
  simp only [MediaClock.toMillis_congr hrate] at hiff
  refine ⟨h.keeps, fun later => ?_, hiff, fun hkept => hiff.2 fun q _ => ?_⟩
  · rw [hlike.drain later, Frame.timedBy_congr hrate]
  · refine MediaClock.toMillis_congr ?_ _
    rw [rate_adoptRate]
    split
    · rename_i hsets
      obtain hevent | hzero | hsame := hkept
      · simp [hsets.1] at hevent
      · exact absurd hsets.2 (by omega)
      · exact hsame
    · rfl

/-- A buffer that has played the first of two packets of narrow-band audio. -/
def narrowband : JitterBuffer :=
  let pcmu : Format := .make 0 "PCMU" 8000
  (make ⟨60, 10⟩ (.make 8000)).meetAll
    [.call (.write 0 (.make 0 1 160 7 [1] false) pcmu),
      .call (.write 20 (.make 0 2 320 7 [2] false) pcmu), .call (.read 60)]

/-- It turns away a second copy of the packet that waits, and plays the one that waits as it would
have done. -/
theorem turned_away_unplayed_narrowband :
    let pcmu : Format := .make 0 "PCMU" 8000
    let copy : Packet := .make 0 2 320 7 [2] false
    narrowband.TurnsAway 65 copy pcmu ∧
    (narrowband.write 65 copy pcmu).2.dropped = 0 ∧
    ((narrowband.write 65 copy pcmu).2.drain 80).1.map (·.timestampMs) = [40] ∧
    ∀ later, ((narrowband.write 65 copy pcmu).2.drain later).1 = (narrowband.drain later).1 := by
  intro pcmu copy
  have haway : narrowband.TurnsAway 65 copy pcmu := .inl (by decide +kernel)
  obtain ⟨-, -, -, hsame⟩ := turned_away_unplayed narrowband 65 copy pcmu haway
  exact ⟨haway, by decide +kernel, by decide +kernel, hsame (.inr (.inr (by decide +kernel)))⟩

/-- A late packet of another rate is dropped, and halves the start of the one that waits. -/
theorem turned_away_retimes :
    let wideband : Format := .make 96 "L16" 16000
    let late : Packet := .make 96 1 160 7 [1] false
    narrowband.TurnsAway 65 late wideband ∧
    (narrowband.drain 80).1.map (fun fr => (fr.sequence, fr.timestampMs)) = [(2, 40)] ∧
    ((narrowband.write 65 late wideband).2.drain 80).1.map
      (fun fr => (fr.sequence, fr.timestampMs)) = [(2, 20)] :=
  ⟨.inr (by decide +kernel), by decide +kernel, by decide +kernel⟩

end JitterBuffer

end MediaGateway
