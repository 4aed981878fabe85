import MediaGateway.Proofs.Clock
import MediaGateway.Proofs.JitterBuffer.Restart
import Mathlib.Algebra.Group.Nat.Defs
import Mathlib.Data.List.Chain
import Mathlib.Data.List.Nodup

/-!
# The times of frames

When a packet is played, the frame gets two times. Its start is the timestamp of the packet in
milliseconds, at the rate that the clock has then. Its duration is the way to the timestamp of the
packet that waits next, at the rate of the packet's own format.

The way from one timestamp to the next is taken round the circle of all words, the start is not. So
for a stream of one format the starts follow the timestamps up, every frame ends where the next one
starts, to a millisecond, and where the timestamps pass zero the starts fall back by the whole
circle.
-/

namespace MediaGateway

/-! ## Milliseconds -/

namespace MediaClock

variable {c c' : MediaClock}

theorem toMillis_congr (h : c'.rate = c.rate) (units : Nat) : c'.toMillis units = c.toMillis units := by
  simp only [toMillis, h]

theorem toMillis_mono (c : MediaClock) {m n : Nat} (h : m ≤ n) (hn : n * 1000 < 2 ^ 64) :
    c.toMillis m ≤ c.toMillis n := by
  have hproducts : m * 1000 ≤ n * 1000 := Nat.mul_le_mul_right 1000 h
  rw [c.toMillis_of_fits (Nat.lt_of_le_of_lt hproducts hn), c.toMillis_of_fits hn]
  exact Nat.div_le_div_right hproducts

/-- Rounding two parts loses at most a millisecond of the whole. -/
theorem toMillis_add (c : MediaClock) {m n : Nat} (h : (m + n) * 1000 < 2 ^ 64) :
    c.toMillis m + c.toMillis n ≤ c.toMillis (m + n) ∧
      c.toMillis (m + n) ≤ c.toMillis m + c.toMillis n + 1 := by
  have hm : m * 1000 ≤ (m + n) * 1000 := Nat.mul_le_mul_right 1000 (Nat.le_add_right m n)
  have hn : n * 1000 ≤ (m + n) * 1000 := Nat.mul_le_mul_right 1000 (Nat.le_add_left n m)
  rw [c.toMillis_of_fits h, c.toMillis_of_fits (Nat.lt_of_le_of_lt hm h),
    c.toMillis_of_fits (Nat.lt_of_le_of_lt hn h), Nat.add_mul, Nat.add_div c.rate_pos]
  split <;> omega

/-- Half of all timestamps are some milliseconds at any rate. -/
theorem toMillis_half_pos (c : MediaClock) : 0 < c.toMillis (2 ^ 31) := by
  have hrate := c.rate.toNat_lt
  rw [c.toMillis_of_fits (by omega)]
  exact Nat.div_pos (by omega) c.rate_pos

/-- How far the milliseconds fall back on the way up from one timestamp to another one: not at all, or
by the whole circle where the timestamps pass zero. -/
def fallBack (c : MediaClock) (a b : UInt32) : Nat :=
  if a ≤ b then 0 else c.toMillis (2 ^ 32)

/-- The way up to a timestamp ends at it, or one circle further. -/
theorem toNat_add_way (a b : UInt32) :
    a.toNat + (b - a).toNat = b.toNat + if a ≤ b then 0 else 2 ^ 32 := by
  have ha := a.toNat_lt
  have hb := b.toNat_lt
  rw [UInt32.toNat_sub]
  split <;> rename_i h <;> rw [UInt32.le_iff_toNat_le] at h <;> omega

/-- The milliseconds up to a timestamp and on the way from it lead to those of the next, or as far
beyond as they fall back. -/
theorem toMillis_add_way (c : MediaClock) (a b : UInt32) :
    let along := c.toMillis a.toNat + c.toMillis (b - a).toNat
    let ahead := c.toMillis b.toNat + c.fallBack a b
    along ≤ ahead + 1 ∧ ahead ≤ along + 1 := by
  intro along ahead
  have ha := a.toNat_lt
  have hb := b.toNat_lt
  have hway := (b - a).toNat_lt
  obtain ⟨hfrom, hto⟩ := c.toMillis_add (show (a.toNat + (b - a).toNat) * 1000 < 2 ^ 64 by omega)
  rw [toNat_add_way] at hfrom hto
  simp only [along, ahead, fallBack]
  split <;> rename_i h
  · simp only [if_pos h, Nat.add_zero] at hfrom hto
    omega
  · simp only [if_neg h] at hfrom hto
    obtain ⟨hwhole, hround⟩ := c.toMillis_add (show (b.toNat + 2 ^ 32) * 1000 < 2 ^ 64 by omega)
    omega

/-- On a way of less than half the circle the milliseconds rise exactly if the timestamp does. -/
theorem toMillis_le_iff (c : MediaClock) {a b : UInt32} (h : (b - a).toNat < 2 ^ 31) :
    c.toMillis a.toNat ≤ c.toMillis b.toNat ↔ a ≤ b := by
  have ha := a.toNat_lt
  have hb := b.toNat_lt
  constructor
  · intro hle
    by_contra hnot
    have hway := toNat_add_way a b
    rw [if_neg hnot] at hway
    have hdown : c.toMillis (b.toNat + 2 ^ 31) ≤ c.toMillis a.toNat :=
      c.toMillis_mono (by omega) (by omega)
    have hpart := (c.toMillis_add (show (b.toNat + 2 ^ 31) * 1000 < 2 ^ 64 by omega)).1
    have hpos := c.toMillis_half_pos
    omega
  · exact fun hle => c.toMillis_mono (UInt32.le_iff_toNat_le.1 hle) (by omega)

theorem rate_setRate (c : MediaClock) (rate : UInt32) :
    (c.setRate rate).rate = if 0 < rate.toNat then rate else c.rate := by
  unfold setRate
  split <;> rfl

end MediaClock

namespace JitterBuffer

/-! ## The rate of the clock -/

theorem rate_observe (b : JitterBuffer) (now : Nat) (timestamp : UInt32) :
    (b.observe now timestamp).clock.rate = b.clock.rate := by
  unfold observe
  cases b.clock.synchronized <;> rfl

theorem rate_dropLate (b : JitterBuffer) : b.dropLate.clock.rate = b.clock.rate := by
  unfold dropLate
  simp only
  split <;> rfl

theorem clock_enqueue (b : JitterBuffer) (q : Queued) : (b.enqueue q).2.clock = b.clock := by
  unfold enqueue makeRoom
  repeat' split
  all_goals rfl

/-- Whatever becomes of a packet, all that the rate depends on is its format. -/
theorem rate_write (b : JitterBuffer) (now : Nat) (p : Packet) (f : Format) :
    (b.write now p f).2.clock.rate = (b.adoptRate f).clock.rate := by
  simp only [write]
  split
  · rw [rate_dropLate, rate_observe]
  · rw [clock_enqueue]
    exact rate_observe _ now p.timestamp

/-- Only a packet of media with a rate sets the rate. -/
theorem rate_adoptRate (b : JitterBuffer) (f : Format) :
    (b.adoptRate f).clock.rate =
      if f.isTelephoneEvent = false ∧ 0 < f.clockRate.toNat then f.clockRate else b.clock.rate := by
  unfold adoptRate
  cases f.isTelephoneEvent with
  | true => rfl
  | false => simpa using b.clock.rate_setRate f.clockRate

/-! ## Playing -/

theorem clock_read (b : JitterBuffer) (now : Nat) : (b.read now).2.clock = b.clock := by
  unfold read
  repeat' split
  all_goals rfl

theorem clock_readUpTo (n : Nat) (b : JitterBuffer) (now : Nat) :
    (readUpTo n b now).2.clock = b.clock := by
  induction n generalizing b with
  | zero => rfl
  | succ n ih =>
    have hread := b.clock_read now
    simp only [readUpTo]
    split <;> rename_i hb <;> rw [hb] at hread
    · exact (ih _).trans hread
    · exact hread

/-- What playing the first packet of the queue does. -/
structure PlaysFirst (b : JitterBuffer) (q : Queued) (rest : List Queued) (fr : Frame)
    (b' : JitterBuffer) : Prop where
  waited : b.queue = q :: rest
  frame : fr = frame b.clock q b'.lastDurationMs
  duration : ∀ next ∈ rest.head?, b'.lastDurationMs = duration q next
  queue : b'.queue = rest
  clock : b'.clock = b.clock
  settings : b'.settings = b.settings

/-- Reading plays nothing, or the first packet of the queue. -/
theorem read_playsFirst (b : JitterBuffer) (now : Nat) :
    ((b.read now).1 = none ∧ (b.read now).2 = b) ∨
      ∃ q rest fr, (b.read now).1 = some fr ∧ b.PlaysFirst q rest fr (b.read now).2 := by
  unfold read
  split
  · exact .inl ⟨rfl, rfl⟩
  · rename_i q rest hqueue
    split
    · exact .inl ⟨rfl, rfl⟩
    · refine .inr ⟨q, rest, _, rfl, hqueue, rfl, fun next hnext => ?_, rfl, rfl, rfl⟩
      cases rest with
      | nil => cases hnext
      | cons first more => cases hnext; rfl

end JitterBuffer

/-- A frame that was played, and what waited then. -/
structure Play where
  frame : Frame
  waiting : List Queued

namespace Play

/-- A frame is timed by a clock, and lasts until the timestamp of what waits next. -/
structure Timed (f : Format) (clock : MediaClock) (x : Play) : Prop where
  start : x.frame.timestampMs = clock.toMillis x.frame.timestamp.toNat
  lasts : ∀ next ∈ x.waiting.head?, x.frame.durationMs =
    (next.packet.timestamp - x.frame.timestamp).toNat * 1000 / max f.clockRate.toNat 1

/-- If one frame waits when another one is played, it waits next. -/
def Announces (x y : Play) : Prop :=
  ∀ q ∈ x.waiting, y.frame.IsOf q → x.waiting.head? = some q

variable {f : Format} {clock : MediaClock} {x y : Play}

/-- A frame at whose rate the clock runs ends where the next one starts, or where that one would
start if it had not fallen back. -/
theorem Timed.meets (hx : x.Timed f clock) (hy : y.Timed f clock) (hxy : x.Announces y)
    (hrate : clock.rate = f.clockRate) (hwaits : ∃ q ∈ x.waiting, y.frame.IsOf q) :
    let ends := x.frame.timestampMs + x.frame.durationMs
    let starts := y.frame.timestampMs + clock.fallBack x.frame.timestamp y.frame.timestamp
    ends ≤ starts + 1 ∧ starts ≤ ends + 1 := by
  obtain ⟨q, hq, hof⟩ := hwaits
  have hpos : max f.clockRate.toNat 1 = clock.rate.toNat := by
    rw [← hrate]
    exact Nat.max_eq_left clock.rate_pos
  have hlasts : x.frame.durationMs =
      clock.toMillis (y.frame.timestamp - x.frame.timestamp).toNat := by
    have hway := (y.frame.timestamp - x.frame.timestamp).toNat_lt
    rw [hx.lasts q (hxy q hq hof), hpos, ← hof.timestamp]
    exact (clock.toMillis_of_fits (by omega)).symm
  rw [hx.start, hy.start, hlasts]
  exact clock.toMillis_add_way x.frame.timestamp y.frame.timestamp

end Play

namespace JitterBuffer

/-- What a call plays. -/
def play? (b : JitterBuffer) (c : BufferCall Packet) : Option Play :=
  match b.step c with
  | (.played (some fr), b') => some ⟨fr, b'.queue⟩
  | _ => none

/-- What the calls of a run play. -/
def plays (b : JitterBuffer) : List (BufferCall Packet) → List Play
  | [] => []
  | c :: rest => (b.play? c).toList ++ (b.step c).2.plays rest

/-! ## A stream of one format -/

/-- Whether a call reads, or writes a packet of a format. -/
def carries (b : JitterBuffer) (f : Format) : BufferCall Packet → Bool
  | .read _ => true
  | .reset => false
  | c => (b.entry? c).any (·.format == f)

/-- Packets of one format come to an empty buffer, and none of them is lost. -/
structure Streams (b : JitterBuffer) (f : Format) (calls : List (BufferCall Packet)) : Prop where
  idle : b.queue = []
  carries : ∀ c ∈ calls, b.carries f c = true
  accepted : ∀ r ∈ b.trace calls, ∀ outcome ∈ r.1.outcome?, outcome = .accepted

/-- The packets of a buffer are of one format, and a clock has the rate at which they are played. -/
structure Carrying (b : JitterBuffer) (f : Format) (formats : FormatTable) (clock : MediaClock) :
    Prop where
  formats : b.formats = formats
  format : ∀ q ∈ b.queue, q.format = f
  nodup : (b.queue.map (·.packet.sequence)).Nodup
  adopts : (b.adoptRate f).clock.rate = clock.rate
  rate : b.queue ≠ [] → b.clock.rate = clock.rate

variable {b b' : JitterBuffer} {now : Nat} {p : Packet} {f : Format} {q : Queued}
  {formats : FormatTable} {clock : MediaClock} {c : BufferCall Packet}
  {calls : List (BufferCall Packet)}

/-- A packet that is inserted leaves the others in their order. -/
theorem sublist_insertInto (q : Queued) (queue : List Queued) :
    queue.Sublist (insertInto q queue) := by
  induction queue with
  | nil => exact List.nil_sublist _
  | cons head rest ih =>
    unfold insertInto
    split
    · exact List.sublist_cons_self q _
    · exact ih.cons_cons head

theorem makeRoom_accepted (h : b.makeRoom.1 = .accepted) : b.makeRoom.2 = b := by
  unfold makeRoom at h ⊢
  split
  · rename_i hfull
    rw [if_pos hfull] at h
    split <;> simp_all
  · rfl

theorem enqueue_accepted (h : (b.enqueue q).1 = .accepted) :
    (b.enqueue q).2.queue = insertInto q b.queue ∧
      ∀ other ∈ b.queue, other.packet.sequence ≠ q.packet.sequence := by
  unfold enqueue at h ⊢
  split at h
  · cases h
  · rename_i hnew
    rw [if_neg hnew, makeRoom_accepted h]
    exact ⟨rfl, by simpa using hnew⟩

/-- A packet that comes to wait is put among the others, and none of them has its number. -/
theorem write_accepted (h : (b.write now p f).1 = .accepted) :
    (b.write now p f).2.queue = insertInto ⟨p, now, f⟩ b.queue ∧
      ∀ other ∈ b.queue, other.packet.sequence ≠ p.sequence := by
  obtain ⟨-, hqueue, -⟩ := b.observe_keeps now p.timestamp f
  rw [← hqueue]
  simp only [write] at h ⊢
  split at h
  · cases h
  · rename_i hlate
    rw [if_neg hlate]
    exact enqueue_accepted h

theorem carries_cases (h : b.carries f c = true) :
    (∃ now, c = .read now) ∨ ∃ now p, b.step c = b.step (.write now p f) := by
  cases c with
  | read now => exact .inl ⟨now, rfl⟩
  | reset => cases h
  | write now p g =>
    obtain rfl : g = f := by simpa [carries, entry?] using h
    exact .inr ⟨now, p, rfl⟩
  | writeMapped now p =>
    have hf : b.formats.find? p.payloadType = some f := by
      cases hg : b.formats.find? p.payloadType <;> simp_all [carries, entry?]
    exact .inr ⟨now, p, step_writeMapped hf⟩

theorem carries_congr (h : b'.formats = b.formats) (f : Format) (c : BufferCall Packet) :
    b'.carries f c = b.carries f c := by
  cases c <;> simp only [carries, entry?, h]

namespace Carrying

theorem write (h : b.Carrying f formats clock) (hacc : (b.write now p f).1 = .accepted) :
    (b.write now p f).2.Carrying f formats clock := by
  obtain ⟨hqueue, hnew⟩ := write_accepted hacc
  have hperm := insertInto_perm ⟨p, now, f⟩ b.queue
  have hrate : (b.write now p f).2.clock.rate = clock.rate := (rate_write b now p f).trans h.adopts
  refine ⟨?_, fun q hq => ?_, ?_, ?_, fun _ => hrate⟩
  · exact (congrArg Prod.snd (settings_write b now p f)).trans h.formats
  · rw [hqueue] at hq
    obtain rfl | hold := List.mem_cons.1 (hperm.mem_iff.1 hq)
    · rfl
    · exact h.format q hold
  · rw [hqueue, (hperm.map _).nodup_iff]
    refine List.nodup_cons.2 ⟨fun hmem => ?_, h.nodup⟩
    obtain ⟨other, hother, heq⟩ := List.mem_map.1 hmem
    exact hnew other hother heq
  · -- The packet has set the rate, if packets of the format do.
    have hadopts := h.adopts
    rw [rate_adoptRate] at hadopts ⊢
    split
    · rwa [if_pos ‹_›] at hadopts
    · exact hrate

/-- Playing the first packet leaves the others. -/
theorem playsFirst {rest : List Queued} {fr : Frame} (h : b.Carrying f formats clock)
    (hplays : b.PlaysFirst q rest fr b') : b'.Carrying f formats clock := by
  have hadopts := h.adopts
  have hnodup := h.nodup
  have hformat := h.format
  rw [hplays.waited] at hnodup hformat
  refine ⟨(congrArg Prod.snd hplays.settings).trans h.formats, ?_, ?_, ?_, fun _ => ?_⟩
  · rw [hplays.queue]
    exact fun q hq => hformat q (List.mem_cons_of_mem _ hq)
  · rw [hplays.queue]
    exact (List.nodup_cons.1 hnodup).2
  · rwa [rate_adoptRate, hplays.clock, ← rate_adoptRate]
  · rw [hplays.clock]
    exact h.rate (hplays.waited ▸ List.cons_ne_nil q rest)

/-- The first packet is played at the rate of the clock, until the timestamp of the next. -/
theorem timed {rest : List Queued} {fr : Frame} (h : b.Carrying f formats clock)
    (hplays : b.PlaysFirst q rest fr b') : (Play.mk fr b'.queue).Timed f clock := by
  have hq : q.format = f := h.format q (hplays.waited ▸ List.mem_cons_self)
  have hrate := h.rate (hplays.waited ▸ List.cons_ne_nil q rest)
  refine ⟨?_, fun next hnext => ?_⟩
  · rw [hplays.frame]
    exact MediaClock.toMillis_congr hrate _
  · rw [hplays.queue] at hnext
    rw [← hq, hplays.frame]
    exact hplays.duration next hnext

/-- What waited when a frame was played waits still, until it is played itself. -/
theorem announces {rest : List Queued} {fr : Frame} {x : Play} (h : b.Carrying f formats clock)
    (hplays : b.PlaysFirst q rest fr b') (hx : x.waiting.Sublist b.queue) :
    x.Announces ⟨fr, b'.queue⟩ := by
  obtain ⟨_, waiting⟩ := x
  intro next hnext hof
  have hx : waiting.Sublist b.queue := hx
  have hnodup := h.nodup
  rw [hplays.waited] at hx hnodup
  have hsame : next.packet.sequence = q.packet.sequence :=
    hof.sequence.symm.trans (congrArg Frame.sequence hplays.frame)
  obtain rfl : next = q :=
    List.inj_on_of_nodup_map hnodup (hx.subset hnext) List.mem_cons_self hsame
  -- It is the first of the queue, and so the first of those that waited already.
  cases hx with
  | cons _ hrest =>
    exact absurd (List.mem_map_of_mem (hrest.subset hnext)) (List.nodup_cons.1 hnodup).1
  | cons_cons _ hrest => rfl

end Carrying

/-- By induction on the calls. -/
theorem Carrying.plays (h : b.Carrying f formats clock) (hcalls : ∀ c ∈ calls, b.carries f c = true)
    (hacc : ∀ r ∈ b.trace calls, ∀ outcome ∈ r.1.outcome?, outcome = .accepted) :
    (∀ x ∈ b.plays calls, x.Timed f clock) ∧ (b.plays calls).IsChain Play.Announces ∧
      ∀ x : Play, x.waiting.Sublist b.queue → ∀ y ∈ (b.plays calls).head?, x.Announces y := by
  induction calls generalizing b with
  | nil => exact ⟨nofun, .nil, nofun⟩
  | cons c rest ih =>
    have hfirst := hacc (b.step c) List.mem_cons_self
    have hrest := fun r hr => hacc r (List.mem_cons_of_mem _ hr)
    have hformats : (b.step c).2.formats = b.formats := congrArg Prod.snd (b.settings_step c)
    have hlater : ∀ d ∈ rest, (b.step c).2.carries f d = true := fun d hd =>
      (carries_congr hformats f d).trans (hcalls d (List.mem_cons_of_mem c hd))
    simp only [JitterBuffer.plays]
    obtain ⟨now, rfl⟩ | ⟨now, p, hstep⟩ := carries_cases (hcalls c List.mem_cons_self)
    · obtain ⟨hnone, hsame⟩ | ⟨q, others, fr, hsome, hplays⟩ := b.read_playsFirst now
      · have hplay : b.play? (.read now) = none := by simp only [play?, step, hnone]
        have hafter : (b.step (.read now)).2 = b := hsame
        rw [hafter] at hlater
        rw [hplay, hafter]
        exact ih h hlater (hafter ▸ hrest)
      · have hplay : b.play? (.read now) = some ⟨fr, (b.read now).2.queue⟩ := by
          simp only [play?, step, hsome]
        obtain ⟨htimed, hchain, hnext⟩ := ih (h.playsFirst hplays) hlater hrest
        rw [hplay]
        refine ⟨fun x hx => ?_, List.isChain_cons.2 ⟨fun y hy => ?_, hchain⟩, fun x hx y hy => ?_⟩
        · obtain rfl | hx := List.mem_cons.1 hx
          · exact h.timed hplays
          · exact htimed x hx
        · exact hnext ⟨fr, (b.read now).2.queue⟩ (.refl _) y hy
        · cases hy
          exact h.announces hplays hx
    · have hacc : (b.write now p f).1 = .accepted := by
        rw [hstep] at hfirst
        exact hfirst _ (outcome?_write b now p f)
      have hplay : b.play? c = none := by simp only [play?, hstep]; rfl
      have hafter : (b.step c).2 = (b.write now p f).2 := congrArg Prod.snd hstep
      have hqueue := (write_accepted hacc).1
      rw [hafter] at hlater
      rw [hplay, hafter]
      obtain ⟨htimed, hchain, hnext⟩ := ih (h.write hacc) hlater (hafter ▸ hrest)
      refine ⟨htimed, hchain, fun x hx => hnext x (hx.trans ?_)⟩
      rw [hqueue]
      exact sublist_insertInto _ b.queue

/-- Packets of a stream, in the order of their sequence numbers: each lies ahead of the one before it,
with a timestamp that is the same or less than half the circle further on. -/
def InSequence (packets : List Packet) : Prop :=
  packets.IsChain fun p next => 0 < Sequence.distance next.sequence p.sequence ∧
    (next.timestamp - p.timestamp).toNat < 2 ^ 31

instance (packets : List Packet) : Decidable (InSequence packets) :=
  inferInstanceAs (Decidable (List.IsChain _ packets))

/-- The packets of a stream of one format come to an empty buffer in any order, none of them is lost,
and they are read in sequence. Then the starts of the frames rise exactly as long as the timestamps
do not pass zero. If the clock runs at the rate of the format, as it does for media with a rate and
for telephone events at the rate of the media, every frame whose successor waits when it is played
ends within a millisecond of where that one starts, or would start if it did not fall back. -/
theorem frame_times_of_stream (b : JitterBuffer) (f : Format) (calls : List (BufferCall Packet))
    (packets : List Packet) (hstreams : b.Streams f calls) (hpackets : InSequence packets)
    (horder : (b.plays calls).map (fun x => (x.frame.sequence, x.frame.timestamp)) <+:
      packets.map fun p => (p.sequence, p.timestamp)) :
    ((b.plays calls).IsChain (fun x y => x.frame.timestampMs ≤ y.frame.timestampMs) ↔
      (b.plays calls).IsChain fun x y => x.frame.timestamp ≤ y.frame.timestamp) ∧
    (f.isTelephoneEvent = false ∧ 0 < f.clockRate.toNat ∨ f.clockRate = b.clock.rate →
      (b.plays calls).IsChain fun x y => (∃ q ∈ x.waiting, y.frame.IsOf q) →
        let ends := x.frame.timestampMs + x.frame.durationMs
        let starts := y.frame.timestampMs +
          (b.adoptRate f).clock.fallBack x.frame.timestamp y.frame.timestamp
        ends ≤ starts + 1 ∧ starts ≤ ends + 1) := by
  have hcarrying : b.Carrying f b.formats (b.adoptRate f).clock := by
    refine ⟨rfl, ?_, ?_, rfl, fun h => absurd hstreams.idle h⟩
    · simp [hstreams.idle]
    · simp [hstreams.idle]
  obtain ⟨htimed, hannounces, -⟩ := hcarrying.plays hstreams.carries hstreams.accepted
  have hway : (b.plays calls).IsChain fun x y =>
      (y.frame.timestamp - x.frame.timestamp).toNat < 2 ^ 31 := by
    have hnumbers : (packets.map fun p => (p.sequence, p.timestamp)).IsChain
        fun m n => (n.2 - m.2).toNat < 2 ^ 31 :=
      (List.isChain_map _).2 (hpackets.imp fun _ _ h => h.2)
    obtain ⟨unplayed, horder⟩ := horder
    rw [← horder] at hnumbers
    exact (List.isChain_map _).1 hnumbers.left_of_append
  rw [List.isChain_iff_forall_rel_of_append_cons_cons] at hannounces hway
  simp only [List.isChain_iff_forall_rel_of_append_cons_cons]
  have hmem {x y : Play} {before after : List Play}
      (h : b.plays calls = before ++ x :: y :: after) :
      x.Timed f (b.adoptRate f).clock ∧ y.Timed f (b.adoptRate f).clock :=
    ⟨htimed x (by simp [h]), htimed y (by simp [h])⟩
  have hrises {x y : Play} {before after : List Play}
      (h : b.plays calls = before ++ x :: y :: after) :
      x.frame.timestampMs ≤ y.frame.timestampMs ↔ x.frame.timestamp ≤ y.frame.timestamp := by
    obtain ⟨hx, hy⟩ := hmem h
    rw [hx.start, hy.start]
    exact MediaClock.toMillis_le_iff _ (hway h)
  refine ⟨⟨fun hall x y _ _ h => (hrises h).1 (hall h), fun hall x y _ _ h => (hrises h).2 (hall h)⟩,
    fun hrate x y _ _ h hwaits => ?_⟩
  have hclock : (b.adoptRate f).clock.rate = f.clockRate := by
    rw [rate_adoptRate]
    split
    · rfl
    · exact (hrate.resolve_left ‹_›).symm
  obtain ⟨hx, hy⟩ := hmem h
  exact hx.meets hy (hannounces h) hclock hwaits

/-- Three packets of narrow-band audio whose timestamps pass zero at the last one. -/
def turningStream : List Packet :=
  [.make 0 7 4294966976 7 [1] false, .make 0 8 4294967136 7 [2] false, .make 0 9 0 7 [3] false]

/-- They come in another order and are read one after the other. -/
def turningCalls : List (BufferCall Packet) :=
  let pcmu : Format := .make 0 "PCMU" 8000
  [.write 0 (.make 0 9 0 7 [3] false) pcmu, .write 5 (.make 0 7 4294966976 7 [1] false) pcmu,
    .write 10 (.make 0 8 4294967136 7 [2] false) pcmu, .read 30, .read 30, .read 30]

theorem streams_turningCalls :
    (make ⟨20, 10⟩ (.make 8000)).Streams (.make 0 "PCMU" 8000) turningCalls where
  idle := rfl
  carries := by decide +kernel
  accepted := by decide +kernel

/-- The frames are played every twenty milliseconds; the last one starts at zero. -/
theorem frame_times_of_stream_turning :
    let b := make ⟨20, 10⟩ (.make 8000)
    let pcmu : Format := .make 0 "PCMU" 8000
    let times := (b.plays turningCalls).map fun x => (x.frame.timestampMs, x.frame.durationMs)
    times = [(536870872, 20), (536870892, 20), (0, 20)] ∧
    ((b.plays turningCalls).IsChain (fun x y => x.frame.timestampMs ≤ y.frame.timestampMs) ↔
      (b.plays turningCalls).IsChain fun x y => x.frame.timestamp ≤ y.frame.timestamp) ∧
    (b.plays turningCalls).IsChain fun x y => (∃ q ∈ x.waiting, y.frame.IsOf q) →
      let ends := x.frame.timestampMs + x.frame.durationMs
      let starts := y.frame.timestampMs +
        (b.adoptRate pcmu).clock.fallBack x.frame.timestamp y.frame.timestamp
      ends ≤ starts + 1 ∧ starts ≤ ends + 1 := by
  intro b pcmu times
  obtain ⟨hrise, hmeet⟩ := frame_times_of_stream b pcmu turningCalls turningStream
    streams_turningCalls (by decide +kernel) (by decide +kernel)
  exact ⟨by decide +kernel, hrise, hmeet (.inl (by decide +kernel))⟩

/-- Where the timestamps of a stream pass zero, the frames' times run backwards: the third frame waits
when the second one is played, and does not start where that one ends. -/
theorem frame_times_fall_back :
    let b := make ⟨20, 10⟩ (.make 8000)
    let pcmu : Format := .make 0 "PCMU" 8000
    b.Streams pcmu turningCalls ∧ InSequence turningStream ∧
    (b.plays turningCalls).map (fun x => (x.frame.sequence, x.frame.timestamp)) =
      turningStream.map (fun p => (p.sequence, p.timestamp)) ∧
    ¬ (b.plays turningCalls).IsChain (fun x y => x.frame.timestampMs ≤ y.frame.timestampMs) ∧
    ¬ (b.plays turningCalls).IsChain fun x y =>
      y.frame.sequence ∈ x.waiting.map (·.packet.sequence) →
        x.frame.timestampMs + x.frame.durationMs ≤ y.frame.timestampMs + 1 ∧
        y.frame.timestampMs ≤ x.frame.timestampMs + x.frame.durationMs + 1 :=
  ⟨streams_turningCalls, by decide +kernel, by decide +kernel, by decide +kernel,
    by decide +kernel⟩

end JitterBuffer

end MediaGateway
