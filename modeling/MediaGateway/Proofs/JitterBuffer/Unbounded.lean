import MediaGateway.Format.Profile
import MediaGateway.Proofs.JitterBuffer.Run
import Mathlib.Data.List.Forall2

/-!
# The unbounded jitter buffer

A jitter buffer sees sequence numbers of 16 bits and has to tell from them which packet comes first.
The buffer of this module is what it stands for: the same algorithm on packets that carry their
place in the stream as an integer, so that "behind" is `≤` and nothing ever wraps.

`UnboundedBuffer.wrap` forgets all but the low 16 bits of every number. It is a homomorphism on each
operation as long as a packet that is written lies within 32767 of everything the buffer compares
it with, and hence on whole runs (`trace_wrap`).
-/

namespace MediaGateway

namespace Sequence

/-- The low 16 bits of a place in a stream. -/
def wrap (n : Int) : UInt16 := UInt16.ofInt n

theorem toNat_wrap (n : Int) : ((wrap n).toNat : Int) = n % 65536 := by
  have h : (wrap n).toNat = (n % 65536).toNat % 65536 := rfl
  rw [h]
  omega

theorem distance_wrap_wrap (a b : Int) : distance (wrap a) (wrap b) = Int.bmod (a - b) 65536 := by
  simp only [distance, toNat_wrap]
  rw [← Int.emod_bmod (a % 65536 - b % 65536), ← Int.emod_bmod (a - b)]
  congr 1
  omega

/-- Close numbers are as far apart as their low 16 bits say. -/
theorem distance_wrap {a b : Int} (h : (a - b).natAbs ≤ 32767) :
    distance (wrap a) (wrap b) = a - b := by
  rw [distance_wrap_wrap]
  exact Int.bmod_eq_of_le (by omega) (by omega)

/-- Close numbers are told apart by their low 16 bits. -/
theorem wrap_inj {a b : Int} (h : (a - b).natAbs ≤ 32767) : wrap a = wrap b ↔ a = b := by
  constructor
  · intro e
    have hd := distance_wrap h
    rw [e, distance_self] at hd
    omega
  · rintro rfl
    rfl

end Sequence

/-- Something with a place in an unbounded numbering. What the content itself says about its
sequence number plays no part. -/
structure Numbered (α : Type) where
  /-- The place. -/
  number : Int
  /-- What is there. -/
  content : α
deriving DecidableEq, Repr

/-- The packet as it is on the wire. -/
def Numbered.packet (p : Numbered Packet) : Packet :=
  { p.content with sequence := Sequence.wrap p.number }

/-- The frame with the low 16 bits of its place. -/
def Numbered.frame (f : Numbered Frame) : Frame :=
  { f.content with sequence := Sequence.wrap f.number }

/-- A packet that waits in an unbounded buffer. -/
structure Waiting where
  /-- The place of the packet in the stream. -/
  number : Int
  /-- The packet. -/
  packet : Packet
  /-- When it arrived, in milliseconds. -/
  arrival : Nat
  /-- How its payload is encoded. -/
  format : Format
deriving DecidableEq, Repr

namespace Waiting

/-- What waits, without its place in the stream. -/
def queued (q : Waiting) : Queued := ⟨q.packet, q.arrival, q.format⟩

/-- The packet as a buffer of 16-bit numbers keeps it. -/
def wrap (q : Waiting) : Queued :=
  { q.queued with packet := { q.packet with sequence := Sequence.wrap q.number } }

end Waiting

/-- A jitter buffer that orders packets by integers. -/
structure UnboundedBuffer where
  /-- How it is set up. -/
  config : JitterConfig
  /-- The clock of the stream. -/
  clock : MediaClock
  /-- The packets that wait, in the order of their numbers. -/
  queue : List Waiting
  /-- What payload numbers mean. -/
  formats : FormatTable
  /-- The number of the last packet that was played or gave way. -/
  lastDelivered : Option Int
  /-- How many packets were dropped. -/
  dropped : Nat
  /-- The transit time of the last packet, up to a constant. -/
  transit : Option UInt32
  /-- Sixteen times the jitter estimate. -/
  scaledJitter : UInt32
  /-- The last known time between two frames, in milliseconds. -/
  lastDurationMs : Nat
  /-- How many of the last packets were late without a break. -/
  lateRun : Nat
deriving DecidableEq

namespace UnboundedBuffer

/-- An empty buffer. -/
def make (config : JitterConfig) (clock : MediaClock) : UnboundedBuffer :=
  { config, clock, queue := [], formats := .empty, lastDelivered := none, dropped := 0,
    transit := none, scaledJitter := 0, lastDurationMs := 0, lateRun := 0 }

/-- The buffer of 16-bit numbers that has seen the same packets. -/
def wrap (u : UnboundedBuffer) : JitterBuffer where
  config := u.config
  clock := u.clock
  queue := u.queue.map Waiting.wrap
  formats := u.formats
  lastDelivered := u.lastDelivered.map Sequence.wrap
  dropped := u.dropped
  transit := u.transit
  scaledJitter := u.scaledJitter
  lastDurationMs := u.lastDurationMs
  lateRun := u.lateRun

/-! ## The operations -/

/-- How many late packets in a row mean that the sender has started again. -/
def resyncAfter (u : UnboundedBuffer) : Nat :=
  max (u.config.maxPackets / 2) 1

/-- The buffer with the clock at the rate of a format, unless it is one of telephone events. -/
def adoptRate (u : UnboundedBuffer) (f : Format) : UnboundedBuffer :=
  if f.isTelephoneEvent then u else { u with clock := u.clock.setRate f.clockRate }

/-- Takes the arrival of a packet at wall time `now` into account. -/
def observe (u : UnboundedBuffer) (now : Nat) (timestamp : UInt32) : UnboundedBuffer :=
  let clock := if u.clock.synchronized then u.clock else u.clock.synchronize now timestamp
  let transit := UInt32.ofInt (clock.read now) - timestamp
  { u with
    clock
    transit := some transit
    scaledJitter := match u.transit with
      | some previous =>
        JitterBuffer.smooth u.scaledJitter (JitterBuffer.wordDistance transit previous)
      | none => u.scaledJitter }

/-- Whether a number lies at or behind the last one played. -/
def isLate (u : UnboundedBuffer) (number : Int) : Bool :=
  match u.lastDelivered with
  | some last => number ≤ last
  | none => false

/-- Gives up what is queued and where playing had come to. -/
def resynchronize (u : UnboundedBuffer) : UnboundedBuffer :=
  { u with
    queue := []
    lastDelivered := none
    dropped := u.dropped + u.queue.length
    transit := none
    scaledJitter := 0
    lateRun := 0
    clock := u.clock.reset }

/-- Drops a late packet, and starts anew if there were enough of them in a row. -/
def dropLate (u : UnboundedBuffer) : UnboundedBuffer :=
  let u := { u with dropped := u.dropped + 1, lateRun := u.lateRun + 1 }
  if u.resyncAfter ≤ u.lateRun then u.resynchronize else u

/-- The queue with a packet before the first one that it lies behind. -/
def insertInto (q : Waiting) : List Waiting → List Waiting
  | [] => [q]
  | head :: rest =>
    if q.number < head.number then q :: head :: rest else head :: insertInto q rest

/-- Lets the oldest packet give way if there are too many. -/
def makeRoom (u : UnboundedBuffer) : WriteOutcome × UnboundedBuffer :=
  if u.config.maxPackets < u.queue.length then
    match u.queue with
    | oldest :: rest =>
      (.overflow, { u with
        queue := rest
        lastDelivered := some oldest.number
        dropped := u.dropped + 1 })
    | [] => (.accepted, u)
  else (.accepted, u)

/-- Queues a packet that is not late, unless its number is queued already. -/
def enqueue (u : UnboundedBuffer) (q : Waiting) : WriteOutcome × UnboundedBuffer :=
  if u.queue.any fun other => other.number == q.number then (.duplicate, u)
  else { u with queue := insertInto q u.queue }.makeRoom

/-- Takes a packet whose payload is encoded as `f` at wall time `now`. -/
def write (u : UnboundedBuffer) (now : Nat) (p : Numbered Packet) (f : Format) :
    WriteOutcome × UnboundedBuffer :=
  let u := (u.adoptRate f).observe now p.content.timestamp
  if u.isLate p.number then (.late, u.dropLate)
  else { u with lateRun := 0 }.enqueue ⟨p.number, p.content, now, f⟩

/-- Takes a packet whose payload number says how it is encoded. -/
def writeMapped (u : UnboundedBuffer) (now : Nat) (p : Numbered Packet) :
    WriteOutcome × UnboundedBuffer :=
  match u.formats.find? p.content.payloadType with
  | some f => u.write now p f
  | none => (.unknownPayload, u)

/-- Plays the first packet if it has been held long enough at wall time `now`. -/
def read (u : UnboundedBuffer) (now : Nat) : Option (Numbered Frame) × UnboundedBuffer :=
  match u.queue with
  | [] => (none, u)
  | q :: rest =>
    if now < q.arrival + u.config.tolerance then (none, u)
    else
      let lastDurationMs := match rest with
        | next :: _ => JitterBuffer.duration q.queued next.queued
        | [] => u.lastDurationMs
      (some ⟨q.number, JitterBuffer.frame u.clock q.queued lastDurationMs⟩,
        { u with queue := rest, lastDurationMs, lastDelivered := some q.number })

/-- Forgets the stream; the meaning of the payload numbers stays. -/
def reset (u : UnboundedBuffer) : UnboundedBuffer :=
  { u with
    queue := []
    lastDelivered := none
    dropped := 0
    transit := none
    scaledJitter := 0
    lastDurationMs := 0
    lateRun := 0
    clock := u.clock.reset }

/-- Whether the buffer has just started anew. -/
def startedAnew (u : UnboundedBuffer) (outcome : WriteOutcome) : Bool :=
  outcome == .late && u.lastDelivered.isNone

/-- One call. -/
def step (u : UnboundedBuffer) :
    BufferCall (Numbered Packet) → BufferReply (Numbered Frame) × UnboundedBuffer
  | .write now p f =>
    let (outcome, u') := u.write now p f
    (.written outcome (u'.startedAnew outcome), u')
  | .writeMapped now p =>
    let (outcome, u') := u.writeMapped now p
    (.written outcome (u'.startedAnew outcome), u')
  | .read now =>
    let (f, u') := u.read now
    (.played f, u')
  | .reset => (.done, u.reset)

/-- The replies to the calls of a run, each with the buffer after the call. -/
def trace : UnboundedBuffer → List (BufferCall (Numbered Packet)) →
    List (BufferReply (Numbered Frame) × UnboundedBuffer)
  | _, [] => []
  | u, c :: rest => u.step c :: trace (u.step c).2 rest

/-- The buffer after a run. -/
def after : UnboundedBuffer → List (BufferCall (Numbered Packet)) → UnboundedBuffer
  | u, [] => u
  | u, c :: rest => after (u.step c).2 rest

/-! ## The window -/

/-- A number lies within 32767 of everything that the buffer compares it with: the packets that
wait and the last one played. -/
def Admits (u : UnboundedBuffer) (number : Int) : Prop :=
  (∀ q ∈ u.queue, (number - q.number).natAbs ≤ 32767) ∧
    ∀ last ∈ u.lastDelivered, (number - last).natAbs ≤ 32767

instance (u : UnboundedBuffer) (number : Int) : Decidable (u.Admits number) :=
  inferInstanceAs (Decidable (_ ∧ _))

/-- Every packet that a run writes is admitted when it is written. -/
def AdmitsAll : UnboundedBuffer → List (BufferCall (Numbered Packet)) → Prop
  | _, [] => True
  | u, c :: rest => (∀ p ∈ c.packet?, u.Admits p.number) ∧ AdmitsAll (u.step c).2 rest

instance decidableAdmitsAll :
    (u : UnboundedBuffer) → (calls : List (BufferCall (Numbered Packet))) →
      Decidable (u.AdmitsAll calls)
  | _, [] => isTrue trivial
  | u, c :: rest =>
    have := decidableAdmitsAll (u.step c).2 rest
    inferInstanceAs (Decidable (_ ∧ _))

/-! ## Forgetting the high bits -/

section Wrap

variable {u : UnboundedBuffer}

theorem wrap_adoptRate (f : Format) : (u.adoptRate f).wrap = u.wrap.adoptRate f := by
  simp only [adoptRate, JitterBuffer.adoptRate]
  split <;> rfl

theorem wrap_observe (now : Nat) (timestamp : UInt32) :
    (u.observe now timestamp).wrap = u.wrap.observe now timestamp := rfl

theorem wrap_resynchronize : u.resynchronize.wrap = u.wrap.resynchronize := by
  simp [resynchronize, JitterBuffer.resynchronize, wrap]

theorem wrap_dropLate : u.dropLate.wrap = u.wrap.dropLate := by
  let late := { u with dropped := u.dropped + 1, lateRun := u.lateRun + 1 }
  change (if late.resyncAfter ≤ late.lateRun then late.resynchronize else late).wrap =
    if late.resyncAfter ≤ late.lateRun then late.wrap.resynchronize else late.wrap
  rw [apply_ite wrap, wrap_resynchronize]

theorem isLate_wrap {n : Int} (h : u.Admits n) : u.wrap.isLate (Sequence.wrap n) = u.isLate n := by
  cases hl : u.lastDelivered with
  | none => simp [JitterBuffer.isLate, isLate, wrap, hl]
  | some last =>
    have hd := Sequence.distance_wrap (h.2 last hl)
    simp only [JitterBuffer.isLate, isLate, wrap, hl, Option.map_some, hd, decide_eq_decide]
    omega

/-- A packet gets the same place in the queue. -/
theorem insertInto_wrap (q : Waiting) (queue : List Waiting)
    (h : ∀ r ∈ queue, (q.number - r.number).natAbs ≤ 32767) :
    JitterBuffer.insertInto q.wrap (queue.map Waiting.wrap) =
      (insertInto q queue).map Waiting.wrap := by
  induction queue with
  | nil => rfl
  | cons r rest ih =>
    have hd : Sequence.distance q.wrap.packet.sequence r.wrap.packet.sequence =
        q.number - r.number := Sequence.distance_wrap (h r (by simp))
    have ih := ih fun r hr => h r (by simp [hr])
    simp only [List.map_cons, JitterBuffer.insertInto, insertInto, hd]
    by_cases hlt : q.number < r.number
    · rw [if_pos (by omega), if_pos hlt]
      rfl
    · rw [if_neg (by omega), if_neg hlt, ih]
      rfl

theorem any_sequence_wrap (q : Waiting) (queue : List Waiting)
    (h : ∀ r ∈ queue, (q.number - r.number).natAbs ≤ 32767) :
    ((queue.map Waiting.wrap).any fun r => r.packet.sequence == q.wrap.packet.sequence) =
      queue.any fun r => r.number == q.number := by
  rw [Bool.eq_iff_iff]
  simp only [List.any_map, List.any_eq_true, Function.comp_apply, beq_iff_eq]
  refine exists_congr fun r => and_congr_right fun hr => ?_
  exact Sequence.wrap_inj (by have := h r hr; omega)

theorem makeRoom_wrap : u.wrap.makeRoom = (u.makeRoom.1, u.makeRoom.2.wrap) := by
  obtain ⟨config, clock, queue, formats, last, dropped, transit, jitter, duration, run⟩ := u
  cases queue with
  | nil => simp [JitterBuffer.makeRoom, makeRoom, wrap]
  | cons q rest =>
    simp only [JitterBuffer.makeRoom, makeRoom, wrap, List.map_cons, List.length_cons,
      List.length_map]
    split <;> rfl

theorem enqueue_wrap {q : Waiting} (h : ∀ r ∈ u.queue, (q.number - r.number).natAbs ≤ 32767) :
    u.wrap.enqueue q.wrap = ((u.enqueue q).1, (u.enqueue q).2.wrap) := by
  have ha : (u.wrap.queue.any fun r => r.packet.sequence == q.wrap.packet.sequence) =
      u.queue.any fun r => r.number == q.number := any_sequence_wrap q u.queue h
  have hi : JitterBuffer.insertInto q.wrap u.wrap.queue = (insertInto q u.queue).map Waiting.wrap :=
    insertInto_wrap q u.queue h
  simp only [JitterBuffer.enqueue, enqueue, ha, hi]
  split
  · rfl
  · exact makeRoom_wrap (u := { u with queue := insertInto q u.queue })

/-- What is learnt from a packet's arrival does not move the window. -/
theorem Admits.observe {n : Int} (h : u.Admits n) (f : Format) (now : Nat) (timestamp : UInt32) :
    ((u.adoptRate f).observe now timestamp).Admits n := by
  simp only [adoptRate]
  split <;> exact h

theorem write_wrap {p : Numbered Packet} (h : u.Admits p.number) (now : Nat) (f : Format) :
    u.wrap.write now p.packet f = ((u.write now p f).1, (u.write now p f).2.wrap) := by
  have ha := h.observe f now p.content.timestamp
  have hb : (u.wrap.adoptRate f).observe now p.packet.timestamp =
      ((u.adoptRate f).observe now p.content.timestamp).wrap := by
    rw [wrap_observe, wrap_adoptRate]
    rfl
  simp only [JitterBuffer.write, write, hb]
  generalize (u.adoptRate f).observe now p.content.timestamp = v at ha
  have hl : v.wrap.isLate p.packet.sequence = v.isLate p.number := isLate_wrap ha
  rw [hl]
  split
  · rw [wrap_dropLate]
  · exact enqueue_wrap (u := { v with lateRun := 0 }) (q := ⟨p.number, p.content, now, f⟩) ha.1

theorem writeMapped_wrap {p : Numbered Packet} (h : u.Admits p.number) (now : Nat) :
    u.wrap.writeMapped now p.packet =
      ((u.writeMapped now p).1, (u.writeMapped now p).2.wrap) := by
  have hf : u.wrap.formats.find? p.packet.payloadType =
      u.formats.find? p.content.payloadType := rfl
  simp only [JitterBuffer.writeMapped, writeMapped, hf]
  cases u.formats.find? p.content.payloadType with
  | some f => exact write_wrap h now f
  | none => rfl

theorem read_wrap (now : Nat) :
    u.wrap.read now = ((u.read now).1.map Numbered.frame, (u.read now).2.wrap) := by
  obtain ⟨config, clock, queue, formats, last, dropped, transit, jitter, duration, run⟩ := u
  cases queue with
  | nil => rfl
  | cons q rest =>
    have ha : q.wrap.arrival = q.arrival := rfl
    simp only [JitterBuffer.read, read, wrap, List.map_cons, ha]
    by_cases h : now < q.arrival + config.tolerance
    · simp only [if_pos h]
      rfl
    · simp only [if_neg h]
      cases rest <;> rfl

/-! ## Runs -/

theorem startedAnew_wrap (outcome : WriteOutcome) :
    u.wrap.startedAnew outcome = u.startedAnew outcome := by
  simp [JitterBuffer.startedAnew, startedAnew, wrap]

/-- A call has the same effect and the same reply, if the packet that it writes is admitted. -/
theorem step_wrap {c : BufferCall (Numbered Packet)} (h : ∀ p ∈ c.packet?, u.Admits p.number) :
    u.wrap.step (c.map Numbered.packet) =
      ((u.step c).1.map Numbered.frame, (u.step c).2.wrap) := by
  cases c with
  | write now p f =>
    simp only [BufferCall.map, JitterBuffer.step, step, write_wrap (h p rfl), startedAnew_wrap]
    rfl
  | writeMapped now p =>
    simp only [BufferCall.map, JitterBuffer.step, step, writeMapped_wrap (h p rfl),
      startedAnew_wrap]
    rfl
  | read now =>
    simp only [BufferCall.map, JitterBuffer.step, step, read_wrap]
    rfl
  | reset => rfl

/-- The buffers of a run in step, by induction on the calls. -/
theorem trace_wrap {calls : List (BufferCall (Numbered Packet))} (h : u.AdmitsAll calls) :
    u.wrap.trace (calls.map (BufferCall.map Numbered.packet)) =
      (u.trace calls).map fun s => (s.1.map Numbered.frame, s.2.wrap) := by
  induction calls generalizing u with
  | nil => rfl
  | cons c rest ih =>
    obtain ⟨hc, hr⟩ := h
    simp only [List.map_cons, JitterBuffer.trace, trace, step_wrap hc, ih hr]

theorem after_wrap {calls : List (BufferCall (Numbered Packet))} (h : u.AdmitsAll calls) :
    u.wrap.after (calls.map (BufferCall.map Numbered.packet)) = (u.after calls).wrap := by
  induction calls generalizing u with
  | nil => rfl
  | cons c rest ih =>
    obtain ⟨hc, hr⟩ := h
    simp only [List.map_cons, JitterBuffer.after, after, step_wrap hc, ih hr]

end Wrap

/-- A call of a buffer of 16-bit numbers came out like the call of an unbounded one: the replies agree
in the outcome, in whether the buffer started anew and in the frame, and the buffers hold equally
many packets under the low 16 bits of the same numbers and have counted the same. -/
structure Refines (s : BufferReply Frame × JitterBuffer)
    (t : BufferReply (Numbered Frame) × UnboundedBuffer) : Prop where
  /-- What was returned. -/
  reply : s.1 = t.1.map Numbered.frame
  /-- How many packets wait. -/
  length : s.2.queue.length = t.2.queue.length
  /-- Under which numbers they wait. -/
  numbers : s.2.queue.map (·.packet.sequence) = t.2.queue.map (Sequence.wrap ·.number)
  /-- Where playing has come to. -/
  pointer : s.2.lastDelivered = t.2.lastDelivered.map Sequence.wrap
  /-- How many packets were dropped. -/
  dropped : s.2.dropped = t.2.dropped
  /-- How many of the last packets were late. -/
  lateRun : s.2.lateRun = t.2.lateRun

theorem refines_wrap (t : BufferReply (Numbered Frame) × UnboundedBuffer) :
    Refines (t.1.map Numbered.frame, t.2.wrap) t where
  reply := rfl
  length := by simp [wrap]
  numbers := by
    simp only [wrap, List.map_map]
    rfl
  pointer := rfl
  dropped := rfl
  lateRun := rfl

/-- A new jitter buffer does at every call of a run what the unbounded one does. -/
theorem fresh_run_refines (config : JitterConfig) (clock : MediaClock) (formats : FormatTable)
    (calls : List (BufferCall (Numbered Packet)))
    (h : { make config clock with formats }.AdmitsAll calls) :
    List.Forall₂ Refines
      ({ JitterBuffer.make config clock with formats }.trace
        (calls.map (BufferCall.map Numbered.packet)))
      ({ make config clock with formats }.trace calls) := by
  have hw : ({ JitterBuffer.make config clock with formats } : JitterBuffer) =
      ({ make config clock with formats } : UnboundedBuffer).wrap := rfl
  rw [hw, trace_wrap h, List.forall₂_map_left_iff, List.forall₂_same]
  exact fun t _ => refines_wrap t

/-- A stream that wraps, with a packet that has no meaning, one that is queued already, one that
overflows a buffer of four, and two late ones in a row after which the stream starts anew. -/
def wrappingStream : List (BufferCall (Numbered Packet)) :=
  let pcmu : Format := .make 0 "PCMU" 8000
  let packet (n : Int) : Numbered Packet := ⟨n, ⟨false, 0, 0, 160, 7, []⟩⟩
  [.write 0 (packet 65537) pcmu, .write 0 (packet 65534) pcmu, .writeMapped 5 (packet 65536),
    .write 9 (packet 65536) pcmu, .write 9 (packet 65536) pcmu, .write 9 (packet 65535) pcmu,
    .write 9 (packet 65539) pcmu, .read 30, .write 31 (packet 65535) pcmu,
    .write 31 (packet 65534) pcmu, .write 32 (packet 10) pcmu, .reset, .read 99]

theorem fresh_run_refines_wrappingStream :
    { make ⟨20, 4⟩ (.make 8000) with formats := Profile.video }.AdmitsAll wrappingStream ∧
      List.Forall₂ Refines
        ({ JitterBuffer.make ⟨20, 4⟩ (.make 8000) with formats := Profile.video }.trace
          (wrappingStream.map (BufferCall.map Numbered.packet)))
        ({ make ⟨20, 4⟩ (.make 8000) with formats := Profile.video }.trace wrappingStream) := by
  have h : { make ⟨20, 4⟩ (.make 8000) with formats := Profile.video }.AdmitsAll
      wrappingStream := by
    decide +kernel
  exact ⟨h, fresh_run_refines ⟨20, 4⟩ (.make 8000) Profile.video wrappingStream h⟩

end UnboundedBuffer

end MediaGateway
