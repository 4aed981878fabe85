import MediaGateway.JitterBuffer

/-!
# Runs of a jitter buffer

A run is a list of calls in any order, each with the wall time at which it is made. Its trace has
for each call what the call returned and the buffer after it.
-/

namespace MediaGateway

/-- A call of a jitter buffer that takes packets of type `π`. -/
inductive BufferCall (π : Type) where
  /-- Writes a packet whose encoding is known. -/
  | write (now : Nat) (packet : π) (format : Format)
  /-- Writes a packet whose payload number says how it is encoded. -/
  | writeMapped (now : Nat) (packet : π)
  /-- Reads the next frame. -/
  | read (now : Nat)
  /-- Forgets the stream. -/
  | reset
deriving DecidableEq, Repr

namespace BufferCall

/-- The packet that a call writes. -/
def packet? {π : Type} : BufferCall π → Option π
  | write _ p _ | writeMapped _ p => some p
  | read _ | reset => none

/-- The call with another form of its packet. -/
def map {π ρ : Type} (f : π → ρ) : BufferCall π → BufferCall ρ
  | write now p format => write now (f p) format
  | writeMapped now p => writeMapped now (f p)
  | read now => read now
  | reset => reset

end BufferCall

/-- What a call of a jitter buffer returns, with frames of type `φ`. -/
inductive BufferReply (φ : Type) where
  /-- What became of a written packet, and whether the buffer started anew because of it. -/
  | written (outcome : WriteOutcome) (restarted : Bool)
  /-- The frame that is played, if one is due. -/
  | played (frame : Option φ)
  /-- Nothing. -/
  | done
deriving DecidableEq, Repr

/-- The reply with another form of its frame. -/
def BufferReply.map {φ ψ : Type} (f : φ → ψ) : BufferReply φ → BufferReply ψ
  | written outcome restarted => written outcome restarted
  | played frame => played (frame.map f)
  | done => done

namespace JitterBuffer

/-- Whether the buffer has just started anew: the packet was late, and there is no position any more
that it could be late for. -/
def startedAnew (b : JitterBuffer) (outcome : WriteOutcome) : Bool :=
  outcome == .late && b.lastDelivered.isNone

/-- One call. -/
def step (b : JitterBuffer) : BufferCall Packet → BufferReply Frame × JitterBuffer
  | .write now p f =>
    let (outcome, b') := b.write now p f
    (.written outcome (b'.startedAnew outcome), b')
  | .writeMapped now p =>
    let (outcome, b') := b.writeMapped now p
    (.written outcome (b'.startedAnew outcome), b')
  | .read now =>
    let (f, b') := b.read now
    (.played f, b')
  | .reset => (.done, b.reset)

/-- The replies to the calls of a run, each with the buffer after the call. -/
def trace : JitterBuffer → List (BufferCall Packet) → List (BufferReply Frame × JitterBuffer)
  | _, [] => []
  | b, c :: rest => b.step c :: trace (b.step c).2 rest

/-- The buffer after a run. -/
def after : JitterBuffer → List (BufferCall Packet) → JitterBuffer
  | b, [] => b
  | b, c :: rest => after (b.step c).2 rest

/-! ## What a jitter buffer is set up with -/

section Settings

/-- The configuration and the meaning of payload numbers. -/
def settings (b : JitterBuffer) : JitterConfig × FormatTable := (b.config, b.formats)

variable (b : JitterBuffer) (now : Nat) (p : Packet)

theorem settings_observe (timestamp : UInt32) :
    (b.observe now timestamp).settings = b.settings := rfl

theorem settings_adoptRate (f : Format) : (b.adoptRate f).settings = b.settings := by
  unfold adoptRate
  split <;> rfl

theorem settings_dropLate : b.dropLate.settings = b.settings := by
  simp only [dropLate]
  split <;> rfl

theorem settings_enqueue (q : Queued) : (b.enqueue q).2.settings = b.settings := by
  unfold enqueue makeRoom
  repeat' split
  all_goals rfl

theorem settings_write (f : Format) : (b.write now p f).2.settings = b.settings := by
  simp only [write]
  split
  · rw [settings_dropLate, settings_observe, settings_adoptRate]
  · rw [settings_enqueue]
    exact (settings_observe _ now p.timestamp).trans (settings_adoptRate b f)

@[simp] theorem settings_writeMapped : (b.writeMapped now p).2.settings = b.settings := by
  unfold writeMapped
  split
  · exact settings_write b now p _
  · rfl

@[simp] theorem settings_read : (b.read now).2.settings = b.settings := by
  unfold read
  repeat' split
  all_goals rfl

theorem settings_readUpTo (n : Nat) : (readUpTo n b now).2.settings = b.settings := by
  induction n generalizing b with
  | zero => rfl
  | succ n ih =>
    have hread := settings_read b now
    simp only [readUpTo]
    split
    · rename_i f b' hb
      rw [hb] at hread
      exact (ih b').trans hread
    · rename_i b' hb
      rwa [hb] at hread

/-- A packet whose encoding is known is never of an unknown payload. -/
theorem write_ne_unknownPayload (f : Format) : (b.write now p f).1 ≠ .unknownPayload := by
  simp only [write, enqueue, makeRoom]
  repeat' split
  all_goals simp

theorem writeMapped_eq_unknownPayload :
    (b.writeMapped now p).1 = .unknownPayload ↔ b.formats.find? p.payloadType = none := by
  unfold writeMapped
  cases hf : b.formats.find? p.payloadType with
  | none => simp
  | some f => simpa using write_ne_unknownPayload b now p f

theorem writeMapped_of_empty (h : b.formats = .empty) :
    b.writeMapped now p = (.unknownPayload, b) := by
  simp only [writeMapped, h]
  rfl

theorem read_of_nil (h : b.queue = []) : b.read now = (none, b) := by
  simp only [read, h]

theorem drain_of_nil (h : b.queue = []) : b.drain now = ([], b) := by
  simp only [drain, h]
  rfl

end Settings

end JitterBuffer

end MediaGateway
