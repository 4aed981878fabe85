import MediaGateway.Proofs.JitterBuffer.Accounting
import Mathlib.Data.List.Infix

/-!
# A sender that starts again

A sender that starts again numbers its packets from anywhere, and so they may all lie behind the last
one that was played. The buffer counts how many packets in a row were late; with half a buffer of
them it gives up what waits and forgets where playing has come to.

An onlooker who sees nothing but what became of the written packets can tell when this happens: the
buffer starts anew under the packet that completes a run of so many late ones, and under no other.
It follows that a run of late packets is never longer. What the buffer does from then on is what a
new one would do: of all that it still remembers, only the times of the frames depend.
-/

namespace MediaGateway

/-- What became of the packet that a call wrote. A packet whose payload number has no meaning was not
written. -/
def BufferReply.outcome? {φ : Type} : BufferReply φ → Option WriteOutcome
  | written .unknownPayload _ => none
  | written outcome _ => some outcome
  | played _ | done => none

/-- A frame without its times, which depend on the clock and on its neighbours. -/
def Frame.untimed (f : Frame) : Frame :=
  { f with timestampMs := 0, durationMs := 0 }

/-! ## Late packets in a row -/

namespace WriteOutcome

/-- How many of the last outcomes are late without a break. -/
def lateStreak (outcomes : List WriteOutcome) : Nat :=
  outcomes.foldl (fun n outcome => if outcome = late then n + 1 else 0) 0

variable {outcomes : List WriteOutcome}

@[simp] theorem lateStreak_append_late : lateStreak (outcomes ++ [late]) = lateStreak outcomes + 1 := by
  simp [lateStreak]

theorem lateStreak_append_of_ne {outcome : WriteOutcome} (h : outcome ≠ late) :
    lateStreak (outcomes ++ [outcome]) = 0 := by
  simp [lateStreak, h]

/-- By induction from the last outcome to the first. -/
theorem replicate_late_suffix_iff {k : Nat} :
    List.replicate k late <:+ outcomes ↔ k ≤ lateStreak outcomes := by
  induction outcomes using List.reverseRecOn generalizing k with
  | nil => simp [lateStreak]
  | append_singleton before outcome ih =>
    cases k with
    | zero => simp
    | succ k =>
      rw [List.replicate_succ', List.suffix_concat_iff]
      by_cases hlate : outcome = late
      · subst hlate
        rw [lateStreak_append_late, Nat.succ_le_succ_iff, ← ih]
        simp
      · rw [lateStreak_append_of_ne hlate]
        simp [Ne.symm hlate]

end WriteOutcome

namespace JitterBuffer

open WriteOutcome (lateStreak)

/-! ## What an onlooker sees -/

/-- What an event returns, if it is a call. -/
def reply? (b : JitterBuffer) : BufferEvent → Option (BufferReply Frame)
  | .call c => some (b.step c).1
  | .install _ | .setClock _ => none

/-- What the calls among some events return. -/
def replies (b : JitterBuffer) : List BufferEvent → List (BufferReply Frame)
  | [] => []
  | e :: rest => (b.reply? e).toList ++ (b.meet e).replies rest

/-- What became of the packets that were written, one after the other. -/
def outcomes (b : JitterBuffer) (events : List BufferEvent) : List WriteOutcome :=
  (b.replies events).filterMap BufferReply.outcome?

variable {b b' b'' : JitterBuffer} {outs : List WriteOutcome}

theorem replies_append (b : JitterBuffer) (events later : List BufferEvent) :
    b.replies (events ++ later) = b.replies events ++ (b.meetAll events).replies later := by
  induction events generalizing b with
  | nil => rfl
  | cons e rest ih =>
    show _ ++ (b.meet e).replies (rest ++ later) = _ ++ _ ++ _
    rw [ih, List.append_assoc]
    rfl

theorem outcomes_append_one (b : JitterBuffer) (events : List BufferEvent) (e : BufferEvent) :
    b.outcomes (events ++ [e]) =
      b.outcomes events ++ (((b.meetAll events).reply? e).bind BufferReply.outcome?).toList := by
  simp only [outcomes, replies_append, List.filterMap_append, replies, List.append_nil]
  cases (b.meetAll events).reply? e with
  | none => rfl
  | some reply => cases h : reply.outcome? <;> simp [h]

theorem meetAll_append_one (b : JitterBuffer) (events : List BufferEvent) (e : BufferEvent) :
    b.meetAll (events ++ [e]) = (b.meetAll events).meet e :=
  List.foldl_concat meet b e events

theorem outcome?_write (b : JitterBuffer) (now : Nat) (p : Packet) (f : Format) :
    (b.step (.write now p f)).1.outcome? = some (b.write now p f).1 := by
  have hknown := write_ne_unknownPayload b now p f
  show (BufferReply.written (b.write now p f).1 _).outcome? = _
  cases h : (b.write now p f).1 <;> simp_all [BufferReply.outcome?]

/-- A packet whose payload number has a meaning is written as it says. -/
theorem step_writeMapped {now : Nat} {p : Packet} {f : Format}
    (h : b.formats.find? p.payloadType = some f) :
    b.step (.writeMapped now p) = b.step (.write now p f) := by
  have hwrite : b.writeMapped now p = b.write now p f := by simp only [writeMapped, h]
  simp only [step, hwrite]

theorem settings_step (b : JitterBuffer) (c : BufferCall Packet) :
    (b.step c).2.settings = b.settings := by
  cases c with
  | write now p f => exact b.settings_write now p f
  | writeMapped now p => exact b.settings_writeMapped now p
  | read now => exact b.settings_read now
  | reset => rfl

theorem config_meetAll (b : JitterBuffer) (events : List BufferEvent) :
    (b.meetAll events).config = b.config := by
  induction events generalizing b with
  | nil => rfl
  | cons e rest ih =>
    have hmeet : (b.meet e).config = b.config := by
      cases e with
      | call c => exact congrArg Prod.fst (b.settings_step c)
      | install formats => rfl
      | setClock clock => rfl
    exact (ih (b.meet e)).trans hmeet

/-! ## Being late -/

/-- What writing a packet has to do with being late. -/
inductive Written (b : JitterBuffer) : WriteOutcome → JitterBuffer → Prop
  /-- The packet is dropped as one of few. -/
  | late {b' : JitterBuffer} (playing : b.lastDelivered ≠ none)
      (few : b.lateRun + 1 < b.resyncAfter) (queue : b'.queue = b.queue)
      (last : b'.lastDelivered = b.lastDelivered) (run : b'.lateRun = b.lateRun + 1)
      (dropped : b'.dropped = b.dropped + 1) : Written b .late b'
  /-- The packet is dropped as one of enough to start anew. -/
  | restart {b' : JitterBuffer} (playing : b.lastDelivered ≠ none)
      (enough : b.resyncAfter ≤ b.lateRun + 1) (queue : b'.queue = [])
      (last : b'.lastDelivered = none) (run : b'.lateRun = 0)
      (dropped : b'.dropped = b.dropped + 1 + b.queue.length) : Written b .late b'
  /-- The packet is not late. -/
  | timely {outcome : WriteOutcome} {b' : JitterBuffer} (inTime : outcome ≠ .late)
      (known : outcome ≠ .unknownPayload) (run : b'.lateRun = 0) : Written b outcome b'

theorem isLate_congr (h : b'.lastDelivered = b.lastDelivered) (sequence : UInt16) :
    b'.isLate sequence = b.isLate sequence := by
  simp only [isLate, h]

theorem dropLate_of_enough (h : b.resyncAfter ≤ b.lateRun + 1) :
    b.dropLate = { b with dropped := b.dropped + 1, lateRun := b.lateRun + 1 }.resynchronize :=
  if_pos h

theorem dropLate_of_few (h : ¬b.resyncAfter ≤ b.lateRun + 1) :
    b.dropLate = { b with dropped := b.dropped + 1, lateRun := b.lateRun + 1 } :=
  if_neg h

theorem dropLate_written (h : b.lastDelivered ≠ none) : b.Written .late b.dropLate := by
  by_cases henough : b.resyncAfter ≤ b.lateRun + 1
  · rw [dropLate_of_enough henough]
    exact .restart h henough rfl rfl rfl rfl
  · rw [dropLate_of_few henough]
    exact .late h (Nat.lt_of_not_le henough) rfl rfl rfl rfl

theorem enqueue_written (h : b.lateRun = 0) (q : Queued) :
    b'.Written (b.enqueue q).1 (b.enqueue q).2 := by
  unfold enqueue makeRoom
  repeat' split
  all_goals exact .timely (by simp) (by simp) h

theorem write_written (b : JitterBuffer) (now : Nat) (p : Packet) (f : Format) :
    b.Written (b.write now p f).1 (b.write now p f).2 := by
  -- What is learnt from the packet's arrival has nothing to do with being late.
  have hseen : ∀ {outcome b'}, ((b.adoptRate f).observe now p.timestamp).Written outcome b' →
      b.Written outcome b' := by
    intro outcome b' h
    unfold adoptRate at h
    split at h
    all_goals
      cases h with
      | late playing few queue last run dropped => exact .late playing few queue last run dropped
      | restart playing enough queue last run dropped =>
        exact .restart playing enough queue last run dropped
      | timely inTime known run => exact .timely inTime known run
  simp only [write]
  split
  · rename_i hlate
    refine hseen (dropLate_written fun hnone => ?_)
    simp [isLate, hnone] at hlate
  · exact enqueue_written rfl _

/-- What became of a packet says what the call did. -/
theorem written_of_outcome? {c : BufferCall Packet} {outcome : WriteOutcome}
    (h : (b.step c).1.outcome? = some outcome) : b.Written outcome (b.step c).2 := by
  cases c with
  | write now p f =>
    rw [outcome?_write, Option.some_inj] at h
    exact h ▸ b.write_written now p f
  | writeMapped now p =>
    cases hf : b.formats.find? p.payloadType with
    | none => simp [b.step_of_unknown now hf, BufferReply.outcome?] at h
    | some f =>
      rw [step_writeMapped hf, outcome?_write, Option.some_inj] at h
      rw [step_writeMapped hf]
      exact h ▸ b.write_written now p f
  | read now => simp [step, BufferReply.outcome?] at h
  | reset => simp [step, BufferReply.outcome?] at h

/-! ## Runs of late packets -/

/-- What the outcomes so far say about a buffer. -/
structure Follows (b : JitterBuffer) (outs : List WriteOutcome) : Prop where
  /-- Few packets in a row are late, -/
  few : b.lateRun < b.resyncAfter
  /-- as many as can be seen, unless there is nothing that a packet could be late for. -/
  streak : lateStreak outs = b.lateRun ∨
    (b.queue = [] ∧ b.lastDelivered = none ∧ lateStreak outs ≤ b.resyncAfter)
  /-- At no time there were more than it takes to start anew. -/
  bounded : ¬ List.replicate (b.resyncAfter + 1) WriteOutcome.late <:+: outs

theorem resyncAfter_pos (b : JitterBuffer) : 0 < b.resyncAfter :=
  Nat.lt_of_lt_of_le Nat.zero_lt_one (Nat.le_max_right _ _)

theorem resyncAfter_congr (h : b'.config = b.config) : b'.resyncAfter = b.resyncAfter := by
  simp only [resyncAfter, h]

namespace Follows

/-- The streak stays within bounds, and so do all before. -/
theorem bounded_append {outcome : WriteOutcome} {k : Nat}
    (h : ¬ List.replicate (k + 1) WriteOutcome.late <:+: outs)
    (hlast : lateStreak (outs ++ [outcome]) ≤ k) :
    ¬ List.replicate (k + 1) WriteOutcome.late <:+: outs ++ [outcome] := by
  rw [List.infix_concat_iff, WriteOutcome.replicate_late_suffix_iff]
  rintro (hsuffix | hinfix)
  · exact absurd hlast (Nat.not_le_of_lt hsuffix)
  · exact h hinfix

/-- A buffer that plays counts the late packets that can be seen. -/
theorem streak_eq (h : b.Follows outs) (hplaying : b.lastDelivered ≠ none) :
    lateStreak outs = b.lateRun :=
  h.streak.resolve_right fun hidle => hplaying hidle.2.1

theorem congr (h : b.Follows outs) (hconfig : b'.config = b.config) (hqueue : b'.queue = b.queue)
    (hlast : b'.lastDelivered = b.lastDelivered) (hrun : b'.lateRun = b.lateRun) :
    b'.Follows outs where
  few := by rw [hrun, resyncAfter_congr hconfig]; exact h.few
  streak := by rw [hrun, hqueue, hlast, resyncAfter_congr hconfig]; exact h.streak
  bounded := by rw [resyncAfter_congr hconfig]; exact h.bounded

/-- A buffer that forgets the stream has nothing that a packet could be late for. -/
theorem forget (h : b.Follows outs) (hconfig : b'.config = b.config) (hqueue : b'.queue = [])
    (hlast : b'.lastDelivered = none) (hrun : b'.lateRun = 0) : b'.Follows outs where
  few := by rw [hrun]; exact b'.resyncAfter_pos
  streak := by
    refine .inr ⟨hqueue, hlast, ?_⟩
    rw [resyncAfter_congr hconfig]
    rcases h.streak with hrun | ⟨-, -, hle⟩
    · exact hrun ▸ h.few.le
    · exact hle
  bounded := by rw [resyncAfter_congr hconfig]; exact h.bounded

theorem written {outcome : WriteOutcome} (h : b.Follows outs) (hconfig : b'.config = b.config)
    (hw : b.Written outcome b') : b'.Follows (outs ++ [outcome]) := by
  have hresync := resyncAfter_congr hconfig
  cases hw with
  | late playing few queue last run dropped =>
    have hstreak : lateStreak (outs ++ [.late]) = b.lateRun + 1 := by
      rw [WriteOutcome.lateStreak_append_late, h.streak_eq playing]
    refine ⟨by rwa [run, hresync], .inl (hstreak.trans run.symm), ?_⟩
    rw [hresync]
    exact bounded_append h.bounded (hstreak ▸ few.le)
  | restart playing enough queue last run dropped =>
    have hstreak : lateStreak (outs ++ [.late]) ≤ b.resyncAfter := by
      rw [WriteOutcome.lateStreak_append_late, h.streak_eq playing]
      exact h.few
    refine ⟨by rw [run]; exact b'.resyncAfter_pos, .inr ⟨queue, last, by rwa [hresync]⟩, ?_⟩
    rw [hresync]
    exact bounded_append h.bounded hstreak
  | timely inTime known run =>
    have hstreak : lateStreak (outs ++ [outcome]) = 0 :=
      WriteOutcome.lateStreak_append_of_ne inTime
    refine ⟨by rw [run]; exact b'.resyncAfter_pos, .inl (hstreak.trans run.symm), ?_⟩
    rw [hresync]
    exact bounded_append h.bounded (hstreak ▸ Nat.zero_le _)

/-- Playing a frame leaves the count, and there is a frame only where something waits. -/
theorem read (h : b.Follows outs) (now : Nat) : (b.read now).2.Follows outs := by
  unfold JitterBuffer.read
  split
  · exact h
  · rename_i q rest hqueue
    split
    · exact h
    · refine ⟨h.few, .inl (h.streak.resolve_right fun hidle => ?_), h.bounded⟩
      simp [hqueue] at hidle

theorem step (h : b.Follows outs) (c : BufferCall Packet) :
    (b.step c).2.Follows (outs ++ (b.step c).1.outcome?.toList) := by
  cases houtcome : (b.step c).1.outcome? with
  | some outcome =>
    exact h.written (congrArg Prod.fst (b.settings_step c)) (written_of_outcome? houtcome)
  | none =>
    simp only [Option.toList_none, List.append_nil]
    cases c with
    | write now p f => simp [outcome?_write] at houtcome
    | writeMapped now p =>
      cases hf : b.formats.find? p.payloadType with
      | none => rwa [b.step_of_unknown now hf]
      | some f => simp [step_writeMapped hf, outcome?_write] at houtcome
    | read now => exact h.read now
    | reset => exact h.forget rfl rfl rfl rfl

theorem meet (h : b.Follows outs) (e : BufferEvent) :
    (b.meet e).Follows (outs ++ ((b.reply? e).bind BufferReply.outcome?).toList) := by
  have hstays : b.Follows (outs ++ []) := by rwa [List.append_nil]
  cases e with
  | call c => exact h.step c
  | install formats => exact hstays.congr rfl rfl rfl rfl
  | setClock clock => exact hstays.congr rfl rfl rfl rfl

theorem make (config : JitterConfig) (clock : MediaClock) : (make config clock).Follows [] where
  few := resyncAfter_pos _
  streak := .inl rfl
  bounded := by simp

/-- By induction from the last event to the first. -/
theorem meetAll (h : b.Follows []) (events : List BufferEvent) :
    (b.meetAll events).Follows (b.outcomes events) := by
  induction events using List.reverseRecOn with
  | nil => exact h
  | append_singleton before e ih =>
    rw [outcomes_append_one, meetAll_append_one]
    exact ih.meet e

end Follows

/-! ## A buffer that starts anew and a new one -/

/-- Two buffers that differ at most in what they count and in their times. -/
structure Alike (b b' : JitterBuffer) : Prop where
  config : b'.config = b.config
  formats : b'.formats = b.formats
  queue : b'.queue = b.queue
  last : b'.lastDelivered = b.lastDelivered
  run : b'.lateRun = b.lateRun

/-- The results of two calls are alike. -/
structure AlikeAfter (r r' : WriteOutcome × JitterBuffer) : Prop where
  outcome : r'.1 = r.1
  buffer : r.2.Alike r'.2

namespace Alike

theorem observe (h : b.Alike b') (now : Nat) (timestamp : UInt32) (f : Format) :
    ((b.adoptRate f).observe now timestamp).Alike ((b'.adoptRate f).observe now timestamp) := by
  unfold adoptRate
  split <;> exact ⟨h.config, h.formats, h.queue, h.last, h.run⟩

theorem dropLate (h : b.Alike b') : b.dropLate.Alike b'.dropLate := by
  have hresync := resyncAfter_congr h.config
  have hcompleted : b'.resyncAfter ≤ b'.lateRun + 1 ↔ b.resyncAfter ≤ b.lateRun + 1 := by
    rw [hresync, h.run]
  by_cases henough : b.resyncAfter ≤ b.lateRun + 1
  · rw [dropLate_of_enough henough, dropLate_of_enough (hcompleted.2 henough)]
    exact ⟨h.config, h.formats, rfl, rfl, rfl⟩
  · rw [dropLate_of_few henough, dropLate_of_few (mt hcompleted.1 henough)]
    exact ⟨h.config, h.formats, h.queue, h.last, congrArg (· + 1) h.run⟩

theorem makeRoom (h : b.Alike b') : AlikeAfter b.makeRoom b'.makeRoom := by
  unfold JitterBuffer.makeRoom
  rw [h.config, h.queue]
  split
  · split
    · exact ⟨rfl, rfl, h.formats, rfl, rfl, h.run⟩
    · exact ⟨rfl, h⟩
  · exact ⟨rfl, h⟩

theorem enqueue (h : b.Alike b') (q : Queued) : AlikeAfter (b.enqueue q) (b'.enqueue q) := by
  unfold JitterBuffer.enqueue
  rw [h.queue]
  split
  · exact ⟨rfl, h⟩
  · exact makeRoom ⟨h.config, h.formats, rfl, h.last, h.run⟩

theorem write (h : b.Alike b') (now : Nat) (p : Packet) (f : Format) :
    AlikeAfter (b.write now p f) (b'.write now p f) := by
  have hseen := h.observe now p.timestamp f
  simp only [JitterBuffer.write]
  rw [isLate_congr hseen.last]
  split
  · exact ⟨rfl, hseen.dropLate⟩
  · have hfresh : Alike { (b.adoptRate f).observe now p.timestamp with lateRun := 0 }
        { (b'.adoptRate f).observe now p.timestamp with lateRun := 0 } :=
      ⟨hseen.config, hseen.formats, hseen.queue, hseen.last, rfl⟩
    exact hfresh.enqueue _

theorem startedAnew (h : b.Alike b') (outcome : WriteOutcome) :
    b'.startedAnew outcome = b.startedAnew outcome := by
  simp only [JitterBuffer.startedAnew, h.last]

theorem read (h : b.Alike b') (now : Nat) :
    (b'.read now).1.map Frame.untimed = (b.read now).1.map Frame.untimed ∧
      (b.read now).2.Alike (b'.read now).2 := by
  unfold JitterBuffer.read
  rw [h.queue, h.config]
  split
  · exact ⟨rfl, h⟩
  · split
    · exact ⟨rfl, h⟩
    · exact ⟨rfl, rfl, h.formats, rfl, rfl, h.run⟩

/-- The same call of buffers that are alike returns the same, up to times. -/
theorem step (h : b.Alike b') (c : BufferCall Packet) :
    (b'.step c).1.map Frame.untimed = (b.step c).1.map Frame.untimed ∧
      (b.step c).2.Alike (b'.step c).2 := by
  cases c with
  | write now p f =>
    have hw := h.write now p f
    refine ⟨?_, hw.buffer⟩
    simp only [JitterBuffer.step, BufferReply.map, hw.outcome, hw.buffer.startedAnew]
  | writeMapped now p =>
    have hw : AlikeAfter (b.writeMapped now p) (b'.writeMapped now p) := by
      unfold JitterBuffer.writeMapped
      rw [h.formats]
      split
      · exact h.write now p _
      · exact ⟨rfl, h⟩
    refine ⟨?_, hw.buffer⟩
    simp only [JitterBuffer.step, BufferReply.map, hw.outcome, hw.buffer.startedAnew]
  | read now =>
    obtain ⟨hframe, hbuffer⟩ := h.read now
    exact ⟨congrArg BufferReply.played hframe, hbuffer⟩
  | reset => exact ⟨rfl, h.config, h.formats, rfl, rfl, rfl⟩

theorem meet (h : b.Alike b') (e : BufferEvent) :
    (b'.reply? e).map (BufferReply.map Frame.untimed) =
        (b.reply? e).map (BufferReply.map Frame.untimed) ∧
      (b.meet e).Alike (b'.meet e) := by
  cases e with
  | call c =>
    obtain ⟨hreply, hbuffer⟩ := h.step c
    exact ⟨congrArg some hreply, hbuffer⟩
  | install formats => exact ⟨rfl, h.config, rfl, h.queue, h.last, h.run⟩
  | setClock clock => exact ⟨rfl, h.config, h.formats, h.queue, h.last, h.run⟩

/-- Whatever happens to buffers that are alike, they return the same, up to times. -/
theorem replies (h : b.Alike b') (events : List BufferEvent) :
    (b'.replies events).map (BufferReply.map Frame.untimed) =
      (b.replies events).map (BufferReply.map Frame.untimed) := by
  induction events generalizing b b' with
  | nil => rfl
  | cons e rest ih =>
    obtain ⟨hreply, hbuffer⟩ := h.meet e
    simp only [JitterBuffer.replies, List.map_append, ih hbuffer, ← Option.toList_map, hreply]

end Alike

/-- A buffer that has just given up what waits is like a new one with the same meaning of payload
numbers. -/
theorem alike_of_blank (hqueue : b.queue = []) (hlast : b.lastDelivered = none)
    (hrun : b.lateRun = 0) (clock : MediaClock) :
    b.Alike ((make b.config clock).meet (.install b.formats)) :=
  ⟨rfl, rfl, hqueue.symm, hlast.symm, hrun.symm⟩

/-! ## No sender is locked out -/

/-- A late packet is dropped; the buffer starts anew if it is the last of `k` in a row. -/
structure DropsLate (b b' : JitterBuffer) (outs : List WriteOutcome) (k : Nat) : Prop where
  /-- One that completes the run makes the buffer give up what waits, -/
  restart : List.replicate k WriteOutcome.late <:+ outs ++ [.late] →
    b'.queue = [] ∧ b'.lastDelivered = none ∧ b'.dropped = b.dropped + 1 + b.queue.length
  /-- and from then on the buffer returns what a new one would, up to times. -/
  anew : List.replicate k WriteOutcome.late <:+ outs ++ [.late] →
    ∀ (clock : MediaClock) (later : List BufferEvent),
      (b'.replies later).map (BufferReply.map Frame.untimed) =
        ((JitterBuffer.make b.config clock).replies (.install b.formats :: later)).map
          (BufferReply.map Frame.untimed)
  /-- One that does not is dropped, and that is all. -/
  alone : ¬ List.replicate k WriteOutcome.late <:+ outs ++ [.late] →
    b'.queue = b.queue ∧ b'.lastDelivered = b.lastDelivered ∧ b'.dropped = b.dropped + 1

theorem Follows.dropsLate (h : b.Follows outs) (hsettings : b'.settings = b.settings)
    (hw : b.Written .late b') : b.DropsLate b' outs b.resyncAfter := by
  have hcompleted : List.replicate b.resyncAfter WriteOutcome.late <:+ outs ++ [.late] ↔
      b.resyncAfter ≤ lateStreak outs + 1 := by
    rw [WriteOutcome.replicate_late_suffix_iff, WriteOutcome.lateStreak_append_late]
  cases hw with
  | late playing few queue last run dropped =>
    rw [← h.streak_eq playing] at few
    have hnot := mt hcompleted.1 (Nat.not_le_of_lt few)
    exact ⟨fun hrun => absurd hrun hnot, fun hrun => absurd hrun hnot,
      fun _ => ⟨queue, last, dropped⟩⟩
  | restart playing enough queue last run dropped =>
    rw [← h.streak_eq playing] at enough
    refine ⟨fun _ => ⟨queue, last, dropped⟩, fun _ clock later => ?_,
      fun hnot => absurd (hcompleted.2 enough) hnot⟩
    have hconfig : b'.config = b.config := congrArg Prod.fst hsettings
    have hformats : b'.formats = b.formats := congrArg Prod.snd hsettings
    have halike := alike_of_blank queue last run clock
    rw [hconfig, hformats] at halike
    exact (halike.replies later).symm
  | timely inTime => exact absurd rfl inTime

/-- A sender that starts again is never locked out. In every state that a buffer can get into, with
`k` half the number of packets that it may hold, but at least one: it has counted fewer than `k` late
packets in a row, and never were more than `k` of the packets that were written in a row late. A
late packet that does not complete `k` in a row changes nothing but the count of dropped ones. One
that does makes the buffer drop what waits and forget where playing has come to, and from then on
what becomes of packets and the frames that are played are as for a new buffer with the same
configuration and the same meaning of payload numbers, whatever its clock; only the times of the
frames may differ. -/
theorem restarted_sender_heard (config : JitterConfig) (clock : MediaClock)
    (events : List BufferEvent) :
    let b := (make config clock).meetAll events
    let outs := (make config clock).outcomes events
    let k := max 1 (config.maxPackets / 2)
    b.lateRun < k ∧
    ¬ List.replicate (k + 1) WriteOutcome.late <:+: outs ∧
    ∀ c, (b.step c).1.outcome? = some .late → b.DropsLate (b.step c).2 outs k := by
  intro b outs k
  have hfollows : b.Follows outs := (Follows.make config clock).meetAll events
  have hk : b.resyncAfter = k := by
    have hconfig : b.config = config := config_meetAll _ events
    simp only [resyncAfter, hconfig, k, Nat.max_comm]
  refine ⟨hk ▸ hfollows.few, hk ▸ hfollows.bounded, fun c hc => ?_⟩
  exact hk ▸ hfollows.dropsLate (b.settings_step c) (written_of_outcome? hc)

/-- A buffer of four packets that has played two, has a third one waiting, and then hears from a
sender that numbers from three on. -/
def numberedAnew : List BufferEvent :=
  let packet (n : UInt16) : Packet := .make 0 n 160 7 [1, 2] false
  [.install Profile.audio, .call (.writeMapped 0 (packet 10)), .call (.writeMapped 1 (packet 11)),
    .call (.writeMapped 2 (packet 12)), .call (.read 30), .call (.read 31),
    .call (.writeMapped 31 (packet 3))]

/-- The second late packet makes the buffer give up what waits, and the third packet of the sender is
played as by a new buffer. -/
theorem restarted_sender_heard_third_time :
    let packet (n : UInt16) : Packet := .make 0 n 160 7 [1, 2] false
    let b := (make ⟨20, 4⟩ (.make 8000)).meetAll numberedAnew
    let b' := (b.step (.writeMapped 51 (packet 4))).2
    let later : List BufferEvent := [.call (.writeMapped 71 (packet 5)), .call (.read 91)]
    (b.lateRun = 1 ∧ b.queue.map (·.packet.sequence) = [12] ∧ b.dropped = 1) ∧
    (b.step (.writeMapped 51 (packet 4))).1.outcome? = some .late ∧
    (b'.queue = [] ∧ b'.lastDelivered = none ∧ b'.dropped = 3) ∧
    (b'.replies later).map (BufferReply.map Frame.untimed) =
      ((make ⟨20, 4⟩ (.make 16000)).replies (.install Profile.audio :: later)).map
        (BufferReply.map Frame.untimed) ∧
    (b'.read 91).1 = none ∧ ((b'.meetAll (later.take 1)).read 91).1.map Frame.sequence = some 5 := by
  intro packet b b' later
  have hlate : (b.step (.writeMapped 51 (packet 4))).1.outcome? = some .late := by decide +kernel
  have hrun : List.replicate 2 WriteOutcome.late <:+
      (make ⟨20, 4⟩ (.make 8000)).outcomes numberedAnew ++ [.late] := by
    decide +kernel
  obtain ⟨-, -, hdrops⟩ := restarted_sender_heard ⟨20, 4⟩ (.make 8000) numberedAnew
  have hdrop := hdrops (.writeMapped 51 (packet 4)) hlate
  obtain ⟨hqueue, hlast, hdropped⟩ := hdrop.restart hrun
  have hconfig : b.config = ⟨20, 4⟩ := config_meetAll _ numberedAnew
  have hformats : b.formats = Profile.audio := by decide +kernel
  have hanew := hdrop.anew hrun (.make 16000) later
  rw [hconfig, hformats] at hanew
  exact ⟨by decide +kernel, hlate, ⟨hqueue, hlast, hdropped.trans (by decide +kernel)⟩, hanew,
    by decide +kernel, by decide +kernel⟩

end JitterBuffer

end MediaGateway
