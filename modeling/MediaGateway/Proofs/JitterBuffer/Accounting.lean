import MediaGateway.Format.Profile
import MediaGateway.Proofs.JitterBuffer.Run
import Mathlib.Data.List.Count
import Mathlib.Data.List.Forall2

/-!
# What becomes of the packets in a jitter buffer

A packet that is written to a jitter buffer waits in it, and is played, gives way when there are too
many, or is given up when the stream starts anew. Or it does not come to wait, because it is late or
has come before. The ledger of this module is kept by an onlooker who sees the calls, the replies
and the packets that wait. It books every packet under what the buffer says has become of it, and
what disappears from the queue under the call during which it does.

The accounts balance at any time, whatever the buffer is used for: nothing disappears unbooked,
nothing is booked twice, and what the buffer counts as dropped is what the ledger has under the
headings of dropped packets. `Stored` says what writing does to the queue and to that count; it is
all that the rest needs to know of it.
-/

namespace MediaGateway

/-- A frame has all that a packet that waited said. -/
structure Frame.IsOf (f : Frame) (q : Queued) : Prop where
  sequence : f.sequence = q.packet.sequence
  timestamp : f.timestamp = q.packet.timestamp
  marker : f.marker = q.packet.marker
  ssrc : f.ssrc = q.packet.ssrc
  payload : f.payload = q.packet.payload
  format : f.format = q.format

/-- What can happen to a jitter buffer. -/
inductive BufferEvent where
  /-- It is called. -/
  | call (c : BufferCall Packet)
  /-- Payload numbers get another meaning. -/
  | install (formats : FormatTable)
  /-- Someone else who holds its clock has changed it. -/
  | setClock (clock : MediaClock)

namespace JitterBuffer

/-- The buffer after an event. -/
def meet (b : JitterBuffer) : BufferEvent → JitterBuffer
  | .call c => (b.step c).2
  | .install formats => { b with formats }
  | .setClock clock => { b with clock }

/-- The buffer after some events. -/
def meetAll (b : JitterBuffer) (events : List BufferEvent) : JitterBuffer :=
  events.foldl meet b

/-- What a call writes: a packet with its arrival and its encoding, if this is known. -/
def entry? (b : JitterBuffer) : BufferCall Packet → Option Queued
  | .write now p f => some ⟨p, now, f⟩
  | .writeMapped now p => (b.formats.find? p.payloadType).map fun f => ⟨p, now, f⟩
  | .read _ | .reset => none

end JitterBuffer

/-! ## The ledger -/

/-- What has become of packets. -/
structure Ledger where
  /-- The packets that were written. -/
  written : List Queued := []
  /-- The frames that were played. -/
  frames : List Frame := []
  /-- The packets that left the queue to be played. -/
  played : List Queued := []
  /-- The packets of which there was one already. -/
  duplicates : List Queued := []
  /-- The packets that came too late. -/
  late : List Queued := []
  /-- The packets that gave way because there were too many. -/
  evicted : List Queued := []
  /-- The packets that were given up because the stream started anew. -/
  flushed : List Queued := []
deriving DecidableEq

namespace Ledger

/-- One ledger continued by another one. -/
instance : Append Ledger where
  append l m :=
    { written := l.written ++ m.written
      frames := l.frames ++ m.frames
      played := l.played ++ m.played
      duplicates := l.duplicates ++ m.duplicates
      late := l.late ++ m.late
      evicted := l.evicted ++ m.evicted
      flushed := l.flushed ++ m.flushed }

/-- The packets that were dropped. -/
def discarded (l : Ledger) : List Queued :=
  l.late ++ l.evicted ++ l.flushed

/-- The entries for a packet of which the buffer said `outcome`, with what waited `before` and
`after`. -/
def ofWrite (q : Queued) (outcome : WriteOutcome) (before after : List Queued) : Ledger :=
  match outcome with
  | .accepted => { written := [q] }
  | .duplicate => { written := [q], duplicates := [q] }
  | .overflow => { written := [q], evicted := (q :: before).diff after }
  | .late => { written := [q], late := [q], flushed := before.diff after }
  | .unknownPayload => {}

/-- The entries for a read, with what waited `before` and `after`. -/
def ofRead (frame : Option Frame) (before after : List Queued) : Ledger :=
  { frames := frame.toList, played := before.diff after }

/-- The entries for a call of a buffer. -/
def ofCall (b : JitterBuffer) (c : BufferCall Packet) : Ledger :=
  let (reply, b') := b.step c
  match reply with
  | .written outcome _ =>
    match b.entry? c with
    | some q => ofWrite q outcome b.queue b'.queue
    | none => {}
  | .played frame => ofRead frame b.queue b'.queue
  | .done => {}

/-- The ledger after an event. A reset begins a new one. -/
def enter (l : Ledger) (b : JitterBuffer) : BufferEvent → Ledger
  | .call .reset => {}
  | .call c => l ++ ofCall b c
  | .install _ | .setClock _ => l

/-- The ledger after some events. -/
def enterAll (l : Ledger) (b : JitterBuffer) : List BufferEvent → Ledger
  | [] => l
  | e :: rest => (l.enter b e).enterAll (b.meet e) rest

/-- The ledger accounts for what has changed from one state of a buffer to another one. -/
structure Accounts (l : Ledger) (b b' : JitterBuffer) : Prop where
  /-- Every packet that waited or was written is under one heading. -/
  packets : (b.queue ++ l.written).Perm (l.played ++ b'.queue ++ l.duplicates ++ l.discarded)
  /-- Every frame is the packet that left the queue to be played. -/
  frames : List.Forall₂ Frame.IsOf l.frames l.played
  /-- The buffer counts the dropped packets. -/
  dropped : b'.dropped = b.dropped + l.discarded.length
  /-- No more packets wait than may. -/
  room : b.queue.length ≤ b.config.maxPackets → b'.queue.length ≤ b.config.maxPackets
  /-- The buffer is set up as it was. -/
  config : b'.config = b.config

end Ledger

/-! ## What writing does -/

/-- What writing a packet does to the queue, and how many packets are dropped by it. -/
inductive Stored (maxPackets : Nat) (q : Queued) (queue : List Queued) :
    WriteOutcome → List Queued → Nat → Prop
  /-- It is dropped. -/
  | late : Stored maxPackets q queue .late queue 1
  /-- It is dropped, and what waits is given up. -/
  | restart : Stored maxPackets q queue .late [] (1 + queue.length)
  /-- It is not needed. -/
  | duplicate : Stored maxPackets q queue .duplicate queue 0
  /-- It waits too. -/
  | accepted {queue' : List Queued} (perm : queue'.Perm (q :: queue))
      (room : queue'.length ≤ maxPackets) : Stored maxPackets q queue .accepted queue' 0
  /-- One of those that wait then, perhaps it, gives way. -/
  | overflow {oldest : Queued} {queue' : List Queued}
      (perm : (oldest :: queue').Perm (q :: queue)) : Stored maxPackets q queue .overflow queue' 1

namespace JitterBuffer

variable (b : JitterBuffer)

theorem insertInto_perm (q : Queued) (queue : List Queued) :
    (insertInto q queue).Perm (q :: queue) := by
  induction queue with
  | nil => rfl
  | cons head rest ih =>
    unfold insertInto
    split
    · rfl
    · exact (ih.cons head).trans (.swap q head rest)

theorem dropLate_stored (q : Queued) :
    ∃ drops, Stored b.config.maxPackets q b.queue .late b.dropLate.queue drops ∧
      b.dropLate.dropped = b.dropped + drops := by
  simp only [dropLate]
  split
  · exact ⟨_, .restart, Nat.add_assoc _ _ _⟩
  · exact ⟨_, .late, rfl⟩

theorem enqueue_stored (q : Queued) :
    ∃ drops, Stored b.config.maxPackets q b.queue (b.enqueue q).1 (b.enqueue q).2.queue drops ∧
      (b.enqueue q).2.dropped = b.dropped + drops := by
  have hperm := insertInto_perm q b.queue
  unfold enqueue
  split
  · exact ⟨_, .duplicate, rfl⟩
  · unfold makeRoom
    split
    · -- There are too many packets, so that there is a first one.
      cases hqueue : insertInto q b.queue with
      | nil => rw [hqueue] at hperm; cases hperm.symm.eq_nil
      | cons oldest rest =>
        rw [hqueue] at hperm
        simp only
        exact ⟨_, .overflow hperm, rfl⟩
    · rename_i hroom
      exact ⟨_, .accepted hperm (Nat.le_of_not_lt hroom), rfl⟩

/-- What is learnt from a packet's arrival changes neither the queue nor the count. -/
theorem observe_keeps (now : Nat) (timestamp : UInt32) (f : Format) :
    let b' := (b.adoptRate f).observe now timestamp
    b'.config = b.config ∧ b'.queue = b.queue ∧ b'.dropped = b.dropped := by
  simp only [adoptRate]
  split <;> exact ⟨rfl, rfl, rfl⟩

/-- Writing a packet does one of five things. -/
theorem write_stored (now : Nat) (p : Packet) (f : Format) :
    ∃ drops, Stored b.config.maxPackets ⟨p, now, f⟩ b.queue (b.write now p f).1
        (b.write now p f).2.queue drops ∧
      (b.write now p f).2.dropped = b.dropped + drops := by
  obtain ⟨hconfig, hqueue, hdropped⟩ := b.observe_keeps now p.timestamp f
  rw [← hconfig, ← hqueue, ← hdropped]
  simp only [write]
  split
  · exact dropLate_stored _ _
  · exact enqueue_stored { (b.adoptRate f).observe now p.timestamp with lateRun := 0 } ⟨p, now, f⟩

/-- Nothing is done with a packet whose payload number has no meaning. -/
theorem step_of_unknown (now : Nat) {p : Packet} (h : b.formats.find? p.payloadType = none) :
    b.step (.writeMapped now p) = (.written .unknownPayload false, b) := by
  simp only [step, writeMapped, h]
  rfl

/-- Reading plays the first packet, or nothing. -/
theorem read_cases (now : Nat) :
    ((b.read now).1 = none ∧ (b.read now).2 = b) ∨
      ∃ q rest f, b.queue = q :: rest ∧ (b.read now).1 = some f ∧ f.IsOf q ∧
        (b.read now).2.queue = rest ∧ (b.read now).2.dropped = b.dropped := by
  unfold read
  split
  · exact .inl ⟨rfl, rfl⟩
  · rename_i q rest hqueue
    split
    · exact .inl ⟨rfl, rfl⟩
    · exact .inr ⟨q, rest, _, hqueue, rfl, ⟨rfl, rfl, rfl, rfl, rfl, rfl⟩, rfl, rfl⟩

end JitterBuffer

/-! ## The accounts are in order -/

namespace Ledger

variable {l m : Ledger} {b b' b'' : JitterBuffer}

/-- What is left of a list without one of its parts is the other part. -/
theorem diff_perm {whole part rest : List Queued} (h : whole.Perm (rest ++ part)) :
    (whole.diff part).Perm rest := by
  refine List.perm_iff_count.2 fun x => ?_
  have hcount := h.count_eq x
  rw [List.count_append] at hcount
  rw [List.count_diff]
  omega

theorem append_empty (l : Ledger) : l ++ ({} : Ledger) = l := by
  show Ledger.mk _ _ _ _ _ _ _ = l
  simp only [List.append_nil]

theorem discarded_append (l m : Ledger) :
    (l ++ m).discarded.Perm (l.discarded ++ m.discarded) := by
  refine List.perm_iff_count.2 fun x => ?_
  show List.count x ((l.late ++ m.late) ++ (l.evicted ++ m.evicted) ++ (l.flushed ++ m.flushed)) = _
  simp only [discarded, List.count_append]
  omega

/-- Nothing has to be entered where nothing happens to the packets. -/
theorem Accounts.nothing (hqueue : b'.queue = b.queue) (hdropped : b'.dropped = b.dropped)
    (hconfig : b'.config = b.config) : Accounts {} b b' where
  packets := by simp [hqueue, discarded]
  frames := .nil
  dropped := hdropped
  room := fun h => hqueue ▸ h
  config := hconfig

/-- Ledgers of changes that follow each other account for the whole change. -/
theorem Accounts.append (h : l.Accounts b b') (h' : m.Accounts b' b'') :
    (l ++ m).Accounts b b'' where
  packets := by
    refine List.perm_iff_count.2 fun x => ?_
    have hfirst := h.packets.count_eq x
    have hsecond := h'.packets.count_eq x
    have hdiscarded := (discarded_append l m).count_eq x
    show List.count x (b.queue ++ (l.written ++ m.written)) =
      List.count x ((l.played ++ m.played) ++ b''.queue ++ (l.duplicates ++ m.duplicates) ++
        (l ++ m).discarded)
    simp only [List.count_append] at hfirst hsecond hdiscarded ⊢
    omega
  frames := List.rel_append h.frames h'.frames
  dropped := by
    rw [h'.dropped, h.dropped, (discarded_append l m).length_eq, List.length_append, Nat.add_assoc]
  room := fun hroom => h.config ▸ h'.room (h.config ▸ h.room hroom)
  config := h'.config.trans h.config

/-- The entries for a written packet account for what writing does. -/
theorem accounts_ofWrite {q : Queued} {outcome : WriteOutcome} {drops : Nat}
    (hstored : Stored b.config.maxPackets q b.queue outcome b'.queue drops)
    (hdropped : b'.dropped = b.dropped + drops) (hconfig : b'.config = b.config) :
    (ofWrite q outcome b.queue b'.queue).Accounts b b' := by
  generalize hqueue : b'.queue = queue' at hstored
  cases hstored with
  | late =>
    have hnone : b.queue.diff b.queue = [] := (diff_perm (.refl b.queue)).eq_nil
    refine ⟨?_, .nil, ?_, fun hroom => hqueue ▸ hroom, hconfig⟩
    · simp [ofWrite, discarded, hqueue, hnone]
    · simp [ofWrite, discarded, hnone, hdropped]
  | restart =>
    refine ⟨?_, .nil, ?_, fun _ => by simp [hqueue], hconfig⟩
    · simp [ofWrite, discarded, hqueue]
    · rw [hdropped, Nat.add_comm 1]
      simp [ofWrite, discarded]
  | duplicate =>
    refine ⟨?_, .nil, hdropped, fun hroom => hqueue ▸ hroom, hconfig⟩
    simp [ofWrite, discarded, hqueue]
  | accepted hperm hroom =>
    refine ⟨?_, .nil, hdropped, fun _ => hqueue ▸ hroom, hconfig⟩
    have hlast : (b.queue ++ [q]).Perm queue' :=
      (List.perm_append_singleton q b.queue).trans hperm.symm
    simpa [ofWrite, discarded, hqueue] using hlast
  | @overflow oldest _ hperm =>
    have hgone : ((q :: b.queue).diff queue').Perm [oldest] := diff_perm hperm.symm
    refine ⟨?_, .nil, ?_, fun hroom => ?_, hconfig⟩
    · have hlast : (b.queue ++ [q]).Perm (queue' ++ (q :: b.queue).diff queue') :=
        calc
          List.Perm (b.queue ++ [q]) (q :: b.queue) := List.perm_append_singleton q b.queue
          List.Perm _ (oldest :: queue') := hperm.symm
          List.Perm _ (queue' ++ [oldest]) := (List.perm_append_singleton oldest queue').symm
          List.Perm _ _ := hgone.symm.append_left queue'
      simpa [ofWrite, discarded, hqueue] using hlast
    · simpa [ofWrite, discarded, hdropped] using hgone.length_eq.symm
    · have hlength := hperm.length_eq
      rw [List.length_cons, List.length_cons] at hlength
      rw [hqueue]
      omega

/-- The entries for a read account for what reading does. -/
theorem accounts_ofRead (b : JitterBuffer) (now : Nat) :
    (ofRead (b.read now).1 b.queue (b.read now).2.queue).Accounts b (b.read now).2 := by
  have hconfig : (b.read now).2.config = b.config := congrArg Prod.fst (b.settings_read now)
  obtain ⟨hframe, hsame⟩ | ⟨q, rest, f, hqueue, hframe, hf, hrest, hdropped⟩ := b.read_cases now
  · have hnone : b.queue.diff b.queue = [] := (diff_perm (.refl b.queue)).eq_nil
    rw [hframe, hsame, ofRead, hnone]
    exact .nothing rfl rfl rfl
  · have hone : (q :: rest).diff rest = [q] :=
      List.perm_singleton.1 (diff_perm (.refl (q :: rest)))
    rw [hframe, hrest, hqueue, ofRead, hone]
    refine ⟨?_, .cons hf .nil, hdropped, fun hroom => ?_, hconfig⟩
    · simp [discarded, hqueue, hrest]
    · rw [hqueue, List.length_cons] at hroom
      rw [hrest]
      omega

/-- Nothing is entered for a packet whose payload number has no meaning. -/
theorem ofCall_of_unknown (now : Nat) {p : Packet} (h : b.formats.find? p.payloadType = none) :
    ofCall b (.writeMapped now p) = {} := by
  simp only [ofCall, b.step_of_unknown now h, JitterBuffer.entry?, h, Option.map_none]

/-- The entries for a call account for what the call does. -/
theorem accounts_ofCall (b : JitterBuffer) {c : BufferCall Packet} (h : c ≠ .reset) :
    (ofCall b c).Accounts b (b.step c).2 := by
  cases c with
  | write now p f =>
    obtain ⟨drops, hstored, hdropped⟩ := b.write_stored now p f
    exact accounts_ofWrite hstored hdropped (congrArg Prod.fst (b.settings_write now p f))
  | writeMapped now p =>
    cases hf : b.formats.find? p.payloadType with
    | none =>
      rw [ofCall_of_unknown now hf, b.step_of_unknown now hf]
      exact .nothing rfl rfl rfl
    | some f =>
      have hwrite : b.writeMapped now p = b.write now p f := by
        simp only [JitterBuffer.writeMapped, hf]
      obtain ⟨drops, hstored, hdropped⟩ := b.write_stored now p f
      simp only [ofCall, JitterBuffer.step, JitterBuffer.entry?, hf, hwrite]
      exact accounts_ofWrite hstored hdropped (congrArg Prod.fst (b.settings_write now p f))
  | read now => exact accounts_ofRead b now
  | reset => exact absurd rfl h

/-- The accounts are in order after one more event. A buffer that was reset is as blank as a new
one. -/
theorem Accounts.enter {blank : JitterBuffer} (hqueue : blank.queue = [])
    (hdropped : blank.dropped = 0) (h : l.Accounts blank b) (e : BufferEvent) :
    (l.enter b e).Accounts blank (b.meet e) := by
  cases e with
  | call c =>
    by_cases hc : c = .reset
    · subst hc
      exact .nothing hqueue.symm hdropped.symm h.config
    · have hstep := h.append (accounts_ofCall b hc)
      cases c with
      | reset => exact absurd rfl hc
      | _ => exact hstep
  | install formats => exact ⟨h.packets, h.frames, h.dropped, h.room, h.config⟩
  | setClock clock => exact ⟨h.packets, h.frames, h.dropped, h.room, h.config⟩

theorem Accounts.enterAll {blank : JitterBuffer} (hqueue : blank.queue = [])
    (hdropped : blank.dropped = 0) (h : l.Accounts blank b) (events : List BufferEvent) :
    (l.enterAll b events).Accounts blank (b.meetAll events) := by
  induction events generalizing l b with
  | nil => exact h
  | cons e rest ih => exact ih (h.enter hqueue hdropped e)

end Ledger

namespace JitterBuffer

/-- At any time, the packets that were written to a buffer since it was made or reset are those that
were played, each as a frame that has all it said, those that wait, the duplicates, and those that
were dropped because they were late, gave way or were given up. The buffer counts exactly the
dropped ones and never holds more packets than it may. A packet whose payload number has no meaning
changes neither the buffer nor the accounts. -/
theorem packets_accounted_for (config : JitterConfig) (clock : MediaClock)
    (events : List BufferEvent) :
    let b := (make config clock).meetAll events
    let l := Ledger.enterAll {} (make config clock) events
    l.written.Perm (l.played ++ b.queue ++ l.duplicates ++ (l.late ++ l.evicted ++ l.flushed)) ∧
      List.Forall₂ Frame.IsOf l.frames l.played ∧
      b.dropped = (l.late ++ l.evicted ++ l.flushed).length ∧
      b.queue.length ≤ config.maxPackets ∧
      ∀ now p, (b.writeMapped now p).1 = .unknownPayload →
        b.meet (.call (.writeMapped now p)) = b ∧ l.enter b (.call (.writeMapped now p)) = l := by
  intro b l
  have h : l.Accounts (make config clock) b :=
    Ledger.Accounts.enterAll rfl rfl (.nothing rfl rfl rfl) events
  have hdropped : b.dropped = 0 + l.discarded.length := h.dropped
  refine ⟨h.packets, h.frames, hdropped.trans (Nat.zero_add _), h.room (Nat.zero_le _), ?_⟩
  intro now p hunknown
  have hf := (writeMapped_eq_unknownPayload b now p).1 hunknown
  have henter : l.enter b (.call (.writeMapped now p)) =
      l ++ Ledger.ofCall b (.writeMapped now p) := rfl
  rw [henter, Ledger.ofCall_of_unknown now hf, Ledger.append_empty]
  exact ⟨congrArg Prod.snd (b.step_of_unknown now hf), rfl⟩

/-- A buffer of two packets to which one comes twice, one too many comes and one comes late, upon
which the stream starts anew. -/
def troubledStream : List BufferEvent :=
  let packet (n : UInt16) : Packet := .make 0 n 160 7 [1, 2] false
  [.install Profile.audio, .call (.writeMapped 0 (packet 5)), .call (.writeMapped 1 (packet 5)),
    .call (.writeMapped 2 (packet 7)), .call (.writeMapped 3 (packet 6)), .setClock (.make 16000),
    .call (.read 30), .call (.writeMapped 31 (packet 4)), .call (.writeMapped 32 (packet 9))]

theorem packets_accounted_for_troubledStream :
    let b := (make ⟨20, 2⟩ (.make 8000)).meetAll troubledStream
    let l := Ledger.enterAll {} (make ⟨20, 2⟩ (.make 8000)) troubledStream
    let stray : Packet := .make 77 10 160 7 [1, 2] false
    (l.written.map (·.packet.sequence) = [5, 5, 7, 6, 4, 9] ∧ l.frames.map (·.sequence) = [6] ∧
      b.queue.map (·.packet.sequence) = [9] ∧ l.duplicates.map (·.packet.sequence) = [5] ∧
      l.late.map (·.packet.sequence) = [4] ∧ l.evicted.map (·.packet.sequence) = [5] ∧
      l.flushed.map (·.packet.sequence) = [7]) ∧
    b.dropped = 3 ∧ (b.writeMapped 33 stray).1 = .unknownPayload ∧
    l.enter b (.call (.writeMapped 33 stray)) = l := by
  intro b l stray
  obtain ⟨-, -, hdropped, -, hunknown⟩ :=
    packets_accounted_for ⟨20, 2⟩ (.make 8000) troubledStream
  have hdiscarded : (l.late ++ l.evicted ++ l.flushed).length = 3 := by decide +kernel
  have hstray : (b.writeMapped 33 stray).1 = .unknownPayload := by decide +kernel
  exact ⟨by decide +kernel, hdropped.trans hdiscarded, hstray, (hunknown 33 stray hstray).2⟩

end JitterBuffer

end MediaGateway
