import MediaGateway.Proofs.JitterBuffer.Unbounded

/-!
# Reordering within the tolerance

A packet is lost to reordering only if a packet behind it in the stream is played first. Every packet
is held for the tolerance after its arrival, so that does not happen to a stream in which no packet
comes later than the tolerance after one that it belongs before. Such a stream leaves the buffer
complete and in order, however writing and reading alternate.

The proof follows the unbounded buffer. `Playing` says what was played and what waits: together they
are what was written, in the order of the stream. That every packet still to come belongs behind
what was played is the part of the invariant that a read needs the promise for.
-/

namespace MediaGateway

/-- A use of a jitter buffer by someone who writes packets of known encoding and reads frames. -/
inductive Access where
  /-- Writes a packet at the time of its arrival. -/
  | write (packet : Waiting)
  /-- Reads the next frame. -/
  | read (now : Nat)
deriving DecidableEq, Repr

namespace Access

/-- The call of the buffer. -/
def call : Access → BufferCall (Numbered Packet)
  | write q => .write q.arrival ⟨q.number, q.packet⟩ q.format
  | read now => .read now

/-- The packets that are written, in the order of their arrival. -/
def written : List Access → List Waiting
  | [] => []
  | write q :: rest => q :: written rest
  | read _ :: rest => written rest

/-- When a read could play a packet of the `past`, all packets that belong before it have been
written: those still to be written belong behind it. -/
def Timely (tolerance : Nat) (past : List Waiting) : List Access → Prop
  | [] => True
  | write q :: rest => Timely tolerance (past ++ [q]) rest
  | read now :: rest =>
    (∀ v ∈ past, v.arrival + tolerance ≤ now → ∀ w ∈ written rest, v.number < w.number) ∧
      Timely tolerance past rest

instance decidableTimely (tolerance : Nat) :
    (past : List Waiting) → (run : List Access) → Decidable (Timely tolerance past run)
  | _, [] => isTrue trivial
  | past, write q :: rest => decidableTimely tolerance (past ++ [q]) rest
  | past, read _ :: rest =>
    have := decidableTimely tolerance past rest
    inferInstanceAs (Decidable (_ ∧ _))

end Access

namespace BufferReply

variable {φ ψ : Type}

/-- The frames among the replies of a buffer. -/
def frames : List (BufferReply φ) → List φ
  | [] => []
  | played frame :: rest => frame.toList ++ frames rest
  | written _ _ :: rest => frames rest
  | done :: rest => frames rest

theorem frames_map (f : φ → ψ) (replies : List (BufferReply φ)) :
    frames (replies.map (map f)) = (frames replies).map f := by
  induction replies with
  | nil => rfl
  | cons r rest ih => cases r <;> simp [frames, map, ih, Option.toList_map]

/-- If a packet was written, it waits to be played, and nothing gave way for it. -/
def Kept : BufferReply φ → Prop
  | written outcome restarted => outcome = .accepted ∧ restarted = false
  | played _ => True
  | done => True

theorem kept_map {f : φ → ψ} {r : BufferReply φ} : (r.map f).Kept ↔ r.Kept := by
  cases r <;> rfl

end BufferReply

/-- A frame has all that a packet said. -/
structure Frame.Carries (f : Frame) (q : Waiting) : Prop where
  /-- The low 16 bits of its place in the stream. -/
  sequence : f.sequence = Sequence.wrap q.number
  /-- Its timestamp. -/
  timestamp : f.timestamp = q.packet.timestamp
  /-- Its source. -/
  ssrc : f.ssrc = q.packet.ssrc
  /-- Its media. -/
  payload : f.payload = q.packet.payload
  /-- Its mark. -/
  marker : f.marker = q.packet.marker
  /-- Its encoding. -/
  format : f.format = q.format

namespace UnboundedBuffer

variable {u : UnboundedBuffer}

/-! ## The promise -/

/-- Every write of a run finds room. -/
def HasRoom : UnboundedBuffer → List (BufferCall (Numbered Packet)) → Prop
  | _, [] => True
  | u, c :: rest =>
    (c.packet?.isSome → u.queue.length < u.config.maxPackets) ∧ HasRoom (u.step c).2 rest

instance decidableHasRoom :
    (u : UnboundedBuffer) → (calls : List (BufferCall (Numbered Packet))) →
      Decidable (u.HasRoom calls)
  | _, [] => isTrue trivial
  | u, c :: rest =>
    have := decidableHasRoom (u.step c).2 rest
    inferInstanceAs (Decidable (_ ∧ _))

/-- What a run has to promise: no packet comes twice, none comes too late for the tolerance, and
neither the numbering nor the size of the buffer is overstrained. -/
structure Orderly (u : UnboundedBuffer) (run : List Access) : Prop where
  /-- Every place in the stream is written once. -/
  distinct : ((Access.written run).map Waiting.number).Nodup
  /-- Packets come before those behind them can be played. -/
  timely : Access.Timely u.config.tolerance [] run
  /-- Every packet lies within the window in which 16 bits tell its place. -/
  admitted : u.AdmitsAll (run.map Access.call)
  /-- The buffer is never full when a packet comes. -/
  room : u.HasRoom (run.map Access.call)

/-! ## The queue -/

theorem insertInto_perm (q : Waiting) (queue : List Waiting) :
    (insertInto q queue).Perm (q :: queue) := by
  induction queue with
  | nil => rfl
  | cons r rest ih =>
    simp only [insertInto]
    split
    · rfl
    · exact (ih.cons r).trans (.swap q r rest)

theorem mem_insertInto {q r : Waiting} {queue : List Waiting} :
    r ∈ insertInto q queue ↔ r = q ∨ r ∈ queue :=
  (insertInto_perm q queue).mem_iff.trans List.mem_cons

/-- A packet of its own number is queued where it belongs. -/
theorem insertInto_ordered {q : Waiting} {queue : List Waiting}
    (h : queue.Pairwise fun v w => v.number < w.number) (hq : ∀ r ∈ queue, r.number ≠ q.number) :
    (insertInto q queue).Pairwise fun v w => v.number < w.number := by
  induction queue with
  | nil => simp [insertInto]
  | cons r rest ih =>
    obtain ⟨hr, hrest⟩ := List.pairwise_cons.1 h
    have hne := hq r (by simp)
    simp only [insertInto]
    split
    · refine List.pairwise_cons.2 ⟨fun w hw => ?_, h⟩
      rcases List.mem_cons.1 hw with rfl | hw
      · assumption
      · have := hr w hw
        omega
    · refine List.pairwise_cons.2 ⟨fun w hw => ?_, ih hrest fun w hw => hq w (by simp [hw])⟩
      rcases mem_insertInto.1 hw with rfl | hw
      · omega
      · exact hr w hw

/-- What is learnt from the arrival of a packet concerns the clock and the jitter estimate only. -/
theorem adoptRate_observe (u : UnboundedBuffer) (f : Format) (now : Nat) (timestamp : UInt32) :
    ∃ clock transit scaledJitter, (u.adoptRate f).observe now timestamp =
      { u with clock, transit, scaledJitter } := by
  simp only [adoptRate]
  split <;> exact ⟨_, _, _, rfl⟩

/-- A packet that is not late, not queued and finds room is queued. -/
theorem write_accepted {q : Waiting} (hlate : u.isLate q.number = false)
    (hnew : ∀ r ∈ u.queue, r.number ≠ q.number) (hroom : u.queue.length < u.config.maxPackets) :
    ∃ clock transit scaledJitter, u.write q.arrival ⟨q.number, q.packet⟩ q.format =
      (.accepted, { u with
        clock
        transit
        scaledJitter
        lateRun := 0
        queue := insertInto q u.queue }) := by
  obtain ⟨clock, transit, jitter, ho⟩ :=
    adoptRate_observe u q.format q.arrival q.packet.timestamp
  have hany : (u.queue.any fun r => r.number == q.number) = false := by simpa using hnew
  have hlen := (insertInto_perm q u.queue).length_eq
  refine ⟨clock, transit, jitter, ?_⟩
  simp only [write, ho]
  split
  · rename_i h
    exact absurd h (Bool.eq_false_iff.1 hlate)
  · simp only [enqueue, hany, Bool.false_eq_true, if_false, makeRoom]
    rw [if_neg]
    simp only [hlen, List.length_cons]
    omega

/-- A packet that has been held long enough is played with all that it said. -/
theorem read_due {q : Waiting} {rest : List Waiting} {now : Nat} (hq : u.queue = q :: rest)
    (hdue : q.arrival + u.config.tolerance ≤ now) :
    ∃ f lastDurationMs, Frame.Carries (Numbered.frame f) q ∧ u.read now =
      (some f, { u with queue := rest, lastDurationMs, lastDelivered := some q.number }) := by
  simp only [read, hq]
  rw [if_neg (by omega)]
  exact ⟨_, _, ⟨rfl, rfl, rfl, rfl, rfl, rfl⟩, rfl⟩

/-- Nothing is played before the first packet has been held long enough. -/
theorem read_early {q : Waiting} {rest : List Waiting} {now : Nat} (hq : u.queue = q :: rest)
    (hearly : now < q.arrival + u.config.tolerance) : u.read now = (none, u) := by
  simp only [read, hq]
  rw [if_pos hearly]

/-! ## The invariant -/

/-- Of the packets of the `past`, those in `played` were played and all others wait, and together they
are in the order of the stream. -/
structure Playing (u : UnboundedBuffer) (played past : List Waiting) : Prop where
  /-- What was played and what waits is what was written. -/
  kept : (played ++ u.queue).Perm past
  /-- It is in the order of the stream. -/
  ordered : (played ++ u.queue).Pairwise fun v w => v.number < w.number
  /-- The last packet played is where playing has come to. -/
  pointer : u.lastDelivered = played.getLast?.map Waiting.number
  /-- Nothing was dropped. -/
  dropped : u.dropped = 0

theorem playing_make (config : JitterConfig) (clock : MediaClock) :
    (make config clock).Playing [] [] where
  kept := .refl []
  ordered := .nil
  pointer := rfl
  dropped := rfl

variable {played past : List Waiting}

/-- A packet behind all that was played is not late. -/
theorem Playing.not_late (h : u.Playing played past) {n : Int}
    (hn : ∀ v ∈ played, v.number < n) : u.isLate n = false := by
  simp only [isLate, h.pointer]
  cases hl : played.getLast? with
  | none => rfl
  | some v =>
    have := hn v (List.mem_of_getLast? hl)
    simpa using this

/-- Writing a packet that belongs behind all that was played. -/
theorem Playing.write (h : u.Playing played past) {q : Waiting}
    (hnew : ∀ v ∈ past, v.number ≠ q.number) (hahead : ∀ v ∈ played, v.number < q.number)
    (hroom : u.queue.length < u.config.maxPackets) :
    ∃ u', u.step (.write q.arrival ⟨q.number, q.packet⟩ q.format) =
        (.written .accepted false, u') ∧
      u'.config = u.config ∧ u'.Playing played (past ++ [q]) := by
  have hq : ∀ r ∈ u.queue, r.number ≠ q.number := fun r hr =>
    hnew r (h.kept.subset (List.mem_append_right _ hr))
  obtain ⟨clock, transit, jitter, hw⟩ := write_accepted (h.not_late hahead) hq hroom
  obtain ⟨hp, hqueue, hcross⟩ := List.pairwise_append.1 h.ordered
  have hs : u.step (.write q.arrival ⟨q.number, q.packet⟩ q.format) = (.written .accepted false,
      { u with
        clock := clock
        transit := transit
        scaledJitter := jitter
        lateRun := 0
        queue := insertInto q u.queue }) := by
    simp only [step, hw]
    rfl
  refine ⟨_, hs, rfl, ?_, ?_, h.pointer, h.dropped⟩
  · have hw : (played ++ insertInto q u.queue).Perm (played ++ q :: u.queue) :=
      (insertInto_perm q u.queue).append_left played
    have hp : (q :: (played ++ u.queue)).Perm (past ++ [q]) :=
      (h.kept.cons q).trans (List.perm_append_singleton q past).symm
    exact (hw.trans List.perm_middle).trans hp
  · refine List.pairwise_append.2 ⟨hp, insertInto_ordered hqueue hq, fun v hv w hw => ?_⟩
    rcases mem_insertInto.1 hw with rfl | hw
    · exact hahead v hv
    · exact hcross v hv w hw

/-- Reading, if the packets still to come belong behind whatever is due. -/
theorem Playing.read (h : u.Playing played past) {now : Nat} {future : List Waiting}
    (hahead : ∀ v ∈ played, ∀ w ∈ future, v.number < w.number)
    (htimely : ∀ v ∈ past, v.arrival + u.config.tolerance ≤ now → ∀ w ∈ future,
      v.number < w.number) :
    ∃ frame u' more, u.step (.read now) = (.played frame, u') ∧ u'.config = u.config ∧
      u'.Playing (played ++ more) past ∧
      (∀ v ∈ played ++ more, ∀ w ∈ future, v.number < w.number) ∧
      List.Forall₂ Frame.Carries (frame.map Numbered.frame).toList more := by
  have hnone : u.read now = (none, u) → ∃ frame u' more,
      u.step (.read now) = (.played frame, u') ∧ u'.config = u.config ∧
      u'.Playing (played ++ more) past ∧
      (∀ v ∈ played ++ more, ∀ w ∈ future, v.number < w.number) ∧
      List.Forall₂ Frame.Carries (frame.map Numbered.frame).toList more := fun hr =>
    ⟨none, u, [], by simp only [step, hr], rfl, by simpa using h, by simpa using hahead, .nil⟩
  cases hq : u.queue with
  | nil => exact hnone (by simp only [UnboundedBuffer.read, hq])
  | cons q rest =>
    by_cases hdue : q.arrival + u.config.tolerance ≤ now
    · obtain ⟨f, duration, hf, hr⟩ := read_due hq hdue
      have hmem : q ∈ past := h.kept.subset (by simp [hq])
      have hs : u.step (.read now) = (.played (some f), { u with
          queue := rest
          lastDurationMs := duration
          lastDelivered := some q.number }) := by
        simp only [step, hr]
      refine ⟨some f, _, [q], hs, rfl, ⟨?_, ?_, by simp, h.dropped⟩, fun v hv w hw => ?_,
        .cons hf .nil⟩
      · simpa [hq] using h.kept
      · simpa [hq] using h.ordered
      · rcases List.mem_append.1 hv with hv | hv
        · exact hahead v hv w hw
        · obtain rfl := List.mem_singleton.1 hv
          exact htimely v hmem hdue w hw
    · exact hnone (read_early hq (by omega))

/-- The invariant along a run, by induction on the run. The packets still to be written stay ahead of
those played: a read plays a packet only when the promise puts it before all of them. -/
theorem Playing.run {run : List Access} (h : u.Playing played past)
    (hdistinct : ((past ++ Access.written run).map Waiting.number).Nodup)
    (hahead : ∀ v ∈ played, ∀ w ∈ Access.written run, v.number < w.number)
    (htimely : Access.Timely u.config.tolerance past run)
    (hroom : u.HasRoom (run.map Access.call)) :
    (∀ s ∈ u.trace (run.map Access.call), s.1.Kept ∧ s.2.dropped = 0) ∧
      (u.after (run.map Access.call)).config = u.config ∧
      ∃ more, (u.after (run.map Access.call)).Playing (played ++ more)
          (past ++ Access.written run) ∧
        List.Forall₂ Frame.Carries
          ((BufferReply.frames ((u.trace (run.map Access.call)).map (·.1))).map Numbered.frame)
          more := by
  induction run generalizing u played past with
  | nil => exact ⟨by simp [trace], rfl, [], by simpa [Access.written, after] using h, .nil⟩
  | cons a rest ih =>
    obtain ⟨hfits, hroom⟩ := hroom
    cases a with
    | write q =>
      have hnew : ∀ v ∈ past, v.number ≠ q.number := by
        intro v hv e
        rw [Access.written, List.map_append, List.nodup_append] at hdistinct
        exact hdistinct.2.2 v.number (List.mem_map_of_mem hv) q.number (by simp) e
      obtain ⟨u', hs, hc, h'⟩ := h.write hnew (fun v hv => hahead v hv q (by simp [Access.written]))
        (hfits rfl)
      simp only [Access.call, hs] at hroom
      obtain ⟨hall, hconfig, more, hplaying, hframes⟩ := ih h'
        (by simpa [Access.written] using hdistinct)
        (fun v hv w hw => hahead v hv w (List.mem_cons_of_mem q hw))
        (by rw [hc]; exact htimely) hroom
      simp only [List.map_cons, Access.call, trace, after, hs]
      refine ⟨List.forall_mem_cons.2 ⟨⟨⟨rfl, rfl⟩, h'.dropped⟩, hall⟩, hconfig.trans hc, more, ?_,
        hframes⟩
      simpa [Access.written] using hplaying
    | read now =>
      obtain ⟨hdue, htimely⟩ := htimely
      obtain ⟨frame, u', first, hs, hc, h', hahead', hfirst⟩ := h.read hahead hdue
      simp only [Access.call, hs] at hroom
      obtain ⟨hall, hconfig, more, hplaying, hframes⟩ := ih h' hdistinct hahead'
        (by rw [hc]; exact htimely) hroom
      simp only [List.map_cons, Access.call, trace, after, hs]
      refine ⟨List.forall_mem_cons.2 ⟨⟨trivial, h'.dropped⟩, hall⟩, hconfig.trans hc,
        first ++ more, ?_, ?_⟩
      · simpa [Access.written] using hplaying
      · rw [Option.toList_map] at hfirst
        simpa [BufferReply.frames] using List.rel_append hfirst hframes

/-! ## Draining -/

/-- When every packet that waits has been held long enough, all are played. -/
theorem drain_due {now : Nat} (hdue : ∀ q ∈ u.queue, q.arrival + u.config.tolerance ≤ now) :
    ∃ frames b, u.wrap.drain now = (frames, b) ∧ List.Forall₂ Frame.Carries frames u.queue ∧
      b.queue = [] ∧ b.dropped = u.dropped := by
  have hlen : u.wrap.queue.length = u.queue.length := by simp [UnboundedBuffer.wrap]
  simp only [JitterBuffer.drain, hlen]
  generalize hqueue : u.queue = queue at hdue ⊢
  induction queue generalizing u with
  | nil =>
    have hempty : u.wrap.queue = [] := by simp [UnboundedBuffer.wrap, hqueue]
    exact ⟨[], u.wrap, rfl, .nil, hempty, rfl⟩
  | cons q rest ih =>
    obtain ⟨hq, hrest⟩ := List.forall_mem_cons.1 hdue
    obtain ⟨f, duration, hf, hr⟩ := read_due hqueue hq
    obtain ⟨frames, b, hd, hframes, hb, hdropped⟩ := ih (u := (u.read now).2)
      (by simp [UnboundedBuffer.wrap, hr]) (by rw [hr]) (by rw [hr]; exact hrest)
    refine ⟨Numbered.frame f :: frames, b, ?_, .cons hf hframes, hb, ?_⟩
    · have hread : u.wrap.read now = (some (Numbered.frame f), (u.read now).2.wrap) := by
        rw [read_wrap, hr]
        rfl
      simp only [List.length_cons, JitterBuffer.readUpTo, hread, hd]
    · rw [hdropped, hr]

/-! ## The result -/

/-- A stream that keeps its promise goes through a new jitter buffer complete and in order. Every
write is accepted, nothing is dropped, and what the reads and a final draining hand out is what was
written, in the order of the stream. Nothing is said about the times of the calls beyond the promise:
the wall time may even go back. -/
theorem reordering_within_tolerance (config : JitterConfig) (clock : MediaClock)
    (run : List Access) (h : (make config clock).Orderly run) (finish : Nat)
    (hfinish : ∀ q ∈ Access.written run, q.arrival + config.tolerance ≤ finish) :
    let calls := run.map fun a => a.call.map Numbered.packet
    let trace := (JitterBuffer.make config clock).trace calls
    let drained := ((JitterBuffer.make config clock).after calls).drain finish
    (∀ s ∈ trace, s.1.Kept ∧ s.2.dropped = 0) ∧
      drained.2.queue = [] ∧ drained.2.dropped = 0 ∧
      ∃ played, played.Perm (Access.written run) ∧
        played.Pairwise (fun v w => v.number < w.number) ∧
        List.Forall₂ Frame.Carries (BufferReply.frames (trace.map (·.1)) ++ drained.1) played := by
  intro calls trace drained
  have hcalls : calls = (run.map Access.call).map (BufferCall.map Numbered.packet) := by
    simp [calls]
  obtain ⟨hall, hconfig, more, hplaying, hframes⟩ :=
    (playing_make config clock).run (by simpa using h.distinct) (by simp) h.timely h.room
  have htrace : trace = ((make config clock).trace (run.map Access.call)).map
      fun s => (s.1.map Numbered.frame, s.2.wrap) := by
    rw [← trace_wrap h.admitted, ← hcalls]
    rfl
  have hafter : (JitterBuffer.make config clock).after calls =
      ((make config clock).after (run.map Access.call)).wrap := by
    rw [← after_wrap h.admitted, ← hcalls]
    rfl
  simp only [List.nil_append] at hplaying
  have hdue : ∀ q ∈ ((make config clock).after (run.map Access.call)).queue,
      q.arrival + ((make config clock).after (run.map Access.call)).config.tolerance ≤ finish := by
    intro q hq
    rw [hconfig]
    exact hfinish q (hplaying.kept.subset (List.mem_append_right more hq))
  obtain ⟨frames, b, hd, hrest, hempty, hdropped⟩ := drain_due hdue
  have hdrained : drained = (frames, b) := by
    simp only [drained, hafter, hd]
  refine ⟨?_, ?_, ?_, more ++ ((make config clock).after (run.map Access.call)).queue,
    hplaying.kept, hplaying.ordered, ?_⟩
  · rw [htrace, List.forall_mem_map]
    exact fun s hs => ⟨BufferReply.kept_map.2 (hall s hs).1, (hall s hs).2⟩
  · rw [hdrained, hempty]
  · rw [hdrained, hdropped, hplaying.dropped]
  · have hmap : BufferReply.frames (trace.map (·.1)) = (BufferReply.frames
        (((make config clock).trace (run.map Access.call)).map (·.1))).map Numbered.frame := by
      rw [htrace, ← BufferReply.frames_map, List.map_map, List.map_map]
      rfl
    rw [hmap, hdrained]
    exact List.rel_append hframes hrest

/-- A stream from 65534 to 65538 whose third packet overtakes the second, and whose fifth comes
before the fourth but not too early for it. -/
def overtakingStream : List Access :=
  let packet (n : Int) (arrival : Nat) : Access :=
    .write ⟨n, ⟨n == 65534, 0, 0, 160, 7, [1, 2]⟩, arrival, .make 0 "PCMU" 8000⟩
  [packet 65534 0, .read 10, packet 65536 20, .read 30, packet 65535 39, .read 40, packet 65538 60,
    .read 60, packet 65537 79, .read 80, .read 99]

theorem reordering_within_tolerance_overtakingStream :
    (make ⟨20, 4⟩ (.make 8000)).Orderly overtakingStream ∧
      (∀ q ∈ Access.written overtakingStream, q.arrival + 20 ≤ 100) ∧
      (((JitterBuffer.make ⟨20, 4⟩ (.make 8000)).after
        (overtakingStream.map fun a => a.call.map Numbered.packet)).drain 100).2.queue = [] := by
  have h : (make ⟨20, 4⟩ (.make 8000)).Orderly overtakingStream :=
    ⟨by decide +kernel, by decide +kernel, by decide +kernel, by decide +kernel⟩
  have hfinish : ∀ q ∈ Access.written overtakingStream, q.arrival + 20 ≤ 100 := by
    decide +kernel
  exact ⟨h, hfinish,
    (reordering_within_tolerance ⟨20, 4⟩ (.make 8000) overtakingStream h 100 hfinish).2.1⟩

end UnboundedBuffer

end MediaGateway
