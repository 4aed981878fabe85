import MediaGateway.Proofs.JitterBuffer.Restart
import Mathlib.Algebra.Group.Nat.Defs
import Mathlib.Order.Iterate

/-!
# The jitter estimate

The estimate is kept scaled by sixteen in a word. Whenever the transit time of a packet differs by `d`
from the one before, `d` is added and a sixteenth of the scaled estimate, rounded, is taken away. The
sum may pass the largest word before the sixteenth is taken away, and what is rounded may have to
stop there.

As long as all differences stay below `D`, the scaled estimate stays within `16 * D + 7`. So if they are
below a sixteenth of the words, nothing is lost and the estimate is what the integers give. A constant
difference draws the estimate to itself from wherever it is: what separates the two loses a
sixteenth with every packet, and at least one.
-/

namespace MediaGateway

namespace JitterBuffer

variable {s d : UInt32} {D n : Nat}

/-! ## One step of the estimate -/

theorem toNat_decay (s : UInt32) : (decay s).toNat = min (s.toNat + 8) (2 ^ 32 - 1) / 16 := by
  have hs := s.toNat_lt
  simp only [decay, UInt32.toNat_ofNat']
  omega

/-- The sum may pass the largest word, but what is taken away brings it back. -/
theorem toNat_smooth (s : UInt32) (h : d.toNat < 2 ^ 28) :
    (smooth s d).toNat = s.toNat + d.toNat - min (s.toNat + 8) (2 ^ 32 - 1) / 16 := by
  have hs := s.toNat_lt
  have hdecay := toNat_decay s
  rw [smooth, UInt32.toNat_sub, UInt32.toNat_add, hdecay]
  omega

theorem smooth_le (hD : D < 2 ^ 28) (hd : d.toNat ≤ D) (hs : s.toNat ≤ 16 * D + 7) :
    (smooth s d).toNat ≤ 16 * D + 7 := by
  rw [toNat_smooth s (by omega)]
  omega

/-- What is rounded does not stop at the largest word, and so the step is that of the integers. -/
theorem smooth_exact (h : d.toNat < 2 ^ 28) (hs : s.toNat + 8 < 2 ^ 32) :
    ((smooth s d).toNat : Int) = s.toNat + d.toNat - (s.toNat + 8 : Int) / 16 := by
  rw [toNat_smooth s h]
  omega

/-! ## Several steps -/

variable {ds : List UInt32}

theorem foldl_smooth_le (hD : D < 2 ^ 28) (hds : ∀ d ∈ ds, d.toNat ≤ D) :
    (ds.foldl smooth 0).toNat ≤ 16 * D + 7 := by
  induction ds using List.reverseRecOn with
  | nil => exact Nat.zero_le _
  | append_singleton before d ih =>
    rw [List.foldl_concat]
    exact smooth_le hD (hds d (by simp)) (ih fun d hd => hds d (by simp [hd]))

theorem foldl_smooth_lt (hds : ∀ d ∈ ds, d.toNat < 2 ^ 28) :
    (ds.foldl smooth 0).toNat + 8 < 2 ^ 32 := by
  have hle := foldl_smooth_le (D := 2 ^ 28 - 1) (by decide) fun d hd => Nat.le_sub_one_of_lt (hds d hd)
  omega

/-- An estimate is never larger than all differences; one of a sixteenth of the words or more cannot
be exceeded by any word. -/
theorem estimate_le (hds : ∀ d ∈ ds, d.toNat ≤ D) : (ds.foldl smooth 0).toNat / 16 ≤ D := by
  by_cases hD : D < 2 ^ 28
  · have hle := foldl_smooth_le hD hds
    omega
  · have hword := (ds.foldl smooth 0).toNat_lt
    omega

/-- The estimate in the integers, scaled by sixteen, after a difference of `d`. -/
def smoothInt (scaled : Int) (d : UInt32) : Int :=
  scaled + d.toNat - (scaled + 8) / 16

theorem foldl_smooth_exact (hds : ∀ d ∈ ds, d.toNat < 2 ^ 28) :
    ((ds.foldl smooth 0).toNat : Int) = ds.foldl smoothInt 0 := by
  induction ds using List.reverseRecOn with
  | nil => rfl
  | append_singleton before d ih =>
    have hbefore : ∀ d ∈ before, d.toNat < 2 ^ 28 := fun d hd => hds d (by simp [hd])
    rw [List.foldl_concat, List.foldl_concat, ← ih hbefore]
    exact smooth_exact (hds d (by simp)) (foldl_smooth_lt hbefore)

/-! ## Settling -/

/-- How far the scaled estimate is from those that stand for `d` or one less. -/
def gap (d s : UInt32) : Nat :=
  (s.toNat - (16 * d.toNat + 15)) + (16 * d.toNat - 8 - s.toNat)

/-- A gap without its sixteenth, or one closer if it is small. -/
def narrow (g : Nat) : Nat :=
  g - max (g / 16) 1

theorem narrow_monotone : Monotone narrow := by
  intro g g' h
  simp only [narrow]
  omega

theorem gap_smooth (s : UInt32) (h : d.toNat < 2 ^ 28) : gap d (smooth s d) ≤ narrow (gap d s) := by
  have hs := s.toNat_lt
  have hsmooth := toNat_smooth s h
  simp only [gap, narrow]
  by_cases hroom : s.toNat + 8 < 2 ^ 32
  · rw [Nat.min_eq_left (by omega)] at hsmooth
    omega
  · -- What is rounded stops at the largest word, and so the estimate is too large if it is not settled.
    rw [Nat.min_eq_right (by omega)] at hsmooth
    omega

/-- By induction on the number of packets. -/
theorem gap_foldl_smooth (s : UInt32) (h : d.toNat < 2 ^ 28) (n : Nat) :
    gap d ((List.replicate n d).foldl smooth s) ≤ narrow^[n] (gap d s) := by
  induction n generalizing s with
  | zero => exact Nat.le_refl _
  | succ n ih =>
    rw [List.replicate_succ, List.foldl_cons, Function.iterate_succ_apply]
    exact (ih (smooth s d)).trans (narrow_monotone.iterate n (gap_smooth s h))

/-- The number of packets of a constant difference after which the estimate has settled, wherever it
was before. -/
def settlingTime : Nat := 326

theorem narrow_settlingTime : narrow^[settlingTime] (2 ^ 32) = 0 := by decide +kernel

theorem gap_lt (s : UInt32) (h : d.toNat < 2 ^ 28) : gap d s < 2 ^ 32 := by
  have hs := s.toNat_lt
  simp only [gap]
  omega

theorem settled (s : UInt32) (h : d.toNat < 2 ^ 28) (hn : settlingTime ≤ n) :
    gap d ((List.replicate n d).foldl smooth s) = 0 := by
  refine Nat.le_zero.1 ?_
  calc
    gap d ((List.replicate n d).foldl smooth s) ≤ narrow^[n] (gap d s) := gap_foldl_smooth s h n
    _ ≤ narrow^[n] (2 ^ 32) := narrow_monotone.iterate n (gap_lt s h).le
    _ ≤ narrow^[settlingTime] (2 ^ 32) :=
      narrow_monotone.antitone_iterate_of_map_le (Nat.sub_le _ _) hn
    _ = 0 := narrow_settlingTime

theorem estimate_of_gap (h : gap d s = 0) : s.toNat / 16 = d.toNat ∨ s.toNat / 16 + 1 = d.toNat := by
  simp only [gap] at h
  omega

/-! ## What is estimated -/

/-- How long a packet has been on its way when it arrives, in the units and the numbering of the
stream: what the clock reads, which has the rate of the packet and is anchored at it if it has not
been, less the timestamp. -/
def transitOf (b : JitterBuffer) (q : Queued) : UInt32 :=
  let clock := (b.adoptRate q.format).clock
  let anchored :=
    if clock.synchronized then clock else clock.synchronize q.arrival q.packet.timestamp
  UInt32.ofInt (anchored.read q.arrival) - q.packet.timestamp

/-- The transit times of the packets that an onlooker has seen written since the stream began, after
one more event. It begins anew with a reset, and when the buffer starts anew. -/
def noteTransit (transits : List UInt32) (b : JitterBuffer) : BufferEvent → List UInt32
  | .call .reset => []
  | .call c =>
    match (b.step c).1, b.entry? c with
    | .written _ true, _ => []
    | _, some q => transits ++ [b.transitOf q]
    | _, none => transits
  | .install _ | .setClock _ => transits

/-- The transit times that an onlooker has seen after some events. -/
def noteTransits (transits : List UInt32) (b : JitterBuffer) : List BufferEvent → List UInt32
  | [] => transits
  | e :: rest => noteTransits (noteTransit transits b e) (b.meet e) rest

/-- How far each of some transit times is from the one before it. -/
def differences : List UInt32 → List UInt32
  | first :: next :: rest => wordDistance next first :: differences (next :: rest)
  | _ => []

theorem differences_concat (transits : List UInt32) (t : UInt32) :
    differences (transits ++ [t]) =
      differences transits ++ (transits.getLast?.map (wordDistance t)).toList := by
  induction transits with
  | nil => rfl
  | cons first rest ih =>
    cases rest with
    | nil => rfl
    | cons next rest => exact congrArg (wordDistance next first :: ·) ih

/-- A buffer has estimated what an onlooker has seen. -/
structure Estimates (b : JitterBuffer) (transits : List UInt32) : Prop where
  last : b.transit = transits.getLast?
  scaled : b.scaledJitter = (differences transits).foldl smooth 0

variable {b b' : JitterBuffer} {transits : List UInt32} {now : Nat} {p : Packet} {f : Format}

theorem Estimates.congr (h : b.Estimates transits) (htransit : b'.transit = b.transit)
    (hscaled : b'.scaledJitter = b.scaledJitter) : b'.Estimates transits :=
  ⟨htransit.trans h.last, hscaled.trans h.scaled⟩

theorem Estimates.observe (h : b.Estimates transits) (now : Nat) (p : Packet) (f : Format) :
    ((b.adoptRate f).observe now p.timestamp).Estimates (transits ++ [b.transitOf ⟨p, now, f⟩]) := by
  have hadopt : (b.adoptRate f).transit = b.transit ∧
      (b.adoptRate f).scaledJitter = b.scaledJitter := by
    unfold adoptRate
    split <;> exact ⟨rfl, rfl⟩
  have hseen : (b.adoptRate f).Estimates transits := h.congr hadopt.1 hadopt.2
  refine ⟨by rw [List.getLast?_concat]; rfl, ?_⟩
  rw [differences_concat, List.foldl_append, ← hseen.scaled, ← hseen.last]
  unfold JitterBuffer.observe
  cases (b.adoptRate f).transit <;> rfl

theorem Estimates.dropLate {number : UInt16} (h : b.Estimates transits)
    (hlate : b.isLate number = true) :
    b.dropLate.Estimates (if b.dropLate.startedAnew .late then [] else transits) := by
  by_cases henough : b.resyncAfter ≤ b.lateRun + 1
  · rw [dropLate_of_enough henough]
    exact ⟨rfl, rfl⟩
  · have hplaying : b.lastDelivered.isNone = false := by
      cases hlast : b.lastDelivered <;> simp_all [isLate]
    rw [dropLate_of_few henough]
    simp only [startedAnew, hplaying]
    exact h.congr rfl rfl

theorem Estimates.enqueue (h : b.Estimates transits) (q : Queued) :
    (b.enqueue q).2.Estimates
      (if (b.enqueue q).2.startedAnew (b.enqueue q).1 then [] else transits) := by
  unfold JitterBuffer.enqueue JitterBuffer.makeRoom
  repeat' split
  all_goals first | exact h.congr rfl rfl | simp_all [startedAnew]

/-- The estimate begins anew if the buffer does. -/
theorem Estimates.write (h : b.Estimates transits) (now : Nat) (p : Packet) (f : Format) :
    (b.write now p f).2.Estimates
      (if (b.write now p f).2.startedAnew (b.write now p f).1 then []
        else transits ++ [b.transitOf ⟨p, now, f⟩]) := by
  have hseen := h.observe now p f
  simp only [JitterBuffer.write]
  split
  · exact hseen.dropLate ‹_›
  · have hinTime : Estimates { (b.adoptRate f).observe now p.timestamp with lateRun := 0 }
        (transits ++ [b.transitOf ⟨p, now, f⟩]) := hseen.congr rfl rfl
    exact hinTime.enqueue ⟨p, now, f⟩

theorem noteTransit_write (transits : List UInt32) (b : JitterBuffer) (now : Nat) (p : Packet)
    (f : Format) :
    noteTransit transits b (.call (.write now p f)) =
      if (b.write now p f).2.startedAnew (b.write now p f).1 then []
      else transits ++ [b.transitOf ⟨p, now, f⟩] := by
  simp only [noteTransit, step, entry?]
  cases (b.write now p f).2.startedAnew (b.write now p f).1 <;> rfl

theorem Estimates.meet (h : b.Estimates transits) (e : BufferEvent) :
    (b.meet e).Estimates (noteTransit transits b e) := by
  cases e with
  | call c =>
    cases c with
    | write now p f =>
      rw [noteTransit_write]
      exact h.write now p f
    | writeMapped now p =>
      cases hf : b.formats.find? p.payloadType with
      | none =>
        simp only [JitterBuffer.meet, noteTransit, b.step_of_unknown now hf, entry?, hf,
          Option.map_none]
        exact h
      | some f =>
        have hnote : noteTransit transits b (.call (.writeMapped now p)) =
            noteTransit transits b (.call (.write now p f)) := by
          simp only [noteTransit, step_writeMapped hf, entry?, hf, Option.map_some]
        rw [hnote, noteTransit_write, JitterBuffer.meet, step_writeMapped hf]
        exact h.write now p f
    | read now =>
      have hread : (b.read now).2.transit = b.transit ∧
          (b.read now).2.scaledJitter = b.scaledJitter := by
        unfold JitterBuffer.read
        repeat' split
        all_goals exact ⟨rfl, rfl⟩
      exact h.congr hread.1 hread.2
    | reset => exact ⟨rfl, rfl⟩
  | install formats => exact h.congr rfl rfl
  | setClock clock => exact h.congr rfl rfl

theorem Estimates.meetAll (h : b.Estimates transits) (events : List BufferEvent) :
    (b.meetAll events).Estimates (noteTransits transits b events) := by
  induction events generalizing b transits with
  | nil => exact h
  | cons e rest ih => exact ih (h.meet e)

/-- The jitter estimate, for whatever happens to a buffer, with the differences of the transit times of
the packets that were written since it was made or reset, or has started anew. The estimate is not
larger than the largest difference. If all of them are less than a sixteenth of the words, the
scaled estimate is what the recurrence gives in the integers, and the sum that is rounded next does
not stop at the largest word. And when the last `settlingTime` differences or more were all the same
and less than a sixteenth of the words, the estimate is that difference or one less, whatever came
before. -/
theorem jitter_estimates (config : JitterConfig) (clock : MediaClock) (events : List BufferEvent) :
    let b := (make config clock).meetAll events
    let ds := differences (noteTransits [] (make config clock) events)
    (∀ D, (∀ d ∈ ds, d.toNat ≤ D) → b.jitter ≤ D) ∧
    ((∀ d ∈ ds, d.toNat < 2 ^ 28) →
      (b.scaledJitter.toNat : Int) = ds.foldl smoothInt 0 ∧ b.scaledJitter.toNat + 8 < 2 ^ 32) ∧
    ∀ (before : List UInt32) (n : Nat) (d : UInt32), ds = before ++ List.replicate n d →
      d.toNat < 2 ^ 28 → settlingTime ≤ n → b.jitter = d.toNat ∨ b.jitter + 1 = d.toNat := by
  intro b ds
  have hmade : (make config clock).Estimates [] := ⟨rfl, rfl⟩
  have hscaled : b.scaledJitter = ds.foldl smooth 0 := (hmade.meetAll events).scaled
  simp only [jitter, hscaled]
  refine ⟨fun D hds => estimate_le hds,
    fun hds => ⟨foldl_smooth_exact hds, foldl_smooth_lt hds⟩, fun before n d hlast hd hn => ?_⟩
  rw [hlast, List.foldl_append]
  exact estimate_of_gap (settled _ hd hn)

/-- Packets of narrow-band audio every twenty milliseconds, every other one twenty milliseconds
late. -/
def unsteady (n : Nat) : List BufferEvent :=
  (List.range n).map fun i =>
    .call (.write (20 * (i + i % 2)) (.make 0 (.ofNat i) (.ofNat (160 * i)) 7 [] false)
      (.make 0 "PCMU" 8000))

theorem jitter_estimates_unsteady :
    let b := (make ⟨0, 2⟩ (.make 8000)).meetAll (unsteady 328)
    differences (noteTransits [] (make ⟨0, 2⟩ (.make 8000)) (unsteady 328)) =
      List.replicate 327 160 ∧
    b.jitter ≤ 160 ∧
    ((b.scaledJitter.toNat : Int) = (List.replicate 327 160).foldl smoothInt 0 ∧
      b.scaledJitter.toNat + 8 < 2 ^ 32) ∧
    (b.jitter = 160 ∨ b.jitter + 1 = 160) := by
  intro b
  have hds : differences (noteTransits [] (make ⟨0, 2⟩ (.make 8000)) (unsteady 328)) =
      List.replicate 327 160 := by
    decide +kernel
  obtain ⟨hlargest, hexact, hsettles⟩ := jitter_estimates ⟨0, 2⟩ (.make 8000) (unsteady 328)
  rw [hds] at hlargest hexact hsettles
  have hall : ∀ d ∈ List.replicate 327 (160 : UInt32), d.toNat = 160 := fun d hd => by
    rw [List.eq_of_mem_replicate hd]
    rfl
  refine ⟨hds, hlargest 160 fun d hd => (hall d hd).le, hexact fun d hd => ?_,
    hsettles [] 327 160 rfl (by decide) (by decide)⟩
  rw [hall d hd]
  decide

end JitterBuffer

end MediaGateway
