import MediaGateway.Proofs.Scheduler.Observation
import Mathlib.Data.List.Nodup

/-!
# The scheduler neither loses, repeats nor reorders tasks

One step is described by `Stepped`: which tasks were run, and what each queue is afterwards. That
numbers increase along the queues (`Ordered`) is kept by it, and with that a task that waits in a
queue is run once by each tick of it until it leaves, which is what is shown of whole histories.
-/

namespace MediaGateway

namespace Scheduler

variable {τ σ : Type}

/-! ## Reading notes -/

namespace Notes

/-- How often a task was run. -/
def runs (n : Notes τ) (k : Nat) : Nat :=
  (n.ran.map (·.1.number)).count k

/-- A task was run and left. -/
def Cancelled (n : Notes τ) (k : Nat) : Prop :=
  ∃ r ∈ n.ran, r.1.number = k ∧ r.2 = none

instance (n : Notes τ) (k : Nat) : Decidable (n.Cancelled k) :=
  decidable_of_iff (∃ r ∈ n.ran, r.1.number = k ∧ r.2.isNone = true) (by
    simp only [Cancelled, Option.isNone_iff_eq_none])

/-- The tasks that were run and stay, as what they stay. -/
def survivors (n : Notes τ) : List (Numbered τ) :=
  n.ran.filterMap fun r => r.2.map (⟨r.1.number, ·⟩)

end Notes

/-! ## One tick -/

/-- What running some tasks adds to the notes, and what it leaves. -/
structure RanAll (tasks : List (Numbered τ)) (s : Scheduler (Numbered τ)) (w : Watched τ σ)
    (result : List (Numbered τ) × Scheduler (Numbered τ) × Watched τ σ) (n : Notes τ) : Prop where
  notes : result.2.2.notes = ⟨w.notes.ran ++ n.ran, w.notes.submitted ++ n.submitted⟩
  ran : n.ran.map (·.1) = tasks
  survivors : result.1 = n.survivors
  pending (q : Queue) : result.2.1.pending q = s.pending q ++ sentTo q n.submitted
  numbers : n.submitted.map (·.2.number) = List.range' w.next n.submitted.length
  next : result.2.2.next = w.next + n.submitted.length

variable (b : Behaviour τ σ)

theorem ranAll_runAll (tasks : List (Numbered τ)) (s : Scheduler (Numbered τ)) (w : Watched τ σ) :
    ∃ n, RanAll tasks s w (runAll b.watched.run tasks s w) n := by
  induction tasks generalizing s w with
  | nil => exact ⟨⟨[], []⟩, by simp [runAll], rfl, rfl, by simp [runAll, sentTo], rfl, rfl⟩
  | cons t rest ih =>
    obtain ⟨n, h⟩ := ih (b.watched.run t s w).2.1 (b.watched.run t s w).2.2
    generalize hb : b t.task (s.map (·.task)) w.world = out at h
    obtain ⟨kept, submitted, x⟩ := out
    have hrun : b.watched.run t s w = (kept.map (⟨t.number, ·⟩),
        s.submitAll (number w.next submitted),
        { world := x
          next := w.next + (number w.next submitted).length
          notes := ⟨w.notes.ran ++ [(t, kept)], w.notes.submitted ++ number w.next submitted⟩ }) := by
      simp only [Behaviour.run, Behaviour.watched, hb]
    rw [hrun] at h
    have hlength : (number w.next submitted).length = submitted.length := by
      rw [← List.length_map fun u : Queue × Numbered τ => (u.1, u.2.task), map_task_number]
    refine ⟨⟨(t, kept) :: n.ran, number w.next submitted ++ n.submitted⟩, ?_, ?_, ?_, ?_, ?_, ?_⟩
    · simp [runAll, hrun, h.notes]
    · simp [h.ran]
    · cases kept <;> simp [runAll, hrun, h.survivors, Notes.survivors]
    · intro q
      simp [runAll, hrun, h.pending, pending_submitAll, sentTo_append]
    · rw [List.map_append, map_number_number, h.numbers, hlength, List.length_append, hlength,
        List.range'_append_1]
    · simp [runAll, hrun, h.next, Nat.add_assoc]

/-! ## One step -/

/-- What a step does to a scheduler with numbered tasks. -/
structure Stepped (o o' : Observed τ σ) (st : Step τ) (n : Notes τ) : Prop where
  /-- All tasks that waited in the queue are run, in their order, and no other. -/
  ran : n.ran.map (·.1) = (st.ticked.map o.scheduler.pending).getD []
  /-- Those that stay come first, those that were submitted meanwhile after them. -/
  pending (q : Queue) : o'.scheduler.pending q =
    (if st.ticked = some q then n.survivors else o.scheduler.pending q) ++ sentTo q n.submitted
  /-- New tasks get the next numbers. -/
  numbers : n.submitted.map (·.2.number) = List.range' o.next n.submitted.length
  next : o'.next = o.next + n.submitted.length

theorem stepped_step (o : Observed τ σ) (st : Step τ) :
    Stepped o (o.step b st).2 st (o.step b st).1 := by
  cases st with
  | submit q task =>
    refine ⟨rfl, fun q' => ?_, rfl, rfl⟩
    by_cases h : q = q' <;> simp [Observed.step, Step.ticked, pending_submit, sentTo, h]
  | tick q =>
    obtain ⟨n, h⟩ := ranAll_runAll b (o.scheduler.pending q) (o.scheduler.withPending q [])
      ⟨o.world, o.next, ⟨[], []⟩⟩
    have hnotes : (o.step b (.tick q)).1 = n := h.notes
    rw [hnotes]
    refine ⟨h.ran, fun q' => ?_, h.numbers, h.next⟩
    show ((runAll b.watched.run (o.scheduler.pending q) (o.scheduler.withPending q [])
      ⟨o.world, o.next, ⟨[], []⟩⟩).2.1.withPending q _).pending q' = _
    by_cases hq : q' = q
    · subst hq
      simp [Step.ticked, h.survivors, h.pending]
    · rw [pending_withPending_of_ne _ _ hq, h.pending, pending_withPending_of_ne _ _ hq]
      simp [Step.ticked, Ne.symm hq]

theorem count_tick (o : Observed τ σ) (q : Queue) :
    (o.plain.1.tick b.run q o.plain.2).1 = (o.scheduler.pending q).length := by
  simp [tick, Observed.plain]

/-! ## The order of numbers -/

/-- A task waits in a queue. -/
def Observed.Holds (o : Observed τ σ) (q : Queue) (k : Nat) : Prop :=
  ∃ t ∈ o.scheduler.pending q, t.number = k

/-- Numbers have been given out in the order of the queues, each once. -/
structure Observed.Ordered (o : Observed τ σ) : Prop where
  increasing (q : Queue) : ((o.scheduler.pending q).map (·.number)).Pairwise (· < ·)
  bounded (q : Queue) (k : Nat) : o.Holds q k → k < o.next
  apart (q q' : Queue) (k : Nat) : o.Holds q k → o.Holds q' k → q = q'

theorem Observed.ordered_start (resolution : UInt32) (x : σ) :
    (Observed.start (τ := τ) resolution x).Ordered := by
  have hempty : ∀ q, (Observed.start (τ := τ) resolution x).scheduler.pending q = [] := by
    intro q
    cases q <;> rfl
  refine ⟨fun q => ?_, fun q k h => ?_, fun q q' k h => ?_⟩
  · simp [hempty]
  · obtain ⟨t, ht, -⟩ := h
    simp [hempty] at ht
  · obtain ⟨t, ht, -⟩ := h
    simp [hempty] at ht

namespace Stepped

variable {b} {o o' : Observed τ σ} {st : Step τ} {n : Notes τ}

/-- The numbers of the survivors are among those of the tasks that were run, in their order. -/
theorem survivors_sublist (n : Notes τ) :
    (n.survivors.map (·.number)).Sublist (n.ran.map (·.1.number)) := by
  obtain ⟨ran, submitted⟩ := n
  simp only [Notes.survivors]
  induction ran with
  | nil => simp
  | cons r rest ih =>
    obtain ⟨t, _ | kept⟩ := r
    · simpa using ih.cons t.number
    · simpa using ih

theorem ran_number (h : Stepped o o' st n) (q : Queue) (hq : st.ticked = some q) :
    n.ran.map (·.1.number) = (o.scheduler.pending q).map (·.number) := by
  have hran := congrArg (List.map (·.number)) h.ran
  simpa [hq, Function.comp_def] using hran

theorem ran_eq_nil (h : Stepped o o' st n) (hq : st.ticked = none) : n.ran = [] := by
  simpa [hq] using h.ran

/-- What waited before and still does keeps its order. -/
theorem old_sublist (h : Stepped o o' st n) (q : Queue) :
    ((if st.ticked = some q then n.survivors else o.scheduler.pending q).map (·.number)).Sublist
      ((o.scheduler.pending q).map (·.number)) := by
  by_cases hq : st.ticked = some q
  · rw [if_pos hq, ← h.ran_number q hq]
    exact survivors_sublist n
  · rw [if_neg hq]

theorem number_submitted (h : Stepped o o' st n) {q : Queue} {t : Numbered τ}
    (ht : (q, t) ∈ n.submitted) : o.next ≤ t.number ∧ t.number < o'.next := by
  have hmem : t.number ∈ n.submitted.map (·.2.number) := List.mem_map_of_mem (f := (·.2.number)) ht
  rw [h.numbers, List.mem_range'_1, ← h.next] at hmem
  exact hmem

theorem pairwise_sentTo (h : Stepped o o' st n) (q : Queue) :
    ((sentTo q n.submitted).map (·.number)).Pairwise (· < ·) := by
  have hall : (n.submitted.map (·.2.number)).Pairwise (· < ·) := by
    rw [h.numbers]
    exact List.pairwise_lt_range'
  refine hall.sublist ?_
  rw [sentTo, List.map_map]
  exact List.filter_sublist.map _

/-- A task waits afterwards if it waited before and has not left, or was submitted. -/
theorem holds (h : Stepped o o' st n) {q : Queue} {k : Nat} (hk : o'.Holds q k) :
    o.Holds q k ∨ ∃ t, (q, t) ∈ n.submitted ∧ t.number = k := by
  obtain ⟨t, ht, rfl⟩ := hk
  rw [h.pending, List.mem_append] at ht
  rcases ht with ht | ht
  · left
    have hmem := (h.old_sublist q).subset (List.mem_map_of_mem (f := (·.number)) ht)
    obtain ⟨u, hu, he⟩ := List.mem_map.mp hmem
    exact ⟨u, hu, he⟩
  · exact .inr ⟨t, mem_sentTo.mp ht, rfl⟩

theorem next_le (h : Stepped o o' st n) : o.next ≤ o'.next := by
  rw [h.next]
  exact Nat.le_add_right _ _

theorem ordered (h : Stepped o o' st n) (ho : o.Ordered) : o'.Ordered := by
  refine ⟨fun q => ?_, fun q k hk => ?_, fun q q' k hk hk' => ?_⟩
  · rw [h.pending, List.map_append, List.pairwise_append]
    refine ⟨(ho.increasing q).sublist (h.old_sublist q), h.pairwise_sentTo q, ?_⟩
    intro i hi j hj
    obtain ⟨t, ht, rfl⟩ := List.mem_map.mp ((h.old_sublist q).subset hi)
    obtain ⟨u, hu, rfl⟩ := List.mem_map.mp hj
    have hold := ho.bounded q t.number ⟨t, ht, rfl⟩
    have hnew := (h.number_submitted (mem_sentTo.mp hu)).1
    omega
  · rcases h.holds hk with hk | ⟨t, ht, rfl⟩
    · exact Nat.lt_of_lt_of_le (ho.bounded q k hk) h.next_le
    · exact (h.number_submitted ht).2
  · rcases h.holds hk with hk | ⟨t, ht, rfl⟩ <;> rcases h.holds hk' with hk' | ⟨u, hu, he⟩
    · exact ho.apart q q' k hk hk'
    · have := ho.bounded q k hk
      have := (h.number_submitted hu).1
      omega
    · have := ho.bounded q' _ hk'
      have := (h.number_submitted ht).1
      omega
    · -- two submitted tasks with one number are the same entry of the notes
      have hnodup : (n.submitted.map (·.2.number)).Nodup := by
        rw [h.numbers]
        exact List.nodup_range'
      have hsame := List.inj_on_of_nodup_map hnodup ht hu he.symm
      exact congrArg Prod.fst hsame

/-- Only tasks that wait in the queue that is run are run. -/
theorem runs_of_not_holds (h : Stepped o o' st n) {k : Nat} (hk : ∀ q, ¬ o.Holds q k) :
    n.runs k = 0 ∧ ¬ n.Cancelled k := by
  have hran : k ∉ n.ran.map (·.1.number) := by
    cases hq : st.ticked with
    | none => simp [h.ran_eq_nil hq]
    | some q =>
      rw [h.ran_number q hq]
      intro hmem
      obtain ⟨t, ht, he⟩ := List.mem_map.mp hmem
      exact hk q ⟨t, ht, he⟩
  refine ⟨List.count_eq_zero_of_not_mem hran, ?_⟩
  rintro ⟨r, hr, he, -⟩
  exact hran (List.mem_map.mpr ⟨r, hr, he⟩)

/-- A task that waits is run once by a tick of its queue, and by no other step. -/
theorem runs_of_holds (h : Stepped o o' st n) (ho : o.Ordered) {q : Queue} {k : Nat}
    (hk : o.Holds q k) : n.runs k = if st.ticked = some q then 1 else 0 := by
  by_cases hq : st.ticked = some q
  · obtain ⟨t, ht, rfl⟩ := hk
    rw [if_pos hq, Notes.runs, h.ran_number q hq]
    refine List.count_eq_one_of_mem ?_ (List.mem_map_of_mem (f := (·.number)) ht)
    exact (ho.increasing q).imp Nat.ne_of_lt
  · rw [if_neg hq]
    cases hq' : st.ticked with
    | none => simp [Notes.runs, h.ran_eq_nil hq']
    | some q' =>
      refine List.count_eq_zero_of_not_mem ?_
      rw [h.ran_number q' hq']
      intro hmem
      obtain ⟨t, ht, he⟩ := List.mem_map.mp hmem
      exact hq (hq'.trans (congrArg some (ho.apart q' q k ⟨t, ht, he⟩ hk)))

/-- A task that waits and does not leave still waits. -/
theorem holds_of_not_cancelled (h : Stepped o o' st n) {q : Queue} {k : Nat} (hk : o.Holds q k)
    (hstays : ¬ n.Cancelled k) : o'.Holds q k := by
  obtain ⟨t, ht, rfl⟩ := hk
  by_cases hq : st.ticked = some q
  · have hran : t ∈ n.ran.map (·.1) := by
      simpa [h.ran, hq] using ht
    obtain ⟨⟨t, kept⟩, hr, rfl⟩ := List.mem_map.mp hran
    cases kept with
    | none => exact absurd ⟨_, hr, rfl, rfl⟩ hstays
    | some kept =>
      refine ⟨⟨t.number, kept⟩, ?_, rfl⟩
      rw [h.pending, if_pos hq, List.mem_append]
      exact .inl (List.mem_filterMap.mpr ⟨_, hr, rfl⟩)
  · refine ⟨t, ?_, rfl⟩
    rw [h.pending, if_neg hq, List.mem_append]
    exact .inl ht

/-- A task that leaves waits nowhere. -/
theorem not_holds_of_cancelled (h : Stepped o o' st n) (ho : o.Ordered) {q : Queue} {k : Nat}
    (hk : o.Holds q k) (hleft : n.Cancelled k) (q' : Queue) : ¬ o'.Holds q' k := by
  intro hk'
  have hbound := ho.bounded q k hk
  have hruns := h.runs_of_holds ho hk
  obtain ⟨r, hr, rfl, hnone⟩ := hleft
  have hmem : r.1.number ∈ n.ran.map (·.1.number) := List.mem_map_of_mem (f := (·.1.number)) hr
  obtain ⟨t, ht, he⟩ := hk'
  rw [h.pending, List.mem_append] at ht
  rcases ht with ht | ht
  · by_cases hq' : st.ticked = some q'
    · -- it is among those that were run, and the one that was run with its number left
      rw [if_pos hq'] at ht
      obtain ⟨r', hr', he'⟩ := List.mem_filterMap.mp ht
      have hnodup : (n.ran.map (·.1.number)).Nodup := by
        rw [h.ran_number q' hq']
        exact (ho.increasing q').imp Nat.ne_of_lt
      obtain ⟨kept, hkept, rfl⟩ := Option.map_eq_some_iff.mp he'
      have hsame := List.inj_on_of_nodup_map hnodup hr' hr he
      rw [hsame, hnone] at hkept
      cases hkept
    · rw [if_neg hq'] at ht
      have hq := ho.apart q q' _ hk ⟨t, ht, he⟩
      subst hq
      rw [if_neg hq'] at hruns
      exact List.count_eq_zero.mp hruns hmem
  · have := (h.number_submitted (mem_sentTo.mp ht)).1
    omega

end Stepped

/-! ## Several steps -/

variable {b}

theorem Observed.ordered_run {o : Observed τ σ} (ho : o.Ordered) (steps : List (Step τ)) :
    (o.run b steps).Ordered := by
  induction steps generalizing o with
  | nil => exact ho
  | cons st rest ih => exact ih ((stepped_step b o st).ordered ho)

/-- A task that waits nowhere and whose number has been given out is never run again. -/
theorem runs_of_gone {o : Observed τ σ} {k : Nat} (hk : ∀ q, ¬ o.Holds q k) (hnext : k < o.next)
    {steps : List (Step τ)} {n : Notes τ} (hn : n ∈ o.record b steps) : n.runs k = 0 := by
  induction steps generalizing o with
  | nil => simp [Observed.record] at hn
  | cons st rest ih =>
    have h := stepped_step b o st
    rcases List.mem_cons.mp hn with rfl | hn
    · exact (h.runs_of_not_holds hk).1
    · refine ih (fun q hq => ?_) (Nat.lt_of_lt_of_le hnext h.next_le) hn
      rcases h.holds hq with hq | ⟨t, ht, rfl⟩
      · exact hk q hq
      · have := (h.number_submitted ht).1
        omega

/-- A task that waits is run once by each tick of its queue until it leaves, and else not. -/
theorem runs_of_waiting {o : Observed τ σ} (ho : o.Ordered) {q : Queue} {k : Nat}
    (hk : o.Holds q k) {steps : List (Step τ)} {j : Nat} {st : Step τ} {n : Notes τ}
    (hst : steps[j]? = some st) (hn : (o.record b steps)[j]? = some n) :
    n.runs k = if st.ticked = some q ∧ ∀ m ∈ (o.record b steps).take j, ¬ m.Cancelled k then 1
      else 0 := by
  induction steps generalizing o j with
  | nil => simp at hst
  | cons first rest ih =>
    have h := stepped_step b o first
    cases j with
    | zero =>
      obtain rfl : first = st := by simpa using hst
      obtain rfl : (o.step b first).1 = n := by simpa [Observed.record] using hn
      simpa using h.runs_of_holds ho hk
    | succ j =>
      simp only [Observed.record, List.getElem?_cons_succ, List.take_succ_cons,
        List.forall_mem_cons] at hst hn ⊢
      by_cases hleft : (o.step b first).1.Cancelled k
      · have hgone := runs_of_gone (h.not_holds_of_cancelled ho hk hleft)
          (Nat.lt_of_lt_of_le (ho.bounded q k hk) h.next_le) (List.mem_of_getElem? hn)
        simp [hgone, hleft]
      · have hlater := ih (h.ordered ho) (h.holds_of_not_cancelled hk hleft) hst hn
        simp [hlater, hleft]

/-- Before a number is given out nothing of that number is run. -/
theorem runs_of_unborn {o : Observed τ σ} (ho : o.Ordered) {k : Nat} (hk : o.next ≤ k)
    (st : Step τ) : (o.step b st).1.runs k = 0 ∧ ¬ (o.step b st).1.Cancelled k := by
  refine (stepped_step b o st).runs_of_not_holds fun q hq => ?_
  have := ho.bounded q k hq
  omega

theorem next_le_of_submitted {o : Observed τ σ} {q : Queue} {t : Numbered τ}
    {steps : List (Step τ)} {n : Notes τ} (hn : n ∈ o.record b steps) (ht : (q, t) ∈ n.submitted) :
    o.next ≤ t.number := by
  induction steps generalizing o with
  | nil => simp [Observed.record] at hn
  | cons st rest ih =>
    have h := stepped_step b o st
    rcases List.mem_cons.mp hn with rfl | hn
    · exact (h.number_submitted ht).1
    · exact Nat.le_trans h.next_le (ih hn)

/-- A task that is submitted in a step is run once by each later tick of its queue until it leaves,
and by no other step. -/
theorem runs_of_submitted {o : Observed τ σ} (ho : o.Ordered) {steps : List (Step τ)} {i j : Nat}
    {q : Queue} {t : Numbered τ} {first n : Notes τ} {st : Step τ}
    (hfirst : (o.record b steps)[i]? = some first) (ht : (q, t) ∈ first.submitted)
    (hst : steps[j]? = some st) (hn : (o.record b steps)[j]? = some n) :
    n.runs t.number = if i < j ∧ st.ticked = some q ∧
      ∀ m ∈ (o.record b steps).take j, ¬ m.Cancelled t.number then 1 else 0 := by
  induction steps generalizing o i j with
  | nil => simp at hst
  | cons step rest ih =>
    have h := stepped_step b o step
    have hunborn := runs_of_unborn (b := b) ho
      (next_le_of_submitted (List.mem_of_getElem? hfirst) ht) step
    cases j with
    | zero =>
      obtain rfl : (o.step b step).1 = n := by simpa [Observed.record] using hn
      simp [hunborn.1]
    | succ j =>
      simp only [Observed.record, List.getElem?_cons_succ, List.take_succ_cons,
        List.forall_mem_cons] at hst hn ⊢
      cases i with
      | zero =>
        obtain rfl : (o.step b step).1 = first := by simpa [Observed.record] using hfirst
        have hholds : (o.step b step).2.Holds q t.number := by
          refine ⟨t, ?_, rfl⟩
          rw [h.pending, List.mem_append]
          exact .inr (mem_sentTo.mpr ht)
        rw [runs_of_waiting (h.ordered ho) hholds hst hn]
        simp [hunborn.2]
      | succ i =>
        simp only [Observed.record, List.getElem?_cons_succ] at hfirst
        rw [ih (h.ordered ho) hfirst hst hn]
        simp [hunborn.2]

/-- Each submission gets its own number, counted from the first one on. -/
theorem numbers_submitted (o : Observed τ σ) (steps : List (Step τ)) :
    ∃ count, ((o.record b steps).flatMap (·.submitted)).map (·.2.number) =
        List.range' o.next count ∧ (o.run b steps).next = o.next + count := by
  induction steps generalizing o with
  | nil => exact ⟨0, rfl, rfl⟩
  | cons st rest ih =>
    have h := stepped_step b o st
    obtain ⟨count, hnumbers, hnext⟩ := ih (o.step b st).2
    refine ⟨(o.step b st).1.submitted.length + count, ?_, ?_⟩
    · rw [Observed.record, List.flatMap_cons, List.map_append, h.numbers, hnumbers, h.next,
        List.range'_append_1]
    · show ((o.step b st).2.run b rest).next = _
      rw [hnext, h.next, Nat.add_assoc]

theorem getElem?_record (o : Observed τ σ) (steps : List (Step τ)) (i : Nat) :
    (o.record b steps)[i]? = steps[i]?.map fun st => ((o.run b (steps.take i)).step b st).1 := by
  induction steps generalizing o i with
  | nil => rfl
  | cons first rest ih =>
    cases i with
    | zero => rfl
    | succ i => exact ih (o.step b first).2 i

theorem run_take_succ {o : Observed τ σ} {steps : List (Step τ)} {i : Nat} {st : Step τ}
    (hst : steps[i]? = some st) :
    o.run b (steps.take (i + 1)) = ((o.run b (steps.take i)).step b st).2 := by
  rw [List.take_add_one, hst]
  simp [Observed.run, List.foldl_append]

/-! ## Whole histories -/

/-- What a tick of a queue does, given what was taken down about it and what it returned. -/
structure Ticked (q : Queue) (before after : Observed τ σ) (n : Notes τ) (count : Nat) : Prop where
  count : count = (before.scheduler.pending q).length
  /-- Each task that waited is run once, and no other. -/
  ran : n.ran.map (·.1) = before.scheduler.pending q
  /-- They are run in the order in which they were submitted. -/
  inOrder : (n.ran.map (·.1.number)).Pairwise (· < ·)
  /-- Those that stay wait in their old order, and behind them those submitted meanwhile. -/
  queue : after.scheduler.pending q = n.survivors ++ sentTo q n.submitted
  /-- The other queue is changed by submissions to it only. -/
  others (q' : Queue) : q' ≠ q →
    after.scheduler.pending q' = before.scheduler.pending q' ++ sentTo q' n.submitted

/-- The history of a scheduler in which no task is lost, repeated or overtaken. -/
structure Orderly (b : Behaviour τ σ) (o : Observed τ σ) (steps : List (Step τ)) : Prop where
  /-- What is observed is the scheduler itself. -/
  plain (i : Nat) : (o.run b (steps.take i)).plain = (steps.take i).foldl (step b) o.plain
  /-- Every submission, from outside or by a task, has its own number, in their order. -/
  numbers : ∃ count,
    ((o.record b steps).flatMap (·.submitted)).map (·.2.number) = List.range count
  submitted (i : Nat) (q : Queue) (task : τ) : steps[i]? = some (.submit q task) →
    ∃ k, (o.record b steps)[i]? = some ⟨[], [(q, ⟨k, task⟩)]⟩
  ticked (i : Nat) (q : Queue) (s : Scheduler τ) (x : σ) : steps[i]? = some (.tick q) →
    (steps.take i).foldl (step b) o.plain = (s, x) →
    ∃ n, (o.record b steps)[i]? = some n ∧
      Ticked q (o.run b (steps.take i)) (o.run b (steps.take (i + 1))) n (s.tick b.run q x).1
  /-- A task that was submitted in step `i` is run in step `j` once if this is a later tick of its
  queue and it has not left before, and else not at all. -/
  runs (i j : Nat) (q : Queue) (t : Numbered τ) (m n : Notes τ) (st : Step τ) :
    (o.record b steps)[i]? = some m → (q, t) ∈ m.submitted →
    (o.record b steps)[j]? = some n → steps[j]? = some st →
    n.runs t.number = if i < j ∧ st.ticked = some q ∧
      ∀ m ∈ (o.record b steps).take j, ¬ m.Cancelled t.number then 1 else 0

theorem Stepped.ticked {o o' : Observed τ σ} {q : Queue} {n : Notes τ}
    (h : Stepped o o' (.tick q) n) (ho : o.Ordered) :
    Ticked q o o' n (o.plain.1.tick b.run q o.plain.2).1 := by
  refine ⟨count_tick b o q, h.ran, ?_, ?_, fun q' hq' => ?_⟩
  · rw [h.ran_number q rfl]
    exact ho.increasing q
  · simp [h.pending, Step.ticked]
  · simp [h.pending, Step.ticked, hq'.symm]

/-- The histories that follow on what is in order are orderly, if they are the first to give out
numbers. -/
theorem Observed.Ordered.orderly {o : Observed τ σ} (ho : o.Ordered) (hnext : o.next = 0)
    (steps : List (Step τ)) : Orderly b o steps := by
  refine ⟨fun i => observe_plain b _ _, ?_, fun i q task hst => ?_, fun i q s y hst hplain => ?_,
    fun i j q t m n st hm ht hn hst => runs_of_submitted ho hm ht hst hn⟩
  · obtain ⟨count, hnumbers, -⟩ := numbers_submitted (b := b) o steps
    exact ⟨count, by rw [hnumbers, List.range_eq_range', hnext]⟩
  · rw [getElem?_record, hst]
    exact ⟨_, rfl⟩
  · refine ⟨_, by rw [getElem?_record, hst]; rfl, ?_⟩
    rw [run_take_succ hst]
    have h := (stepped_step b (o.run b (steps.take i)) (.tick q)).ticked (b := b)
      (Observed.ordered_run ho (steps.take i))
    rwa [observe_plain, hplain] at h

/-- Whatever tasks do when they are run, as long as all they do to the scheduler is to submit tasks:
in every history of submissions and ticks each tick runs exactly the tasks that waited, in the order
in which they were submitted, and every task is run once by each tick of its queue from the first one
after its submission until it leaves. -/
theorem tasks_run_once_in_order (b : Behaviour τ σ) (resolution : UInt32) (x : σ)
    (steps : List (Step τ)) : Orderly b (.start resolution x) steps :=
  (Observed.ordered_start resolution x).orderly rfl steps

-- Task 2 submits task 0, which leaves at once, in its first run, and stays as task 1.
example :
    let b : Behaviour Nat Unit := fun task _ x =>
      match task with
      | 0 => (none, [], x)
      | 2 => (some 1, [(.media, 0)], x)
      | n => (some n, [], x)
    ((Observed.start 10 ()).record b
      [.submit .media 2, .tick .media, .tick .heartbeat, .tick .media, .tick .media]).map
        (fun n => n.ran.map (·.1.number)) = [[], [0], [], [0, 1], [0]] := by
  decide

end Scheduler

end MediaGateway
