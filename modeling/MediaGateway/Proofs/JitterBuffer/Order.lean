import MediaGateway.Proofs.JitterBuffer.Accounting
import Mathlib.Data.List.Chain

/-!
# The order of playing

Which of two sequence numbers comes first is decided by the shorter way round a circle, so "comes
first" is not transitive: of three numbers each may lie ahead of the one before it, all the way
round. Before anything was played a buffer may well hold such numbers, and a queue of packets can
not be called sorted. What does hold is that every packet lies ahead of its neighbour. A packet goes
before the first one that it lies behind and after one that it does not lie behind, and that is all
that its new neighbours need.

The one exception are numbers half a circle apart, of which each counts as behind the other.
-/

namespace MediaGateway

namespace Sequence

variable {a b : UInt16}

theorem distance_eq_zero : distance a b = 0 ↔ a = b := by
  constructor
  · intro h
    have ha := a.toNat_lt
    have hb := b.toNat_lt
    apply UInt16.toNat_inj.1
    simp only [distance, Int.bmod] at h
    omega
  · rintro rfl
    exact distance_self a

/-- What does not lie behind another number lies ahead of it, or is the same. -/
theorem distance_pos_of_nonneg (hne : a ≠ b) (h : ¬distance a b < 0) : 0 < distance a b := by
  have hzero : distance a b ≠ 0 := mt distance_eq_zero.1 hne
  omega

/-- If one number lies behind another one, this lies ahead of it, unless they are half a circle
apart. -/
theorem distance_pos_of_neg (hapart : a - b ≠ 32768) (h : distance a b < 0) :
    0 < distance b a := by
  have ha := a.toNat_lt
  have hb := b.toNat_lt
  have hsub : (a - b).toNat ≠ 32768 := fun heq => hapart (UInt16.toNat_inj.1 heq)
  rw [UInt16.toNat_sub] at hsub
  simp only [distance, Int.bmod] at h ⊢
  omega

end Sequence

/-- No two of some sequence numbers are half a circle apart. -/
def Unopposed (numbers : List UInt16) : Prop :=
  ∀ a ∈ numbers, ∀ b ∈ numbers, a - b ≠ 32768

instance (numbers : List UInt16) : Decidable (Unopposed numbers) :=
  have (a : UInt16) : Decidable (∀ b ∈ numbers, a - b ≠ 32768) := List.decidableBAll _ _
  List.decidableBAll _ _

namespace BufferEvent

/-- The sequence number of the packet that is written. -/
def number? : BufferEvent → Option UInt16
  | call c => c.packet?.map (·.sequence)
  | install _ | setClock _ => none

/-- The sequence numbers of all packets that are written. -/
def numbers (events : List BufferEvent) : List UInt16 :=
  events.filterMap number?

end BufferEvent

namespace Queued

/-- A packet lies ahead of another one. -/
def Precedes (q next : Queued) : Prop :=
  0 < Sequence.distance next.packet.sequence q.packet.sequence

end Queued

namespace JitterBuffer

variable {b b' : JitterBuffer} {q : Queued} {queue rest : List Queued} {numbers : List UInt16}

/-! ## Order in the queue -/

/-- The packets of a buffer wait in the order in which they are to be played. -/
structure InOrder (b : JitterBuffer) : Prop where
  /-- No two of them have the same sequence number. -/
  nodup : (b.queue.map (·.packet.sequence)).Nodup
  /-- Each lies ahead of the one before it. -/
  neighbours : b.queue.IsChain Queued.Precedes
  /-- The first one lies ahead of the last one played. -/
  head : ∀ last ∈ b.lastDelivered, ∀ q ∈ b.queue.head?,
    0 < Sequence.distance q.packet.sequence last

/-- Playing moves on to a packet, which lies ahead of the last one played. -/
structure MovesOn (b b' : JitterBuffer) (q : Queued) : Prop where
  position : b'.lastDelivered = some q.packet.sequence
  ahead : ∀ last ∈ b.lastDelivered, 0 < Sequence.distance q.packet.sequence last

/-- An empty queue is in order. -/
theorem InOrder.of_nil (h : b.queue = []) : b.InOrder := by
  constructor <;> simp [h]

/-- Order is a matter of the queue and of where playing has come to. -/
theorem InOrder.congr (h : b.InOrder) (hqueue : b'.queue = b.queue)
    (hlast : b'.lastDelivered = b.lastDelivered) : b'.InOrder where
  nodup := hqueue ▸ h.nodup
  neighbours := hqueue ▸ h.neighbours
  head := by
    rw [hqueue, hlast]
    exact h.head

/-- Playing may move on to the first packet. -/
theorem InOrder.ahead (h : b.InOrder) (hqueue : b.queue = q :: rest) :
    ∀ last ∈ b.lastDelivered, 0 < Sequence.distance q.packet.sequence last := by
  intro last hlast
  exact h.head last hlast q (by rw [hqueue]; rfl)

/-- When the first packet leaves and playing moves on to it, the others stay in order. -/
theorem InOrder.tail (h : b.InOrder) (hqueue : b.queue = q :: rest) (hrest : b'.queue = rest)
    (hlast : b'.lastDelivered = some q.packet.sequence) : b'.InOrder := by
  have hnodup := h.nodup
  have hchain := h.neighbours
  rw [hqueue] at hnodup hchain
  obtain ⟨hfirst, htail⟩ := List.isChain_cons.1 hchain
  refine ⟨?_, ?_, ?_⟩
  · rw [hrest]
    exact (List.nodup_cons.1 hnodup).2
  · rw [hrest]
    exact htail
  · intro last hmem next hnext
    rw [hlast, Option.mem_some_iff] at hmem
    rw [hrest] at hnext
    rw [← hmem]
    exact hfirst next hnext

/-! ## Insertion -/

theorem mem_insertInto {other : Queued} : other ∈ insertInto q queue ↔ other = q ∨ other ∈ queue :=
  (insertInto_perm q queue).mem_iff.trans List.mem_cons

/-- A packet that is inserted comes first, or what was first stays first. -/
theorem head?_insertInto (q : Queued) (queue : List Queued) :
    (insertInto q queue).head? = some q ∨ (insertInto q queue).head? = queue.head? := by
  cases queue with
  | nil => exact .inl rfl
  | cons head rest =>
    unfold insertInto
    split
    · exact .inl rfl
    · exact .inr rfl

/-- Insertion keeps every packet ahead of its neighbour. -/
theorem insertInto_neighbours
    (hnew : ∀ other ∈ queue, other.packet.sequence ≠ q.packet.sequence)
    (hapart : ∀ other ∈ queue, q.packet.sequence - other.packet.sequence ≠ 32768)
    (h : queue.IsChain Queued.Precedes) : (insertInto q queue).IsChain Queued.Precedes := by
  induction queue with
  | nil => exact List.isChain_singleton q
  | cons head rest ih =>
    obtain ⟨hfirst, hrest⟩ := List.isChain_cons.1 h
    unfold insertInto
    split
    · rename_i hbehind
      have hahead : Queued.Precedes q head :=
        Sequence.distance_pos_of_neg (hapart head List.mem_cons_self) hbehind
      exact List.isChain_cons_cons.2 ⟨hahead, h⟩
    · rename_i hnot
      have hne := (hnew head List.mem_cons_self).symm
      have hahead : Queued.Precedes head q := Sequence.distance_pos_of_nonneg hne hnot
      have htail := ih (fun other hmem => hnew other (List.mem_cons_of_mem _ hmem))
        (fun other hmem => hapart other (List.mem_cons_of_mem _ hmem)) hrest
      refine List.isChain_cons.2 ⟨fun next hnext => ?_, htail⟩
      -- The next one is the new packet, or the one that was next before.
      rcases head?_insertInto q rest with hq | hsame
      · rw [hq, Option.mem_some_iff] at hnext
        exact hnext ▸ hahead
      · exact hfirst next (hsame ▸ hnext)

/-- A packet that is neither late nor queued already goes where it belongs. -/
theorem InOrder.insert (h : b.InOrder) (hlate : b.isLate q.packet.sequence = false)
    (hnew : ∀ other ∈ b.queue, other.packet.sequence ≠ q.packet.sequence)
    (hapart : ∀ other ∈ b.queue, q.packet.sequence - other.packet.sequence ≠ 32768) :
    { b with queue := insertInto q b.queue }.InOrder where
  nodup := by
    have hperm := (insertInto_perm q b.queue).map (·.packet.sequence)
    refine hperm.nodup_iff.2 (List.nodup_cons.2 ⟨?_, h.nodup⟩)
    intro hmem
    obtain ⟨other, hother, heq⟩ := List.mem_map.1 hmem
    exact hnew other hother heq
  neighbours := insertInto_neighbours hnew hapart h.neighbours
  head := by
    intro last hlast first hfirst
    rcases head?_insertInto q b.queue with hq | hsame
    · have heq : q = first := Option.some_inj.1 (hq.symm.trans hfirst)
      have hlast' : b.lastDelivered = some last := hlast
      simp only [isLate, hlast', decide_eq_false_iff_not] at hlate
      rw [← heq]
      omega
    · exact h.head last hlast first (hsame ▸ hfirst)

/-! ## One call -/

/-- A buffer whose packets wait in order, all of them with some given numbers. -/
structure Orderly (numbers : List UInt16) (b : JitterBuffer) : Prop where
  inOrder : b.InOrder
  known : ∀ q ∈ b.queue, q.packet.sequence ∈ numbers

theorem Orderly.of_nil (h : b.queue = []) : b.Orderly numbers :=
  ⟨.of_nil h, by simp [h]⟩

theorem Orderly.congr (h : b.Orderly numbers) (hqueue : b'.queue = b.queue)
    (hlast : b'.lastDelivered = b.lastDelivered) : b'.Orderly numbers :=
  ⟨h.inOrder.congr hqueue hlast, hqueue ▸ h.known⟩

theorem Orderly.mono {more : List UInt16} (hsub : numbers ⊆ more) (h : b.Orderly numbers) :
    b.Orderly more :=
  ⟨h.inOrder, fun q hq => hsub (h.known q hq)⟩

/-- What became of a packet that is written in order: if another one gives way for it, playing moves
on to that one. -/
structure Admits (b : JitterBuffer) (q : Queued) (numbers : List UInt16)
    (result : WriteOutcome × JitterBuffer) : Prop where
  orderly : result.2.Orderly numbers
  overflow : result.1 = .overflow →
    ∃ oldest, (oldest :: result.2.queue).Perm (q :: b.queue) ∧ b.MovesOn result.2 oldest

/-- Giving up what waits, or dropping one packet more, leaves no disorder. -/
theorem dropLate_orderly (h : b.Orderly numbers) : b.dropLate.Orderly numbers := by
  simp only [dropLate]
  split
  · exact .of_nil rfl
  · exact h.congr rfl rfl

theorem enqueue_orderly (hun : Unopposed numbers) (hq : q.packet.sequence ∈ numbers)
    (h : b.Orderly numbers) (hlate : b.isLate q.packet.sequence = false) :
    b.Admits q numbers (b.enqueue q) := by
  unfold enqueue
  split
  · exact ⟨h, by rintro ⟨⟩⟩
  · rename_i hany
    have hnew : ∀ other ∈ b.queue, other.packet.sequence ≠ q.packet.sequence := by
      intro other hmem heq
      exact hany (List.any_eq_true.2 ⟨other, hmem, beq_iff_eq.2 heq⟩)
    have hapart : ∀ other ∈ b.queue, q.packet.sequence - other.packet.sequence ≠ 32768 :=
      fun other hmem => hun _ hq _ (h.known other hmem)
    have hinsert := h.inOrder.insert hlate hnew hapart
    have hknown : ∀ other ∈ insertInto q b.queue, other.packet.sequence ∈ numbers := by
      intro other hmem
      rcases mem_insertInto.1 hmem with rfl | hold
      · exact hq
      · exact h.known other hold
    unfold makeRoom
    split
    · cases hqueue : insertInto q b.queue with
      | nil =>
        have hperm := insertInto_perm q b.queue
        rw [hqueue] at hperm
        cases hperm.symm.eq_nil
      | cons oldest rest =>
        have hperm := hqueue ▸ insertInto_perm q b.queue
        refine ⟨⟨hinsert.tail hqueue rfl rfl, fun other hmem => ?_⟩, fun _ =>
          ⟨oldest, hperm, rfl, hinsert.ahead hqueue⟩⟩
        exact hknown other (hqueue ▸ List.mem_cons_of_mem _ hmem)
    · exact ⟨⟨hinsert, hknown⟩, by rintro ⟨⟩⟩

/-- What is learnt from a packet's arrival leaves the queue and where playing has come to. -/
theorem observe_leaves (b : JitterBuffer) (now : Nat) (timestamp : UInt32) (f : Format) :
    let b' := (b.adoptRate f).observe now timestamp
    b'.queue = b.queue ∧ b'.lastDelivered = b.lastDelivered := by
  simp only [adoptRate]
  split <;> exact ⟨rfl, rfl⟩

theorem write_orderly (hun : Unopposed numbers) (now : Nat) {p : Packet} (f : Format)
    (hp : p.sequence ∈ numbers) (h : b.Orderly numbers) :
    b.Admits ⟨p, now, f⟩ numbers (b.write now p f) := by
  obtain ⟨hqueue, hlast⟩ := b.observe_leaves now p.timestamp f
  have hseen := h.congr hqueue hlast
  simp only [write]
  split
  · exact ⟨dropLate_orderly hseen, by rintro ⟨⟩⟩
  · rename_i hlate
    have hfresh : { (b.adoptRate f).observe now p.timestamp with lateRun := 0 }.Orderly numbers :=
      hseen.congr rfl rfl
    have hadmits :=
      enqueue_orderly (q := ⟨p, now, f⟩) hun hp hfresh (Bool.eq_false_iff.2 hlate)
    refine ⟨hadmits.orderly, fun hover => ?_⟩
    obtain ⟨oldest, hperm, hmoves⟩ := hadmits.overflow hover
    exact ⟨oldest, hqueue ▸ hperm, hmoves.position, fun last hmem => hmoves.ahead last (hlast ▸ hmem)⟩

theorem read_orderly (now : Nat) (h : b.Orderly numbers) :
    (b.read now).2.Orderly numbers ∧
      ∀ f, (b.read now).1 = some f →
        ∃ q, b.queue = q :: (b.read now).2.queue ∧ f.IsOf q ∧ b.MovesOn (b.read now).2 q := by
  unfold read
  split
  · exact ⟨h, by rintro _ ⟨⟩⟩
  · rename_i q rest hqueue
    split
    · exact ⟨h, by rintro _ ⟨⟩⟩
    · refine ⟨⟨h.inOrder.tail hqueue rfl rfl, fun other hmem => ?_⟩, ?_⟩
      · exact h.known other (hqueue ▸ List.mem_cons_of_mem _ hmem)
      · rintro f ⟨⟩
        exact ⟨q, hqueue, ⟨rfl, rfl, rfl, rfl, rfl, rfl⟩, rfl, h.inOrder.ahead hqueue⟩

/-- What a call of a buffer in order does: the packets stay in order, and playing moves on to a
packet that is played or gives way. -/
structure KeepsOrder (b : JitterBuffer) (numbers : List UInt16) (c : BufferCall Packet) :
    Prop where
  orderly : (b.step c).2.Orderly numbers
  played : ∀ f, (b.step c).1 = .played (some f) →
    ∃ q, b.queue = q :: (b.step c).2.queue ∧ f.IsOf q ∧ b.MovesOn (b.step c).2 q
  evicted : ∀ restarted, (b.step c).1 = .written .overflow restarted →
    ∃ q oldest, b.entry? c = some q ∧ (oldest :: (b.step c).2.queue).Perm (q :: b.queue) ∧
      b.MovesOn (b.step c).2 oldest

theorem step_orderly (hun : Unopposed numbers) {c : BufferCall Packet}
    (hc : ∀ p ∈ c.packet?, p.sequence ∈ numbers) (h : b.Orderly numbers) :
    b.KeepsOrder numbers c := by
  cases c with
  | write now p f =>
    have hadmits := write_orderly hun now f (hc p rfl) h
    refine ⟨hadmits.orderly, by rintro _ ⟨⟩, fun restarted hreply => ?_⟩
    have hover : (b.write now p f).1 = .overflow := (BufferReply.written.inj hreply).1
    obtain ⟨oldest, hperm, hmoves⟩ := hadmits.overflow hover
    exact ⟨⟨p, now, f⟩, oldest, rfl, hperm, hmoves⟩
  | writeMapped now p =>
    cases hf : b.formats.find? p.payloadType with
    | none =>
      have hstep := b.step_of_unknown now hf
      refine ⟨by rwa [hstep], ?_, ?_⟩
      · rw [hstep]
        rintro _ ⟨⟩
      · rw [hstep]
        rintro _ ⟨⟩
    | some f =>
      have hadmits := write_orderly hun now f (hc p rfl) h
      have hwrite : b.writeMapped now p = b.write now p f := by simp only [writeMapped, hf]
      rw [← hwrite] at hadmits
      refine ⟨hadmits.orderly, by rintro _ ⟨⟩, fun restarted hreply => ?_⟩
      have hover : (b.writeMapped now p).1 = .overflow := (BufferReply.written.inj hreply).1
      obtain ⟨oldest, hperm, hmoves⟩ := hadmits.overflow hover
      have hentry : b.entry? (.writeMapped now p) = some ⟨p, now, f⟩ := by
        simp only [hf, entry?, Option.map_some]
      exact ⟨⟨p, now, f⟩, oldest, hentry, hperm, hmoves⟩
  | read now =>
    obtain ⟨horderly, hplayed⟩ := read_orderly now h
    exact ⟨horderly, fun f hreply => hplayed f (BufferReply.played.inj hreply),
      by rintro _ ⟨⟩⟩
  | reset => exact ⟨.of_nil rfl, by rintro _ ⟨⟩, by rintro _ ⟨⟩⟩

/-! ## Runs -/

theorem meet_orderly (hun : Unopposed numbers) {e : BufferEvent}
    (he : ∀ n ∈ e.number?, n ∈ numbers) (h : b.Orderly numbers) : (b.meet e).Orderly numbers := by
  cases e with
  | call c =>
    refine (step_orderly hun (fun p hp => he p.sequence ?_) h).orderly
    exact Option.mem_map_of_mem _ hp
  | install formats => exact h.congr rfl rfl
  | setClock clock => exact h.congr rfl rfl

theorem meetAll_orderly (hun : Unopposed numbers) {events : List BufferEvent}
    (hevents : BufferEvent.numbers events ⊆ numbers) (h : b.Orderly numbers) :
    (b.meetAll events).Orderly numbers := by
  induction events generalizing b with
  | nil => exact h
  | cons e rest ih =>
    refine ih (fun n hn => hevents ?_) (meet_orderly hun (fun n hn => hevents ?_) h)
    · obtain ⟨e', he', hn'⟩ := List.mem_filterMap.1 hn
      exact List.mem_filterMap.2 ⟨e', List.mem_cons_of_mem _ he', hn'⟩
    · exact List.mem_filterMap.2 ⟨e, List.mem_cons_self, hn⟩

/-- As long as no two packets that are written have numbers half a circle apart, a buffer holds its
packets in the order in which they are to be played, whatever else the numbers are: no two have the
same number, each lies ahead of its neighbour, and the first lies ahead of the last one played.
Therefore every frame that is played and every packet that gives way lies ahead of the one that was
played or gave way before it. -/
theorem playout_in_order (config : JitterConfig) (clock : MediaClock) (events : List BufferEvent)
    (hun : Unopposed (BufferEvent.numbers events)) :
    let b := (make config clock).meetAll events
    b.InOrder ∧
      ∀ c, Unopposed (BufferEvent.numbers (events ++ [.call c])) →
        (∀ f, (b.step c).1 = .played (some f) →
          ∃ q, b.queue = q :: (b.step c).2.queue ∧ f.IsOf q ∧ b.MovesOn (b.step c).2 q) ∧
        ∀ restarted, (b.step c).1 = .written .overflow restarted →
          ∃ q oldest, b.entry? c = some q ∧ (oldest :: (b.step c).2.queue).Perm (q :: b.queue) ∧
            b.MovesOn (b.step c).2 oldest := by
  intro b
  have horderly : b.Orderly (BufferEvent.numbers events) :=
    meetAll_orderly hun (List.Subset.refl _) (.of_nil rfl)
  refine ⟨horderly.inOrder, fun c hunc => ?_⟩
  have happend : BufferEvent.numbers (events ++ [.call c]) =
      BufferEvent.numbers events ++ BufferEvent.numbers [.call c] := List.filterMap_append
  have hsub : BufferEvent.numbers events ⊆ BufferEvent.numbers (events ++ [.call c]) := by
    rw [happend]
    exact List.subset_append_left _ _
  have hc : ∀ p ∈ c.packet?, p.sequence ∈ BufferEvent.numbers (events ++ [.call c]) := by
    intro p hp
    refine List.mem_filterMap.2 ⟨.call c, by simp, ?_⟩
    exact Option.mem_map_of_mem _ hp
  have hkeeps := step_orderly hunc hc (horderly.mono hsub)
  exact ⟨hkeeps.played, hkeeps.evicted⟩

/-- Three packets with numbers all around the circle, for a buffer of three: each lies ahead of its
neighbour, and the first ahead of the last. -/
def roundTheCircle : List BufferEvent :=
  let packet (n : UInt16) : Packet := .make 0 n 160 7 [1, 2] false
  [.install Profile.audio, .call (.writeMapped 0 (packet 0)), .call (.writeMapped 1 (packet 30000)),
    .call (.writeMapped 2 (packet 60000))]

theorem playout_in_order_roundTheCircle :
    let b := (make ⟨20, 3⟩ (.make 8000)).meetAll roundTheCircle
    let fourth : Packet := .make 0 100 160 7 [1, 2] false
    b.queue.map (·.packet.sequence) = [60000, 0, 30000] ∧ b.InOrder ∧
      0 < Sequence.distance 60000 30000 ∧
      (∃ q, b.MovesOn (b.step (.read 30)).2 q) ∧
      ∃ oldest, b.MovesOn (b.step (.writeMapped 30 fourth)).2 oldest := by
  intro b fourth
  obtain ⟨hin, hcall⟩ :=
    playout_in_order ⟨20, 3⟩ (.make 8000) roundTheCircle (by decide +kernel)
  have hplayed : ((b.step (.read 30)).1 matches .played (some _)) = true := by decide +kernel
  have hover : (b.step (.writeMapped 30 fourth)).1 = .written .overflow false := by decide +kernel
  obtain ⟨-, hevicted⟩ := hcall (.writeMapped 30 fourth) (by decide +kernel)
  obtain ⟨-, oldest, -, -, hoverflow⟩ := hevicted false hover
  refine ⟨by decide +kernel, hin, by decide, ?_, oldest, hoverflow⟩
  split at hplayed
  · rename_i f hf
    obtain ⟨q, -, -, hread⟩ := (hcall (.read 30) (by decide +kernel)).1 f hf
    exact ⟨q, hread⟩
  · cases hplayed

/-- Of two packets half a circle apart the one that comes second is put first, though the other one
does not lie ahead of it. -/
example :
    let packet (n : UInt16) : Packet := .make 0 n 160 7 [1, 2] false
    let b := (make ⟨20, 3⟩ (.make 8000)).meetAll [.install Profile.audio,
      .call (.writeMapped 0 (packet 0)), .call (.writeMapped 1 (packet 32768))]
    b.queue.map (·.packet.sequence) = [32768, 0] ∧ Sequence.distance 0 32768 < 0 := by
  decide +kernel

end JitterBuffer

end MediaGateway
