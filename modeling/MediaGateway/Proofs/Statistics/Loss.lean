import MediaGateway.Statistics
import Mathlib.Data.List.Infix
import Mathlib.Order.Interval.Finset.Nat

/-!
# What is missing of a stream

The statistics of a session keep the highest sequence number only, and so they cannot know which of
the numbers before it have come. A packet ahead of it adds the numbers that it skips to the missing
ones. A packet behind it takes one away, as if it were one of those that were skipped. That is right
for a packet that fills a gap; a packet that has come before, or that lies before the first one, was
not missing, and yet takes one away.

What is really missing is told here from all numbers that have come. The count never exceeds it, it
falls short by at most one for every packet that fills no gap, and it is right all along exactly if
such packets only come while nothing is missing.
-/

namespace MediaGateway

/-! ## Numbers close to each other -/

/-- Consecutive sequence numbers, fewer than half of all. -/
structure Sequence.Window where
  /-- The first number. -/
  start : UInt16
  /-- How many there are. -/
  size : Nat
  /-- No two of them are so far apart that it is open which comes first. -/
  size_lt : size < 32768

namespace Sequence.Window

/-- The place of a number, counted from the first one. -/
def place (w : Window) (n : UInt16) : Nat :=
  (n - w.start).toNat

instance : Membership UInt16 Window := ⟨fun w n => w.place n < w.size⟩

instance (w : Window) (n : UInt16) : Decidable (n ∈ w) :=
  inferInstanceAs (Decidable (w.place n < w.size))

variable {w : Window} {a b : UInt16}

theorem place_lt (h : a ∈ w) : w.place a < w.size := h

/-- How far one number lies ahead of another one is told by their places. -/
theorem distance_eq (ha : a ∈ w) (hb : b ∈ w) : distance a b = w.place a - w.place b := by
  have hsize := w.size_lt
  have ha := place_lt ha
  have hb := place_lt hb
  have hstart := w.start.toNat_lt
  simp only [place, UInt16.toNat_sub] at ha hb ⊢
  have := a.toNat_lt
  have := b.toNat_lt
  simp only [distance, Int.bmod]
  omega

end Sequence.Window

namespace Statistics

open Sequence (Window)

/-! ## What has come and what is missing -/

/-- The statistics after some packets were received, each given by its sequence number and the length
of its payload. -/
def ofArrivals (arrivals : List (UInt16 × Nat)) : Statistics :=
  arrivals.foldl (fun s a => s.recordReceived a.1 a.2) {}

/-- The places between the first number and the highest one at which no number has come. -/
def missing (w : Window) (seen : List UInt16) : Finset Nat :=
  (Finset.range w.size).filter fun i =>
    (seen.head?.any fun m => w.place m < i) ∧ (seen.any fun m => i < w.place m) ∧
      seen.all fun m => w.place m ≠ i

/-- A number lies behind the highest one before it. -/
def Behind (w : Window) (seen : List UInt16) (n : UInt16) : Prop :=
  ∃ m ∈ seen, w.place n < w.place m

-- The numbers that were seen are looked through, not all numbers that there are.
instance (w : Window) (seen : List UInt16) (n : UInt16) : Decidable (Behind w seen n) :=
  decidable_of_iff (seen.any fun m => w.place n < w.place m) (by simp [Behind])

/-- A number lies behind the highest one, but is none of those that are missing. -/
def Idle (w : Window) (seen : List UInt16) (n : UInt16) : Prop :=
  Behind w seen n ∧ w.place n ∉ missing w seen

instance (w : Window) (seen : List UInt16) (n : UInt16) : Decidable (Idle w seen n) :=
  inferInstanceAs (Decidable (_ ∧ _))

/-- How many numbers have a property in view of those before them. -/
def countOf (P : List UInt16 → UInt16 → Prop) [∀ seen n, Decidable (P seen n)]
    (numbers : List UInt16) : Nat :=
  (List.range numbers.length).countP fun k => numbers[k]?.any fun n => P (numbers.take k) n

variable {w : Window} {seen : List UInt16} {n l : UInt16} {s : Statistics}

theorem countOf_append_one (P : List UInt16 → UInt16 → Prop) [∀ seen n, Decidable (P seen n)]
    (seen : List UInt16) (n : UInt16) :
    countOf P (seen ++ [n]) = countOf P seen + if P seen n then 1 else 0 := by
  have hbefore : ∀ k ∈ List.range seen.length,
      (((seen ++ [n])[k]?.any fun m => P ((seen ++ [n]).take k) m) = true ↔
        (seen[k]?.any fun m => P (seen.take k) m) = true) := by
    intro k hk
    have hlt := List.mem_range.1 hk
    rw [List.getElem?_append_left hlt, List.take_append_of_le_length hlt.le]
  simp only [countOf, List.length_append, List.length_singleton, List.range_succ,
    List.countP_append]
  rw [List.countP_congr hbefore]
  simp [List.countP_cons]

/-! ## Missing numbers -/

/-- The highest of some numbers. -/
structure IsHighest (w : Window) (seen : List UInt16) (l : UInt16) : Prop where
  mem : l ∈ seen
  le : ∀ m ∈ seen, w.place m ≤ w.place l

theorem mem_missing (hw : ∀ m ∈ seen, m ∈ w) {i : Nat} :
    i ∈ missing w seen ↔
      (∃ m ∈ seen.head?, w.place m < i) ∧ (∃ m ∈ seen, i < w.place m) ∧
        ∀ m ∈ seen, w.place m ≠ i := by
  simp only [missing, Finset.mem_filter, Finset.mem_range, Option.any_eq_true, List.any_eq_true,
    List.all_eq_true, decide_eq_true_eq]
  refine and_iff_right_of_imp fun ⟨_, ⟨m, hm, hlt⟩, _⟩ => ?_
  exact hlt.trans (Window.place_lt (hw m hm))

theorem IsHighest.head? (h : IsHighest w seen l) (n : UInt16) : (seen ++ [n]).head? = seen.head? := by
  rw [List.head?_append_of_ne_nil]
  exact List.ne_nil_of_mem h.mem

/-- Nothing is missing of one number. -/
theorem missing_singleton (hn : n ∈ w) : missing w [n] = ∅ := by
  ext i
  rw [mem_missing (by simpa using hn)]
  simp
  omega

/-- A number ahead of the highest one makes those between them missing. -/
theorem missing_append_ahead (hw : ∀ m ∈ seen ++ [n], m ∈ w) (h : IsHighest w seen l)
    (hn : w.place l < w.place n) :
    missing w (seen ++ [n]) = missing w seen ∪ Finset.Ioo (w.place l) (w.place n) := by
  have hseen : ∀ m ∈ seen, m ∈ w := fun m hm => hw m (List.mem_append_left _ hm)
  ext i
  rw [Finset.mem_union, Finset.mem_Ioo, mem_missing hw, mem_missing hseen, h.head?]
  constructor
  · rintro ⟨hfirst, ⟨m, hm, hlt⟩, hnone⟩
    have hnone' : ∀ m ∈ seen, w.place m ≠ i := fun m hm => hnone m (List.mem_append_left _ hm)
    by_cases hi : i < w.place l
    · exact .inl ⟨hfirst, ⟨l, h.mem, hi⟩, hnone'⟩
    · have hne := hnone' l h.mem
      have hle : w.place m ≤ w.place n := by
        rcases List.mem_append.1 hm with hm | hm
        · exact (h.le m hm).trans hn.le
        · rw [List.mem_singleton.1 hm]
      exact .inr ⟨by omega, by omega⟩
  · rintro (⟨hfirst, ⟨m, hm, hlt⟩, hnone⟩ | ⟨hl, hlt⟩)
    · refine ⟨hfirst, ⟨m, List.mem_append_left _ hm, hlt⟩, fun k hk => ?_⟩
      rcases List.mem_append.1 hk with hk | hk
      · exact hnone k hk
      · have := h.le m hm
        rw [List.mem_singleton.1 hk]
        omega
    · obtain ⟨first, hfirst⟩ := Option.isSome_iff_exists.1
        (List.isSome_head?.2 (List.ne_nil_of_mem h.mem))
      have hle := h.le first (List.mem_of_mem_head? hfirst)
      refine ⟨⟨first, hfirst, by omega⟩, ⟨n, by simp, hlt⟩, fun k hk => ?_⟩
      rcases List.mem_append.1 hk with hk | hk
      · have := h.le k hk
        omega
      · rw [List.mem_singleton.1 hk]
        omega

/-- A number that is not ahead of the highest one is not missing any more. -/
theorem missing_append_behind (hw : ∀ m ∈ seen ++ [n], m ∈ w) (h : IsHighest w seen l)
    (hn : w.place n ≤ w.place l) : missing w (seen ++ [n]) = (missing w seen).erase (w.place n) := by
  have hseen : ∀ m ∈ seen, m ∈ w := fun m hm => hw m (List.mem_append_left _ hm)
  ext i
  rw [Finset.mem_erase, mem_missing hw, mem_missing hseen, h.head?]
  constructor
  · rintro ⟨hfirst, ⟨m, hm, hlt⟩, hnone⟩
    refine ⟨(hnone n (by simp)).symm, hfirst, ?_,
      fun m hm => hnone m (List.mem_append_left _ hm)⟩
    rcases List.mem_append.1 hm with hm | hm
    · exact ⟨m, hm, hlt⟩
    · rw [List.mem_singleton.1 hm] at hlt
      exact ⟨l, h.mem, by omega⟩
  · rintro ⟨hne, hfirst, ⟨m, hm, hlt⟩, hnone⟩
    refine ⟨hfirst, ⟨m, List.mem_append_left _ hm, hlt⟩, fun k hk => ?_⟩
    rcases List.mem_append.1 hk with hk | hk
    · exact hnone k hk
    · rw [List.mem_singleton.1 hk]
      exact hne.symm

/-! ## One packet -/

/-- What a packet does to the count of missing ones, and to what is missing. -/
inductive Counts (w : Window) (seen : List UInt16) (n : UInt16) (lost lost' : Nat) : Prop
  /-- It does not lie behind, and adds what it skips. -/
  | onward (skipped : Nat) (ahead : ¬Behind w seen n) (count : lost' = lost + skipped)
      (card : (missing w (seen ++ [n])).card = (missing w seen).card + skipped)
  /-- It fills a gap. -/
  | filling (behind : Behind w seen n) (fills : w.place n ∈ missing w seen)
      (count : lost' = lost - 1)
      (card : (missing w (seen ++ [n])).card + 1 = (missing w seen).card)
  /-- It lies behind and was not missing. -/
  | idle (idle : Idle w seen n) (count : lost' = lost - 1)
      (card : (missing w (seen ++ [n])).card = (missing w seen).card)

/-- The statistics know how many packets came and which is the highest of their numbers. -/
structure Knows (w : Window) (s : Statistics) (seen : List UInt16) : Prop where
  window : ∀ m ∈ seen, m ∈ w
  start : s.lastSequence = none → seen = []
  highest : ∀ l, s.lastSequence = some l → IsHighest w seen l
  received : s.received = seen.length
  reordered : s.reordered = countOf (Behind w) seen

theorem IsHighest.behind_iff (h : IsHighest w seen l) :
    Behind w seen n ↔ w.place n < w.place l :=
  ⟨fun ⟨m, hm, hlt⟩ => hlt.trans_le (h.le m hm), fun hlt => ⟨l, h.mem, hlt⟩⟩

theorem IsHighest.not_behind (h : IsHighest w seen l) (hn : w.place l ≤ w.place n) :
    ¬Behind w seen n :=
  fun hbehind => Nat.not_lt_of_le hn (h.behind_iff.1 hbehind)

theorem IsHighest.append_of_le (h : IsHighest w seen l) (hn : w.place n ≤ w.place l) :
    IsHighest w (seen ++ [n]) l := by
  refine ⟨List.mem_append_left _ h.mem, fun m hm => ?_⟩
  rcases List.mem_append.1 hm with hm | hm
  · exact h.le m hm
  · rwa [List.mem_singleton.1 hm]

theorem IsHighest.append_of_lt (h : IsHighest w seen l) (hn : w.place l < w.place n) :
    IsHighest w (seen ++ [n]) n := by
  refine ⟨by simp, fun m hm => ?_⟩
  rcases List.mem_append.1 hm with hm | hm
  · exact (h.le m hm).trans hn.le
  · rw [List.mem_singleton.1 hm]

namespace Knows

theorem window_append (h : Knows w s seen) (hn : n ∈ w) : ∀ m ∈ seen ++ [n], m ∈ w := by
  intro m hm
  rcases List.mem_append.1 hm with hm | hm
  · exact h.window m hm
  · rwa [List.mem_singleton.1 hm]

/-- What is known is kept up if the packet is counted and the highest number is found. -/
theorem append (h : Knows w s seen) (hn : n ∈ w) {s' : Statistics} {l : UInt16}
    (hl : s'.lastSequence = some l) (hhighest : IsHighest w (seen ++ [n]) l)
    (hreceived : s'.received = s.received + 1)
    (hreordered : s'.reordered = s.reordered + if Behind w seen n then 1 else 0) :
    Knows w s' (seen ++ [n]) where
  window := h.window_append hn
  start := by simp [hl]
  highest := fun l' hl' => Option.some.inj (hl.symm.trans hl') ▸ hhighest
  received := by rw [hreceived, h.received, List.length_append, List.length_singleton]
  reordered := by rw [hreordered, h.reordered, countOf_append_one]

/-- How far a packet lies ahead of the highest number. -/
theorem distance_eq (h : Knows w s seen) (hn : n ∈ w) (hl : s.lastSequence = some l) :
    Sequence.distance n l = w.place n - w.place l :=
  Window.distance_eq hn (h.window l (h.highest l hl).mem)

/-- The first packet. -/
theorem record_first (h : Knows w s seen) (hn : n ∈ w) (hl : s.lastSequence = none) (length : Nat) :
    Knows w (s.recordReceived n length) (seen ++ [n]) ∧
      Counts w seen n s.lost (s.recordReceived n length).lost := by
  obtain rfl := h.start hl
  have hs : s.recordReceived n length = { s with
      received := s.received + 1
      bytesReceived := s.bytesReceived + length
      lastSequence := some n } := by
    simp only [recordReceived, Statistics.place, hl]
  rw [hs]
  have hnot : ¬Behind w [] n := by simp [Behind]
  refine ⟨h.append hn rfl ⟨by simp, by simp⟩ rfl (by simp [hnot]), .onward 0 hnot rfl ?_⟩
  rw [List.nil_append, missing_singleton hn]
  simp [missing]

/-- A packet ahead of the highest number. -/
theorem record_ahead (h : Knows w s seen) (hn : n ∈ w) (hl : s.lastSequence = some l)
    (hahead : w.place l < w.place n) (length : Nat) :
    Knows w (s.recordReceived n length) (seen ++ [n]) ∧
      Counts w seen n s.lost (s.recordReceived n length).lost := by
  have hhighest := h.highest l hl
  have hnot : ¬Behind w seen n := hhighest.not_behind hahead.le
  have hdistance := h.distance_eq hn hl
  have hs : s.recordReceived n length = { s with
      received := s.received + 1
      bytesReceived := s.bytesReceived + length
      lost := s.lost + (w.place n - w.place l - 1)
      lastSequence := some n } := by
    have hpos : 0 < Sequence.distance n l := by omega
    have hskipped : (Sequence.distance n l - 1).toNat = w.place n - w.place l - 1 := by omega
    simp only [recordReceived, Statistics.place, hl, hpos, if_true, hskipped]
  rw [hs]
  refine ⟨h.append hn rfl (hhighest.append_of_lt hahead) rfl (by simp [hnot]),
    .onward _ hnot rfl ?_⟩
  rw [missing_append_ahead (h.window_append hn) hhighest hahead, Finset.card_union_of_disjoint,
    Nat.card_Ioo]
  refine Finset.disjoint_left.2 fun i hi hi' => ?_
  obtain ⟨-, ⟨m, hm, hlt⟩, -⟩ := (mem_missing h.window).1 hi
  have := hhighest.le m hm
  have := (Finset.mem_Ioo.1 hi').1
  omega

/-- The packet with the highest number again. -/
theorem record_again (h : Knows w s seen) (hn : n ∈ w) (hl : s.lastSequence = some l)
    (hagain : w.place n = w.place l) (length : Nat) :
    Knows w (s.recordReceived n length) (seen ++ [n]) ∧
      Counts w seen n s.lost (s.recordReceived n length).lost := by
  have hhighest := h.highest l hl
  have hnot : ¬Behind w seen n := hhighest.not_behind hagain.ge
  have hdistance := h.distance_eq hn hl
  have hs : s.recordReceived n length = { s with
      received := s.received + 1
      bytesReceived := s.bytesReceived + length } := by
    have hzero : Sequence.distance n l = 0 := by omega
    simp [recordReceived, Statistics.place, hl, hzero]
  rw [hs]
  refine ⟨h.append hn hl (hhighest.append_of_le hagain.le) rfl (by simp [hnot]),
    .onward 0 hnot rfl ?_⟩
  rw [missing_append_behind (h.window_append hn) hhighest hagain.le, Finset.erase_eq_of_notMem,
    Nat.add_zero]
  intro hmissing
  exact ((mem_missing h.window).1 hmissing).2.2 l hhighest.mem hagain.symm

/-- A packet behind the highest number. -/
theorem record_behind (h : Knows w s seen) (hn : n ∈ w) (hl : s.lastSequence = some l)
    (hlt : w.place n < w.place l) (length : Nat) :
    Knows w (s.recordReceived n length) (seen ++ [n]) ∧
      Counts w seen n s.lost (s.recordReceived n length).lost := by
  have hhighest := h.highest l hl
  have hbehind : Behind w seen n := hhighest.behind_iff.2 hlt
  have hdistance := h.distance_eq hn hl
  have hs : s.recordReceived n length = { s with
      received := s.received + 1
      bytesReceived := s.bytesReceived + length
      reordered := s.reordered + 1
      lost := s.lost - 1 } := by
    have hnot : ¬0 < Sequence.distance n l := by omega
    have hneg : Sequence.distance n l < 0 := by omega
    simp only [recordReceived, Statistics.place, hl, hnot, hneg, if_true, if_false]
  rw [hs]
  have hmissing := missing_append_behind (h.window_append hn) hhighest hlt.le
  refine ⟨h.append hn hl (hhighest.append_of_le hlt.le) rfl (by simp [hbehind]), ?_⟩
  by_cases hfills : w.place n ∈ missing w seen
  · refine .filling hbehind hfills rfl ?_
    rw [hmissing, Finset.card_erase_add_one hfills]
  · refine .idle ⟨hbehind, hfills⟩ rfl ?_
    rw [hmissing, Finset.erase_eq_of_notMem hfills]

/-- What is known after a packet, and what the packet does to the counts. -/
theorem record (h : Knows w s seen) (hn : n ∈ w) (length : Nat) :
    Knows w (s.recordReceived n length) (seen ++ [n]) ∧
      Counts w seen n s.lost (s.recordReceived n length).lost := by
  cases hl : s.lastSequence with
  | none => exact h.record_first hn hl length
  | some l =>
    rcases Nat.lt_trichotomy (w.place n) (w.place l) with hlt | heq | hgt
    · exact h.record_behind hn hl hlt length
    · exact h.record_again hn hl heq length
    · exact h.record_ahead hn hl hgt length

end Knows

/-! ## Runs -/

theorem ofArrivals_append_one (arrivals : List (UInt16 × Nat)) (a : UInt16 × Nat) :
    ofArrivals (arrivals ++ [a]) = (ofArrivals arrivals).recordReceived a.1 a.2 :=
  List.foldl_concat _ _ _ _

/-- By induction from the last packet to the first. -/
theorem knows_ofArrivals {arrivals : List (UInt16 × Nat)} (hw : ∀ a ∈ arrivals, a.1 ∈ w) :
    Knows w (ofArrivals arrivals) (arrivals.map Prod.fst) := by
  induction arrivals using List.reverseRecOn with
  | nil => exact ⟨by simp, fun _ => rfl, by simp [ofArrivals], rfl, rfl⟩
  | append_singleton before a ih =>
    have hbefore := ih fun b hb => hw b (List.mem_append_left _ hb)
    rw [ofArrivals_append_one, List.map_append]
    exact (hbefore.record (hw a (by simp)) a.2).1

/-- What one more packet does to the counts. -/
theorem counts_ofArrivals {before : List (UInt16 × Nat)} {a : UInt16 × Nat}
    (hw : ∀ b ∈ before ++ [a], b.1 ∈ w) :
    Counts w (before.map Prod.fst) a.1 (ofArrivals before).lost
      (ofArrivals (before ++ [a])).lost := by
  have hknows := knows_ofArrivals fun b hb => hw b (List.mem_append_left [a] hb)
  rw [ofArrivals_append_one]
  exact (hknows.record (hw a (by simp)) a.2).2

/-- The count falls short by at most one for every packet that fills no gap. -/
theorem lost_bounds {arrivals : List (UInt16 × Nat)} (hw : ∀ a ∈ arrivals, a.1 ∈ w) :
    (ofArrivals arrivals).lost ≤ (missing w (arrivals.map Prod.fst)).card ∧
      (missing w (arrivals.map Prod.fst)).card ≤
        (ofArrivals arrivals).lost + countOf (Idle w) (arrivals.map Prod.fst) := by
  induction arrivals using List.reverseRecOn with
  | nil => simp [ofArrivals, missing]
  | append_singleton before a ih =>
    obtain ⟨hle, hshort⟩ := ih fun b hb => hw b (List.mem_append_left _ hb)
    have hcounts := counts_ofArrivals hw
    rw [List.map_append, List.map_singleton, countOf_append_one]
    cases hcounts with
    | onward skipped ahead count card =>
      have hnot : ¬Idle w (before.map Prod.fst) a.1 := fun hidle => ahead hidle.1
      rw [count, card, if_neg hnot]
      omega
    | filling behind fills count card =>
      have hnot : ¬Idle w (before.map Prod.fst) a.1 := fun hidle => hidle.2 fills
      rw [count, if_neg hnot]
      omega
    | idle hidle count card =>
      rw [count, card, if_pos hidle]
      omega

/-- The count is right. -/
def IsExact (w : Window) (arrivals : List (UInt16 × Nat)) : Prop :=
  (ofArrivals arrivals).lost = (missing w (arrivals.map Prod.fst)).card

/-- If the count is right before and after a packet that fills no gap, nothing was missing. -/
theorem missing_eq_empty_of_isExact {before : List (UInt16 × Nat)} {a : UInt16 × Nat}
    (hw : ∀ b ∈ before ++ [a], b.1 ∈ w) (hbefore : IsExact w before)
    (hafter : IsExact w (before ++ [a])) (hidle : Idle w (before.map Prod.fst) a.1) :
    missing w (before.map Prod.fst) = ∅ := by
  rw [IsExact] at hbefore hafter
  rw [List.map_append, List.map_singleton] at hafter
  rw [← Finset.card_eq_zero]
  cases counts_ofArrivals hw with
  | onward skipped ahead => exact absurd hidle.1 ahead
  | filling behind fills => exact absurd fills hidle.2
  | idle _ count card => omega

/-- The count stays right under a packet that fills a gap, unless it is behind while nothing is
missing. -/
theorem isExact_append_one {before : List (UInt16 × Nat)} {a : UInt16 × Nat}
    (hw : ∀ b ∈ before ++ [a], b.1 ∈ w) (hbefore : IsExact w before)
    (hidle : Idle w (before.map Prod.fst) a.1 → missing w (before.map Prod.fst) = ∅) :
    IsExact w (before ++ [a]) := by
  rw [IsExact] at hbefore ⊢
  rw [List.map_append, List.map_singleton]
  cases counts_ofArrivals hw with
  | onward skipped ahead count card => omega
  | filling behind fills count card => omega
  | idle idle count card =>
    have hnone := Finset.card_eq_zero.2 (hidle idle)
    omega

/-- What the statistics say of packets that come in any order and any number of times, with sequence
numbers in a window. As many were received as came, and as many were reordered as came behind the
highest number. The count of missing packets never exceeds the missing numbers, and falls short of
them by at most one for every packet that came behind the highest number and filled no gap. It is
right all along exactly if nothing was missing whenever such a packet came. -/
theorem lost_packets_missing (w : Window) (arrivals : List (UInt16 × Nat))
    (hw : ∀ a ∈ arrivals, a.1 ∈ w) :
    let s := ofArrivals arrivals
    let seen := arrivals.map Prod.fst
    (s.received = seen.length ∧ s.reordered = countOf (Behind w) seen) ∧
    (s.lost ≤ (missing w seen).card ∧
      (missing w seen).card ≤ s.lost + countOf (Idle w) seen) ∧
    ((∀ before, before <+: arrivals →
        (ofArrivals before).lost = (missing w (before.map Prod.fst)).card) ↔
      ∀ before a, before ++ [a] <+: arrivals → Idle w (before.map Prod.fst) a.1 →
        missing w (before.map Prod.fst) = ∅) := by
  intro s seen
  have hknows := knows_ofArrivals hw
  have hwin {before : List (UInt16 × Nat)} (h : before <+: arrivals) : ∀ b ∈ before, b.1 ∈ w :=
    fun b hb => hw b (h.subset hb)
  refine ⟨⟨hknows.received, hknows.reordered⟩, lost_bounds hw, fun hexact before a h hidle => ?_,
    fun hidle before h => ?_⟩
  · exact missing_eq_empty_of_isExact (hwin h) (hexact _ ((List.prefix_append _ _).trans h))
      (hexact _ h) hidle
  · induction before using List.reverseRecOn with
    | nil => simp [ofArrivals, missing]
    | append_singleton before a ih =>
      exact isExact_append_one (hwin h) (ih ((List.prefix_append _ _).trans h)) (hidle before a h)

/-- Of a stream that passes zero a gap is filled, and a packet from before the first one comes while
two are missing: the count is one too low. -/
theorem lost_packets_missing_across_zero :
    let w : Window := ⟨65533, 8, by decide⟩
    let arrivals : List (UInt16 × Nat) := [(65534, 160), (1, 160), (0, 160), (3, 160), (65533, 160)]
    let s := ofArrivals arrivals
    (∀ a ∈ arrivals, a.1 ∈ w) ∧ s.received = 5 ∧ s.reordered = 2 ∧
    missing w (arrivals.map Prod.fst) = {w.place 65535, w.place 2} ∧
    s.lost ≤ 2 ∧ 2 ≤ s.lost + 1 ∧
    ¬∀ before, before <+: arrivals →
      (ofArrivals before).lost = (missing w (before.map Prod.fst)).card := by
  intro w arrivals s
  have hw : ∀ a ∈ arrivals, a.1 ∈ w := by decide +kernel
  have hmissing : missing w (arrivals.map Prod.fst) = {w.place 65535, w.place 2} := by decide +kernel
  have htwo : (missing w (arrivals.map Prod.fst)).card = 2 := by decide +kernel
  have hidle : countOf (Idle w) (arrivals.map Prod.fst) = 1 := by decide +kernel
  obtain ⟨⟨hreceived, hreordered⟩, ⟨hle, hshort⟩, hexact⟩ := lost_packets_missing w arrivals hw
  rw [htwo] at hle hshort
  rw [hidle] at hshort
  refine ⟨hw, hreceived, hreordered.trans (by decide +kernel), hmissing, hle, hshort, fun hall => ?_⟩
  have hnone := hexact.1 hall (arrivals.take 4) (65533, 160) (by decide +kernel) (by decide +kernel)
  exact absurd hnone (by decide +kernel)

/-- A packet that comes twice, while two others are missing, is taken for one of them. -/
theorem repeated_packet_hides_gap :
    let w : Window := ⟨0, 4, by decide⟩
    let arrivals : List (UInt16 × Nat) := [(0, 0), (3, 0), (0, 0)]
    (∀ a ∈ arrivals, a.1 ∈ w) ∧ missing w (arrivals.map Prod.fst) = {w.place 1, w.place 2} ∧
    (ofArrivals arrivals).lost = 1 := by
  decide +kernel

end Statistics

end MediaGateway
