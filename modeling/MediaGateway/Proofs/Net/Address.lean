import MediaGateway.Net.Address.Parser
import MediaGateway.Proofs.Text
import Mathlib.Tactic.IntervalCases

/-!
# Addresses read back

The text of an address is read as that address. A text of version 4 is dotted; a text of version 6
has colons and is dotted at its end only, so neither is taken for the other.
-/

namespace MediaGateway.IpAddress

open MediaGateway.Text (isDigit_of_mem_toDigits)

variable {cs rest : List Char}

/-- A text that does not begin with a character of a kind. -/
def Ends (p : Char → Bool) (rest : List Char) : Prop := ∀ c ∈ rest.head?, p c = false

theorem ends_cons {p : Char → Bool} {c : Char} (h : p c = false) (cs : List Char) :
    Ends p (c :: cs) := by
  intro d hd
  obtain rfl : c = d := by simpa using hd
  exact h

theorem takeWhile_append_of_ends {p : Char → Bool} (h : ∀ c ∈ cs, p c = true) (he : Ends p rest) :
    (cs ++ rest).takeWhile p = cs := by
  rw [List.takeWhile_append_of_pos h]
  cases rest with
  | nil => simp
  | cons c rest => simp [he c rfl]

/-! ## Version 4 -/

/-- The digits of a number but zero do not begin with a zero. -/
theorem head?_toDigits {n : Nat} (h : (Nat.toDigits 10 n).head? = some '0') : n = 0 := by
  induction n using Nat.strongRecOn with
  | ind n ih =>
    by_cases hn : n < 10
    · rw [Nat.toDigits_of_lt_base hn] at h
      interval_cases n <;> simp_all
    · have hdiv : n / 10 ≠ 0 := by omega
      obtain ⟨c, hc⟩ := Option.ne_none_iff_exists'.1
        (mt List.head?_eq_none_iff.1 (Nat.toDigits_ne_nil (n := n / 10) (b := 10)))
      rw [Nat.toDigits_of_base_le (by decide) (by omega), List.head?_append, hc] at h
      exact absurd (ih (n / 10) (by omega) (hc.trans h)) hdiv

theorem readByte?_toDigits (n : UInt8) (h : Ends Char.isDigit rest) :
    readByte? (Nat.toDigits 10 n.toNat ++ rest) = some (n, rest) := by
  have hn : n.toNat < 256 := n.toNat_lt_size
  have hlen : (Nat.toDigits 10 n.toNat).length ≤ 3 :=
    (Nat.length_toDigits_le_iff (by decide) (by decide)).2 (by omega)
  have hzero : ¬(1 < (Nat.toDigits 10 n.toNat).length ∧
      (Nat.toDigits 10 n.toNat).head? = some '0') := by
    rintro ⟨hlong, hhead⟩
    rw [head?_toDigits hhead] at hlong
    simp at hlong
  simp only [readByte?, takeWhile_append_of_ends (fun c hc => isDigit_of_mem_toDigits hc) h,
    Nat.ofDigitChars_ten_toDigits, List.drop_left]
  rw [if_neg]
  · simp
  · simp only [Bool.or_eq_true, Bool.and_eq_true, List.isEmpty_iff, decide_eq_true_eq,
      beq_iff_eq, not_or]
    exact ⟨⟨⟨Nat.toDigits_ne_nil, by omega⟩, hzero⟩, by omega⟩

theorem toList_dotted (a b c d : UInt8) :
    (dotted a b c d).toList = Nat.toDigits 10 a.toNat ++ '.' :: (Nat.toDigits 10 b.toNat ++
      '.' :: (Nat.toDigits 10 c.toNat ++ '.' :: Nat.toDigits 10 d.toNat)) := by
  simp [dotted, String.toList_append]

theorem readDotted?_dotted (a b c d : UInt8) :
    readDotted? (dotted a b c d).toList = some ((a, b, c, d), []) := by
  have hpoint (cs : List Char) : Ends Char.isDigit ('.' :: cs) := ends_cons (by decide) cs
  have hlast : readByte? (Nat.toDigits 10 d.toNat) = some (d, []) := by
    have hend : Ends Char.isDigit [] := by simp [Ends]
    simpa using readByte?_toDigits d hend
  simp [readDotted?, toList_dotted, readByte?_toDigits _ (hpoint _), readNextByte?, hlast]

/-- A text without a point is not dotted. -/
theorem readDotted?_eq_none (h : '.' ∉ cs) : readDotted? cs = none := by
  have hnext (k : Nat) : readNextByte? (cs.drop k) = none := by
    unfold readNextByte?
    split
    · rename_i cs' he
      exact absurd (List.mem_of_mem_drop (he ▸ List.mem_cons_self)) h
    · rfl
  cases hb : readByte? cs with
  | none => simp [readDotted?, hb]
  | some r =>
    obtain ⟨n, rest⟩ := r
    obtain ⟨k, rfl⟩ : ∃ k, rest = cs.drop k := by
      simp only [readByte?] at hb
      split at hb
      · simp at hb
      · simp only [Option.some.injEq, Prod.mk.injEq] at hb
        exact ⟨_, hb.2.symm⟩
    simp [readDotted?, hb, hnext]

/-- Neither is a text that does not begin with a digit. -/
theorem readDotted?_of_ends (h : Ends Char.isDigit cs) : readDotted? cs = none := by
  have hnil : ∀ c ∈ ([] : List Char), c.isDigit = true := by simp
  have hd : cs.takeWhile Char.isDigit = [] := takeWhile_append_of_ends hnil h
  simp [readDotted?, readByte?, hd]

/-! ## Groups -/

theorem digit?_digitChar {d : Nat} (h : d < 16) : Hex.digit? (Nat.digitChar d) = some d := by
  interval_cases d <;> rfl

theorem exists_of_mem_toDigits {n : Nat} {c : Char} (h : c ∈ Nat.toDigits 16 n) :
    ∃ d < 16, c = Nat.digitChar d := by
  induction n using Nat.strongRecOn with
  | ind n ih =>
    by_cases hn : n < 16
    · rw [Nat.toDigits_of_lt_base hn, List.mem_singleton] at h
      exact ⟨n, hn, h⟩
    · rw [Nat.toDigits_of_base_le (by decide) (by omega), List.mem_append,
        List.mem_singleton] at h
      rcases h with h | h
      · exact ih (n / 16) (by omega) h
      · exact ⟨n % 16, by omega, h⟩

theorem notMem_toDigits {n : Nat} {c : Char} (h : ∀ d < 16, c ≠ Nat.digitChar d) :
    c ∉ Nat.toDigits 16 n := fun hc => by
  obtain ⟨d, hd, he⟩ := exists_of_mem_toDigits hc
  exact h d hd he

theorem foldl_toDigits (n : Nat) :
    (Nat.toDigits 16 n).foldl (fun acc c => 16 * acc + (Hex.digit? c).getD 0) 0 = n := by
  induction n using Nat.strongRecOn with
  | ind n ih =>
    by_cases hn : n < 16
    · rw [Nat.toDigits_of_lt_base hn]
      simp [digit?_digitChar hn]
    · have hmod : n % 16 < 16 := by omega
      rw [Nat.toDigits_of_base_le (by decide) (by omega), List.foldl_append,
        ih (n / 16) (by omega)]
      simp only [List.foldl_cons, List.foldl_nil, digit?_digitChar hmod, Option.getD_some]
      omega

/-- The digits of a group. -/
def groupDigits (g : UInt16) : List Char := Nat.toDigits 16 g.toNat

/-- Whether a character is a hexadecimal digit. -/
def isHex (c : Char) : Bool := (Hex.digit? c).isSome

theorem isHex_of_mem {g : UInt16} {c : Char} (h : c ∈ groupDigits g) : isHex c = true := by
  obtain ⟨d, hd, rfl⟩ := exists_of_mem_toDigits h
  simp [isHex, digit?_digitChar hd]

theorem readGroup?_groupDigits (g : UInt16) (h : Ends isHex rest) :
    readGroup? (groupDigits g ++ rest) = some (g, rest) := by
  have hg : g.toNat < 65536 := g.toNat_lt_size
  have hlen : (groupDigits g).length ≤ 4 :=
    (Nat.length_toDigits_le_iff (by decide) (by decide)).2 (by omega)
  have htake : (groupDigits g ++ rest).takeWhile (fun c => (Hex.digit? c).isSome) = groupDigits g :=
    takeWhile_append_of_ends (fun c hc => isHex_of_mem hc) h
  have hvalue : (groupDigits g).foldl (fun acc c => 16 * acc + (Hex.digit? c).getD 0) 0 = g.toNat :=
    foldl_toDigits g.toNat
  have hne : groupDigits g ≠ [] := Nat.toDigits_ne_nil
  simp only [readGroup?, htake, hvalue, List.drop_left]
  rw [if_neg]
  · simp
  · simp only [Bool.or_eq_true, List.isEmpty_iff, decide_eq_true_eq, not_or]
    exact ⟨hne, by omega⟩

theorem readGroup?_of_ends (h : Ends isHex cs) : readGroup? cs = none := by
  have hnil : ∀ c ∈ ([] : List Char), isHex c = true := by simp
  have hd : cs.takeWhile (fun c => (Hex.digit? c).isSome) = [] := takeWhile_append_of_ends hnil h
  simp [readGroup?, hd]

/-- Groups, each behind a colon. -/
def behindColons (gs : List UInt16) : List Char := gs.flatMap fun g => ':' :: groupDigits g

theorem toList_colonSeparated_cons (g : UInt16) (gs : List UInt16) :
    (colonSeparated (g :: gs)).toList = groupDigits g ++ behindColons gs := by
  induction gs generalizing g with
  | nil => simp [colonSeparated, behindColons, groupDigits, Text.hexadecimal]
  | cons h gs ih =>
    have hstep : colonSeparated (g :: h :: gs) =
        Text.hexadecimal g.toNat ++ ":" ++ colonSeparated (h :: gs) := by
      simp only [colonSeparated, List.map_cons, String.intercalate_cons_cons]
    rw [hstep, String.toList_append, String.toList_append, ih]
    simp [behindColons, groupDigits, Text.hexadecimal]

theorem notMem_colonSeparated (gs : List UInt16) : '.' ∉ (colonSeparated gs).toList := by
  have hg (g : UInt16) : '.' ∉ groupDigits g := notMem_toDigits (by decide)
  cases gs with
  | nil => simp [colonSeparated]
  | cons g gs =>
    rw [toList_colonSeparated_cons, List.mem_append, not_or]
    exact ⟨hg g, by simp [behindColons, hg]⟩

/-- Reading goes on behind a group. -/
theorem readGroups_group {g : UInt16} (hdot : '.' ∉ groupDigits g ++ cs) (he : Ends isHex cs)
    (limit : Nat) (first : Bool) :
    readGroups (limit + 1) first ((if first then [] else [':']) ++ (groupDigits g ++ cs)) =
      let more := readGroups limit false cs
      ⟨g :: more.groups, more.endsDotted, more.rest⟩ := by
  have hd : (if 0 < limit then readDotted? (groupDigits g ++ cs) else none) = none := by
    rw [readDotted?_eq_none hdot, ite_self]
  have hr := readGroup?_groupDigits g he
  cases first with
  | false =>
    simp only [Bool.false_eq_true, if_false, List.cons_append, List.nil_append, readGroups,
      Option.bind_some, hd, hr]
  | true => simp only [if_true, List.nil_append, readGroups, Option.bind_some, hd, hr]

section Groups

-- What follows the groups: nothing, or the two colons of a run of zeros.
variable (hdot : '.' ∉ rest) (hrest : rest = [] ∨ ∃ t, rest = ':' :: ':' :: t)

include hrest

theorem ends_behindColons (gs : List UInt16) : Ends isHex (behindColons gs ++ rest) := by
  have hcolon (cs : List Char) : Ends isHex (':' :: cs) := ends_cons (by decide) cs
  cases gs with
  | nil =>
    rcases hrest with rfl | ⟨t, rfl⟩
    · simp [Ends, behindColons]
    · exact hcolon _
  | cons g gs => exact hcolon _

include hdot

omit hrest in
theorem notMem_behindColons (gs : List UInt16) : '.' ∉ behindColons gs ++ rest := by
  have hg (g : UInt16) : '.' ∉ groupDigits g := notMem_toDigits (by decide)
  simp [behindColons, hg, hdot]

theorem readGroups_behindColons {limit : Nat} {gs : List UInt16} (h : gs.length ≤ limit) :
    readGroups limit false (behindColons gs ++ rest) = ⟨gs, false, rest⟩ := by
  induction gs generalizing limit with
  | nil =>
    cases limit with
    | zero => rfl
    | succ limit =>
      rcases hrest with rfl | ⟨t, rfl⟩
      · simp [readGroups, behindColons]
      · have hd : readDotted? (':' :: t) = none :=
          readDotted?_eq_none (mt (List.mem_cons_of_mem _) hdot)
        have hg : readGroup? (':' :: t) = none :=
          readGroup?_of_ends (ends_behindColons (.inr ⟨t, rfl⟩) [])
        simp [readGroups, behindColons, hd, hg]
  | cons g gs ih =>
    obtain ⟨limit, rfl⟩ : ∃ l, limit = l + 1 := ⟨limit - 1, by simp at h; omega⟩
    have hg := readGroups_group (g := g) (by
      simpa [behindColons] using notMem_behindColons hdot (g :: gs))
      (ends_behindColons hrest gs) limit false
    rw [ih (by simpa using h)] at hg
    simpa [behindColons] using hg

theorem readGroups_colonSeparated {limit : Nat} {gs : List UInt16} (h : gs.length ≤ limit)
    (hl : 0 < limit) :
    readGroups limit true ((colonSeparated gs).toList ++ rest) = ⟨gs, false, rest⟩ := by
  obtain ⟨limit, rfl⟩ : ∃ l, limit = l + 1 := ⟨limit - 1, by omega⟩
  cases gs with
  | nil =>
    have hd : readDotted? rest = none := readDotted?_eq_none hdot
    have hg : readGroup? rest = none := readGroup?_of_ends (ends_behindColons hrest [])
    simp [readGroups, colonSeparated, hd, hg]
  | cons g gs =>
    have hg := readGroups_group (g := g) (by
      simpa [behindColons] using notMem_behindColons hdot (g :: gs))
      (ends_behindColons hrest gs) limit true
    rw [readGroups_behindColons hdot hrest (by simpa using h)] at hg
    simpa [toList_colonSeparated_cons] using hg

end Groups

/-! ## Runs of zeros -/

theorem take_leadingZeros (gs : List UInt16) :
    gs.take (leadingZeros gs) = List.replicate (leadingZeros gs) 0 := by
  induction gs with
  | nil => rfl
  | cons g gs ih =>
    by_cases hg : g = 0
    · simp only [leadingZeros, hg] at ih ⊢
      simp [List.replicate_succ, ih]
    · simp [leadingZeros, hg]

/-- The run is where it is said to be, and it consists of zeros. -/
theorem longestZeroRun_spec (gs : List UInt16) :
    (longestZeroRun gs).1 + (longestZeroRun gs).2 ≤ gs.length ∧
      (gs.drop (longestZeroRun gs).1).take (longestZeroRun gs).2 =
        List.replicate (longestZeroRun gs).2 0 := by
  induction gs with
  | nil => simp [longestZeroRun]
  | cons g gs ih =>
    simp only [longestZeroRun]
    split
    · have hlen : leadingZeros (g :: gs) ≤ (g :: gs).length :=
        (List.takeWhile_prefix _).length_le
      exact ⟨by simpa using hlen, take_leadingZeros (g :: gs)⟩
    · refine ⟨?_, by simpa using ih.2⟩
      have h := ih.1
      simp only [List.length_cons]
      omega

/-! ## Version 6 -/

theorem groupOfBytes_bytes (g : UInt16) : groupOfBytes (g >>> 8).toUInt8 g.toUInt8 = g := by
  have hg : g.toNat < 65536 := g.toNat_lt_size
  have hor := Nat.shiftLeft_add_eq_or_of_lt (b := g.toNat % 256) (i := 8) (by omega) (g.toNat / 256)
  have hhigh : g.toNat >>> 8 % 256 = g.toNat / 256 := by
    rw [Nat.shiftRight_eq_div_pow]
    omega
  have hshift : (g.toNat / 256) <<< 8 % 65536 = (g.toNat / 256) <<< 8 := by
    rw [Nat.shiftLeft_eq]
    omega
  apply UInt16.toNat_inj.1
  simp only [groupOfBytes, UInt16.toNat_or, UInt16.toNat_shiftLeft, UInt8.toNat_toUInt16,
    UInt16.toNat_toUInt8, UInt16.toNat_shiftRight, UInt16.reduceToNat, Nat.reduceMod, hhigh,
    Nat.reducePow]
  rw [hshift, ← hor, Nat.shiftLeft_eq]
  omega

theorem ofV6Chars?_colonSeparated {gs : List UInt16} (h : gs.length = 8) :
    ofV6Chars? (colonSeparated gs).toList = ofGroups? gs := by
  have hr : readGroups 8 true ((colonSeparated gs).toList ++ []) = ⟨gs, false, []⟩ :=
    readGroups_colonSeparated (by simp) (.inl rfl) (by omega) (by decide)
  rw [List.append_nil] at hr
  simp [ofV6Chars?, hr, h]

/-- What stands around a run of zeros is read back, and the zeros are filled in. -/
theorem ofV6Chars?_around {front back : List UInt16} {k : Nat} (hk : 1 < k)
    (h : front.length + k + back.length = 8) :
    ofV6Chars? ((colonSeparated front).toList ++ ':' :: ':' :: (colonSeparated back).toList) =
      ofGroups? (front ++ List.replicate k 0 ++ back) := by
  have hfront : readGroups 8 true
      ((colonSeparated front).toList ++ ':' :: ':' :: (colonSeparated back).toList) =
        ⟨front, false, ':' :: ':' :: (colonSeparated back).toList⟩ :=
    readGroups_colonSeparated (by simpa using notMem_colonSeparated back) (.inr ⟨_, rfl⟩) (by omega)
      (by decide)
  have hback : readGroups (7 - front.length) true ((colonSeparated back).toList ++ []) =
      ⟨back, false, []⟩ :=
    readGroups_colonSeparated (by simp) (.inl rfl) (by omega) (by omega)
  rw [List.append_nil] at hback
  have hne : front.length ≠ 8 := by omega
  have hfill : 8 - front.length - back.length = k := by omega
  simp [ofV6Chars?, hfront, hback, hne, hfill]

theorem ofV6Chars?_compressed {gs : List UInt16} (h : gs.length = 8) :
    ofV6Chars? (compressed gs).toList = ofGroups? gs := by
  obtain ⟨hlen, hzero⟩ := longestZeroRun_spec gs
  simp only [compressed]
  split
  · rename_i hk
    have hgs : gs = gs.take (longestZeroRun gs).1 ++ List.replicate (longestZeroRun gs).2 0 ++
        gs.drop ((longestZeroRun gs).1 + (longestZeroRun gs).2) := by
      rw [← hzero, List.append_assoc, ← List.drop_drop, List.take_append_drop,
        List.take_append_drop]
    have hall : (gs.take (longestZeroRun gs).1).length + (longestZeroRun gs).2 +
        (gs.drop ((longestZeroRun gs).1 + (longestZeroRun gs).2)).length = 8 := by
      simp only [List.length_take, List.length_drop]
      omega
    have hround := ofV6Chars?_around hk hall
    rw [← hgs] at hround
    simpa [String.toList_append] using hround
  · exact ofV6Chars?_colonSeparated h

theorem notMem_compressed (gs : List UInt16) : '.' ∉ (compressed gs).toList := by
  have hnot (gs : List UInt16) := notMem_colonSeparated gs
  simp only [compressed]
  split
  · simp [String.toList_append, hnot]
  · exact hnot gs

theorem ofV6Chars?_embedded (a b c d : UInt8) :
    ofV6Chars? ("::ffff:" ++ dotted a b c d).toList =
      some (.v6 0 0 0 0 0 0xFFFF (groupOfBytes a b) (groupOfBytes c d)) := by
  have hd := readDotted?_dotted a b c d
  have hlist : ("::ffff:" ++ dotted a b c d).toList =
      ':' :: ':' :: (groupDigits 0xFFFF ++ ':' :: (dotted a b c d).toList) := by
    rw [String.toList_append]
    rfl
  have hhead (cs : List Char) : readGroups 8 true (':' :: cs) = ⟨[], false, ':' :: cs⟩ := by
    have hf : readDotted? (':' :: cs) = none := readDotted?_of_ends (ends_cons (by decide) cs)
    have hg : readGroup? (':' :: cs) = none := readGroup?_of_ends (ends_cons (by decide) cs)
    simp [readGroups, hf, hg]
  have htail : readGroups 7 true (groupDigits 0xFFFF ++ ':' :: (dotted a b c d).toList) =
      ⟨[0xFFFF, groupOfBytes a b, groupOfBytes c d], true, []⟩ := by
    have hf : readDotted? (groupDigits 0xFFFF ++ ':' :: (dotted a b c d).toList) = none :=
      readDotted?_of_ends (ends_cons (c := 'f') (by decide) _)
    have hg : readGroup? (groupDigits 0xFFFF ++ ':' :: (dotted a b c d).toList) =
        some (0xFFFF, ':' :: (dotted a b c d).toList) :=
      readGroup?_groupDigits 0xFFFF (ends_cons (by decide) _)
    simp [readGroups, hf, hg, hd]
  simp [ofV6Chars?, hlist, hhead, htail, ofGroups?]

/-- The text of an address is read as the address. -/
@[simp] theorem ofText?_text (ip : IpAddress) : ofText? ip.text = some ip := by
  cases ip with
  | v4 a b c d => simp [ofText?, text, ofV4Chars?, readDotted?_dotted]
  | v6 a b c d e f g h =>
    by_cases he : embedsV4 [a, b, c, d, e, f] = true
    · have hv4 : ofV4Chars? ("::ffff:" ++ dotted (g >>> 8).toUInt8 g.toUInt8 (h >>> 8).toUInt8
          h.toUInt8).toList = none := by
        have hd (cs : List Char) : readDotted? (':' :: cs) = none :=
          readDotted?_of_ends (ends_cons (by decide) cs)
        simp [String.toList_append, ofV4Chars?, hd]
      simp only [ofText?, text, if_pos he, hv4, ofV6Chars?_embedded, groupOfBytes_bytes]
      simp only [embedsV4, beq_iff_eq, List.cons.injEq, and_true] at he
      obtain ⟨rfl, rfl, rfl, rfl, rfl, rfl⟩ := he
      rfl
    · have hv4 : ofV4Chars? (compressed [a, b, c, d, e, f, g, h]).toList = none := by
        simp [ofV4Chars?, readDotted?_eq_none (notMem_compressed _)]
      have hlength : [a, b, c, d, e, f, g, h].length = 8 := rfl
      simp only [ofText?, text, if_neg he, hv4, ofV6Chars?_compressed hlength, ofGroups?,
        Option.none_or]

/-! ## Addresses as words -/

theorem isHex_of_isDigit {c : Char} (h : c.isDigit = true) : isHex c = true := by
  simp [isHex, Hex.digit?, h]

theorem isBlank_of_isHex {c : Char} (h : isHex c = true) : Text.isBlank c = false := by
  simp only [isHex, Hex.digit?] at h
  split at h
  · rename_i hd
    exact Text.isBlank_of_isDigit hd
  · have hrange : 65 ≤ c.toNat ∧ c.toNat ≤ 102 := by
      split at h
      · rename_i hc
        have h₁ : 97 ≤ c.toNat := hc.1
        have h₂ : c.toNat ≤ 102 := hc.2
        omega
      · split at h
        · rename_i hc
          have h₁ : 65 ≤ c.toNat := hc.1
          have h₂ : c.toNat ≤ 70 := hc.2
          omega
        · simp at h
    simp only [Text.isBlank, Bool.or_eq_false_iff, Bool.and_eq_false_iff, decide_eq_false_iff_not,
      beq_eq_false_iff_ne]
    omega

theorem mem_dotted {a b c d : UInt8} {x : Char} (h : x ∈ (dotted a b c d).toList) :
    isHex x = true ∨ x = '.' := by
  have hdigit {n : Nat} (h : x ∈ Nat.toDigits 10 n) : isHex x = true :=
    isHex_of_isDigit (isDigit_of_mem_toDigits h)
  simp only [toList_dotted, List.mem_append, List.mem_cons] at h
  rcases h with h | h | h | h | h | h | h
  · exact .inl (hdigit h)
  · exact .inr h
  · exact .inl (hdigit h)
  · exact .inr h
  · exact .inl (hdigit h)
  · exact .inr h
  · exact .inl (hdigit h)

theorem mem_colonSeparated {gs : List UInt16} {x : Char} (h : x ∈ (colonSeparated gs).toList) :
    isHex x = true ∨ x = ':' := by
  cases gs with
  | nil => simp [colonSeparated] at h
  | cons g gs =>
    simp only [toList_colonSeparated_cons, List.mem_append, behindColons, List.mem_flatMap,
      List.mem_cons] at h
    rcases h with h | ⟨g', -, h | h⟩
    · exact .inl (isHex_of_mem h)
    · exact .inr h
    · exact .inl (isHex_of_mem h)

/-- The text of an address is made of hexadecimal digits, points and colons. -/
theorem mem_text {ip : IpAddress} {x : Char} (h : x ∈ ip.text.toList) :
    isHex x = true ∨ x = '.' ∨ x = ':' := by
  cases ip with
  | v4 a b c d => exact (mem_dotted h).imp_right .inl
  | v6 a b c d e f g h' =>
    simp only [text] at h
    split at h
    · rw [String.toList_append, List.mem_append] at h
      rcases h with h | h
      · have hprefix : "::ffff:".toList.all (fun y => isHex y || y == ':') = true := by decide
        have hx := List.all_eq_true.1 hprefix x h
        rw [Bool.or_eq_true, beq_iff_eq] at hx
        exact hx.imp_right .inr
      · exact (mem_dotted h).imp_right .inl
    · simp only [compressed] at h
      split at h
      · simp only [String.toList_append, List.mem_append] at h
        rcases h with (h | h) | h
        · exact (mem_colonSeparated h).imp_right .inr
        · have hcolons : "::".toList = List.replicate 2 ':' := by decide
          rw [hcolons] at h
          exact .inr (.inr (List.eq_of_mem_replicate h))
        · exact (mem_colonSeparated h).imp_right .inr
      · exact (mem_colonSeparated h).imp_right .inr

theorem isWord_text (ip : IpAddress) : Text.IsWord ip.text.toList where
  ne_nil := by
    intro he
    have h := ofText?_text ip
    rw [String.toList_eq_nil_iff.1 he] at h
    have hnone : ofText? "" = none := by decide
    rw [hnone] at h
    simp at h
  notBlank := by
    intro c hc
    rcases mem_text hc with h | rfl | rfl
    · exact isBlank_of_isHex h
    · decide
    · decide

theorem slash_notMem_text (ip : IpAddress) : '/' ∉ ip.text.toList := by
  intro h
  have hnot : ¬(isHex '/' = true ∨ '/' = '.' ∨ '/' = ':') := by decide
  exact hnot (mem_text h)

end MediaGateway.IpAddress
