import MediaGateway.Text.Blank
import MediaGateway.Text.Numeral
import MediaGateway.Text.Split
import Mathlib.Data.List.TakeWhile

/-!
# Taking apart what was put together

Texts are put together out of words, which have no blanks, and trimmed texts, which have none at
their ends. Cut at the characters that were put between them, such texts give back their parts.
-/

namespace MediaGateway.Text

variable {sep c : Char} {a b w : List Char}

/-- A text that is not empty and has no blanks. -/
structure IsWord (w : List Char) : Prop where
  ne_nil : w ≠ []
  notBlank : ∀ c ∈ w, isBlank c = false

/-- A text without blanks at its ends. -/
def IsTrimmed (a : List Char) : Prop := trim a = a

/-- A text that is all on one line and leaves its end alone. -/
structure IsLine (a : List Char) : Prop where
  notMem : '\n' ∉ a
  last : ∀ c ∈ a.getLast?, c ≠ '\r'

/-- A trimmed text that is all on one line. -/
structure IsTrimmedLine (a : List Char) : Prop where
  trimmed : IsTrimmed a
  notMem : '\n' ∉ a

instance : Decidable (IsTrimmed a) := inferInstanceAs (Decidable (_ = _))

instance : Decidable (IsWord w) :=
  decidable_of_iff (w ≠ [] ∧ w.all (fun c => !isBlank c) = true)
    ⟨fun h => ⟨h.1, by simpa using h.2⟩, fun h => ⟨h.1, by simpa using h.2⟩⟩

instance : Decidable (IsLine a) :=
  decidable_of_iff ('\n' ∉ a ∧ a.getLast? ≠ some '\r')
    ⟨fun h => ⟨h.1, fun _ hc he => h.2 (he ▸ hc)⟩, fun h => ⟨h.1, fun hc => h.2 _ hc rfl⟩⟩

instance : Decidable (IsTrimmedLine a) :=
  decidable_of_iff (IsTrimmed a ∧ '\n' ∉ a) ⟨fun h => ⟨h.1, h.2⟩, fun h => ⟨h.1, h.2⟩⟩

/-! ## Ends of texts -/

theorem dropWhile_eq_self {p : Char → Bool} (h : ∀ c ∈ a.head?, p c = false) : a.dropWhile p = a := by
  cases a with
  | nil => rfl
  | cons c a => simp [h c rfl]

theorem dropTrailing_eq_self {p : Char → Bool} (h : ∀ c ∈ a.getLast?, p c = false) :
    dropTrailing p a = a := by
  have hd : a.reverse.dropWhile p = a.reverse := dropWhile_eq_self (by simpa using h)
  rw [dropTrailing, hd, List.reverse_reverse]

theorem getLast?_dropTrailing (p : Char → Bool) (a : List Char) :
    ∀ c ∈ (dropTrailing p a).getLast?, p c = false := by
  intro c hc
  simp only [dropTrailing, List.getLast?_reverse, Option.mem_def] at hc
  have h := List.head?_dropWhile_not p a.reverse
  rw [hc] at h
  simpa using h

theorem head?_dropTrailing {p : Char → Bool} (h : c ∈ (dropTrailing p a).head?) : c ∈ a.head? := by
  have hprefix : dropTrailing p a <+: a := by
    rw [← List.reverse_suffix, dropTrailing, List.reverse_reverse]
    exact List.dropWhile_suffix p
  obtain ⟨rest, ha⟩ := hprefix
  cases hd : dropTrailing p a with
  | nil => simp [hd] at h
  | cons d ds =>
    rw [hd] at h ha
    rw [← ha]
    simpa using h

theorem head?_trim (h : c ∈ (trim a).head?) : isBlank c = false := by
  have hb := List.head?_dropWhile_not isBlank a
  rw [Option.mem_def.1 (head?_dropTrailing h)] at hb
  simpa using hb

theorem getLast?_trim (h : c ∈ (trim a).getLast?) : isBlank c = false :=
  getLast?_dropTrailing isBlank _ c h

/-- Trimmed texts are those that neither begin nor end with a blank. -/
theorem isTrimmed_iff :
    IsTrimmed a ↔ (∀ c ∈ a.head?, isBlank c = false) ∧ ∀ c ∈ a.getLast?, isBlank c = false := by
  constructor
  · intro h
    exact ⟨fun c hc => head?_trim (by rwa [h]), fun c hc => getLast?_trim (by rwa [h])⟩
  · rintro ⟨hh, hl⟩
    rw [IsTrimmed, trim, dropWhile_eq_self hh, dropTrailing_eq_self hl]

theorem isTrimmed_trim (a : List Char) : IsTrimmed (trim a) :=
  isTrimmed_iff.2 ⟨fun _ => head?_trim, fun _ => getLast?_trim⟩

theorem mem_of_mem_trim (h : c ∈ trim a) : c ∈ a := by
  simp only [trim, dropTrailing, List.mem_reverse] at h
  have hd := (List.dropWhile_sublist isBlank).subset h
  exact (List.dropWhile_sublist isBlank).subset (List.mem_reverse.1 hd)

theorem mem_dropWhile {p : Char → Bool} (h : c ∈ a) (hc : p c = false) : c ∈ a.dropWhile p := by
  induction a with
  | nil => simp at h
  | cons d a ih =>
    rw [List.dropWhile_cons]
    split
    · rename_i hd
      rcases List.mem_cons.1 h with rfl | h
      · simp [hc] at hd
      · exact ih h
    · exact h

/-- Only blanks are trimmed off. -/
theorem mem_trim (h : c ∈ a) (hc : isBlank c = false) : c ∈ trim a := by
  rw [trim, dropTrailing, List.mem_reverse]
  exact mem_dropWhile (List.mem_reverse.2 (mem_dropWhile h hc)) hc

/-- A text is trimmed if it begins with a text that does not begin with a blank and ends with one
that does not end with a blank. -/
theorem isTrimmed_append (ha : a ≠ []) (hb : b ≠ []) (hh : ∀ c ∈ a.head?, isBlank c = false)
    (hl : ∀ c ∈ b.getLast?, isBlank c = false) : IsTrimmed (a ++ b) := by
  rw [isTrimmed_iff, List.head?_append, List.getLast?_append]
  obtain ⟨c, hc⟩ := Option.ne_none_iff_exists'.1 (mt List.head?_eq_none_iff.1 ha)
  obtain ⟨d, hd⟩ := Option.ne_none_iff_exists'.1 (mt List.getLast?_eq_none_iff.1 hb)
  rw [hc] at hh ⊢
  rw [hd] at hl ⊢
  exact ⟨hh, hl⟩

theorem IsWord.isTrimmed (h : IsWord w) : IsTrimmed w :=
  isTrimmed_iff.2 ⟨fun c hc => h.notBlank c (List.mem_of_mem_head? hc),
    fun c hc => h.notBlank c (List.mem_of_mem_getLast? hc)⟩

theorem IsWord.notMem (h : IsWord w) (hc : isBlank c = true) : c ∉ w := fun hm => by
  simp [h.notBlank c hm] at hc

theorem IsWord.isTrimmedLine (h : IsWord w) : IsTrimmedLine w :=
  ⟨h.isTrimmed, h.notMem (by decide)⟩

/-! ## Lines -/

theorem IsTrimmedLine.isLine (h : IsTrimmedLine a) : IsLine a where
  notMem := h.notMem
  last := by
    rintro c hc rfl
    have hb : isBlank '\r' = false := (isTrimmed_iff.1 h.trimmed).2 _ hc
    simp [isBlank] at hb

theorem IsWord.isLine (h : IsWord w) : IsLine w := h.isTrimmedLine.isLine

theorem IsLine.append (ha : IsLine a) (hb : IsLine b) : IsLine (a ++ b) where
  notMem := by simp [ha.notMem, hb.notMem]
  last := by
    intro c hc
    rw [List.getLast?_append] at hc
    cases hl : b.getLast? with
    | none =>
      rw [hl] at hc
      exact ha.last c hc
    | some d =>
      rw [hl] at hc
      exact hb.last c (by rw [hl]; exact hc)

theorem isLine_append {s t : String} (hs : IsLine s.toList) (ht : IsLine t.toList) :
    IsLine (s ++ t).toList := by
  rw [String.toList_append]
  exact hs.append ht

theorem IsLine.flatMap {α : Type} {as : List α} {f : α → List Char} (h : ∀ x ∈ as, IsLine (f x)) :
    IsLine (as.flatMap f) := by
  induction as with
  | nil => exact ⟨by simp, by simp⟩
  | cons x as ih =>
    obtain ⟨hx, has⟩ := List.forall_mem_cons.1 h
    rw [List.flatMap_cons]
    exact hx.append (ih has)

/-! ## Words -/

theorem words_word (h : IsWord w) : words w = [w] := by
  obtain ⟨hne, hb⟩ := h
  induction w with
  | nil => exact absurd rfl hne
  | cons c w ih =>
    obtain ⟨hc, hw⟩ := List.forall_mem_cons.1 hb
    cases w with
    | nil => simp [words, hc]
    | cons d w =>
      have hd : isBlank d = false := hw d (by simp)
      rw [words, hc, ih (by simp) hw]
      simp [hd]

/-- A word before a blank is split off. -/
theorem words_append (h : IsWord w) (hc : isBlank c = true) (a : List Char) :
    words (w ++ c :: a) = w :: words a := by
  obtain ⟨hne, hb⟩ := h
  induction w with
  | nil => exact absurd rfl hne
  | cons d w ih =>
    obtain ⟨hd, hw⟩ := List.forall_mem_cons.1 hb
    cases w with
    | nil => simp [words, hd, hc]
    | cons e w =>
      have he : isBlank e = false := hw e (by simp)
      have hr := ih (by simp) hw
      rw [List.cons_append] at hr
      rw [List.cons_append, List.cons_append, words, hd, hr]
      simp [he]

theorem words_append_space (h : IsWord w) (a : List Char) : words (w ++ ' ' :: a) = w :: words a :=
  words_append h (by decide) a

/-- Words with a space before each of them. -/
theorem words_flatMap {ws : List (List Char)} (h : ∀ w ∈ ws, IsWord w) (hw : IsWord w) :
    words (w ++ ws.flatMap (' ' :: ·)) = w :: ws := by
  induction ws generalizing w with
  | nil => simpa using words_word hw
  | cons v ws ih =>
    obtain ⟨hv, hws⟩ := List.forall_mem_cons.1 h
    rw [List.flatMap_cons, List.cons_append, words_append hw (by decide), ih hws hv]

/-! ## Separators -/

theorem cut_append (h : sep ∉ a) (b : List Char) : cut sep (a ++ sep :: b) = some (a, b) := by
  induction a with
  | nil => simp [cut]
  | cons c a ih =>
    obtain ⟨hc, ha⟩ := not_or.1 (mt List.mem_cons.2 h)
    simp [cut, Ne.symm hc, ih ha]

theorem cut_eq_some {b : List Char} (h : cut sep a = some (b, w)) : a = b ++ sep :: w ∧ sep ∉ b := by
  induction a generalizing b with
  | nil => simp [cut] at h
  | cons c a ih =>
    simp only [cut] at h
    split at h
    · rename_i hc
      simp only [Option.some.injEq, Prod.mk.injEq] at h
      obtain ⟨rfl, rfl⟩ := h
      exact ⟨by rw [hc]; rfl, by simp⟩
    · rename_i hc
      obtain ⟨⟨b', w'⟩, hcut, he⟩ := Option.map_eq_some_iff.1 h
      simp only [Prod.mk.injEq] at he
      obtain ⟨rfl, rfl⟩ := he
      obtain ⟨rfl, hb⟩ := ih hcut
      exact ⟨rfl, by simp [hb, Ne.symm hc]⟩

theorem cut_of_notMem (h : sep ∉ a) : cut sep a = none := by
  induction a with
  | nil => rfl
  | cons c a ih =>
    obtain ⟨hc, ha⟩ := not_or.1 (mt List.mem_cons.2 h)
    simp [cut, Ne.symm hc, ih ha]

/-- What stands around a separator is split by itself. -/
theorem split_append_cons (sep : Char) (a b : List Char) :
    split sep (a ++ sep :: b) = split sep a ++ split sep b := by
  induction a with
  | nil => simp [split]
  | cons c a ih =>
    by_cases hc : c = sep
    · simp [split, hc, ih]
    · obtain ⟨piece, pieces, hp⟩ := List.exists_cons_of_ne_nil (split_ne_nil sep a)
      simp [split, hc, ih, hp]

theorem split_of_notMem (h : sep ∉ a) : split sep a = [a] := by
  induction a with
  | nil => rfl
  | cons c a ih =>
    obtain ⟨hc, ha⟩ := not_or.1 (mt List.mem_cons.2 h)
    simp [split, Ne.symm hc, ih ha]

theorem split_append (h : sep ∉ a) (b : List Char) :
    split sep (a ++ sep :: b) = a :: split sep b := by
  rw [split_append_cons, split_of_notMem h]
  rfl

theorem upTo_of_notMem (h : sep ∉ a) : upTo sep a = a := by
  refine List.takeWhile_eq_self_iff.2 fun c hc => ?_
  have hne : c ≠ sep := fun he => h (he ▸ hc)
  simpa using hne

theorem afterStart_append (a b : List Char) : afterStart a (a ++ b) = some b := by
  induction a with
  | nil => cases b <;> rfl
  | cons c a ih => simp [afterStart, ih]

/-! ## What parts are like -/

theorem isWord_of_mem_words (h : w ∈ words a) : IsWord w := by
  induction a generalizing w with
  | nil => simp [words] at h
  | cons c a ih =>
    simp only [words.eq_def (c :: a)] at h
    split at h
    · exact ih h
    · rename_i hc
      have hsingle : IsWord [c] := ⟨by simp, by simpa using hc⟩
      split at h
      · obtain rfl := List.mem_singleton.1 h
        exact hsingle
      · split at h
        · rcases List.mem_cons.1 h with rfl | h
          · exact hsingle
          · exact ih h
        · -- The character is put before the first word of the rest.
          cases hws : words (_ :: _) with
          | nil => exact absurd (hws ▸ h) (by simp)
          | cons v vs =>
            rw [hws] at h ih
            rcases List.mem_cons.1 h with rfl | h
            · have hv : IsWord v := ih List.mem_cons_self
              exact ⟨by simp, List.forall_mem_cons.2 ⟨by simpa using hc, hv.notBlank⟩⟩
            · exact ih (List.mem_cons_of_mem _ h)

theorem notMem_of_cut_eq_none (h : cut sep a = none) : sep ∉ a := by
  induction a with
  | nil => simp
  | cons c a ih =>
    rw [cut] at h
    split at h
    · simp at h
    · rename_i hc
      have ha : sep ∉ a := ih (Option.map_eq_none_iff.1 h)
      simp [ha, Ne.symm hc]

theorem mem_of_mem_upTo (h : c ∈ upTo sep a) : c ∈ a :=
  (List.takeWhile_prefix _).subset h

theorem notMem_upTo (sep : Char) (a : List Char) : sep ∉ upTo sep a := fun h => by
  simpa using List.mem_takeWhile_imp h

theorem head?_upTo (h : c ∈ (upTo sep a).head?) : c ∈ a.head? := by
  cases a with
  | nil => exact h
  | cons d a =>
    rw [upTo, List.takeWhile_cons] at h
    split at h
    · exact h
    · simp at h

/-- The first piece of a text is what stands before the separator. -/
theorem eq_upTo_of_split {bs : List (List Char)} (h : split sep a = b :: bs) : b = upTo sep a := by
  induction a generalizing b bs with
  | nil =>
    obtain ⟨rfl, -⟩ := List.cons.inj h
    rfl
  | cons c a ih =>
    rw [split] at h
    rw [upTo, List.takeWhile_cons]
    split at h
    · rename_i hc
      obtain ⟨rfl, -⟩ := List.cons.inj h
      simp [hc]
    · rename_i hc
      obtain ⟨piece, pieces, hp⟩ := List.exists_cons_of_ne_nil (split_ne_nil sep a)
      rw [hp] at h
      obtain ⟨rfl, -⟩ := List.cons.inj h
      simp [hc, ih hp, upTo]

theorem notMem_of_mem_split (h : w ∈ split sep a) : sep ∉ w := by
  induction a generalizing w with
  | nil =>
    obtain rfl := List.mem_singleton.1 h
    simp
  | cons c a ih =>
    rw [split] at h
    split at h
    · rcases List.mem_cons.1 h with rfl | h
      · simp
      · exact ih h
    · rename_i hc
      obtain ⟨piece, pieces, hp⟩ := List.exists_cons_of_ne_nil (split_ne_nil sep a)
      rw [hp] at h ih
      rcases List.mem_cons.1 h with rfl | h
      · have hpiece : sep ∉ piece := ih List.mem_cons_self
        simp [hpiece, Ne.symm hc]
      · exact ih (List.mem_cons_of_mem _ h)

theorem mem_of_mem_dropTrailing {p : Char → Bool} (h : c ∈ dropTrailing p a) : c ∈ a :=
  List.mem_reverse.1 ((List.dropWhile_sublist p).subset (List.mem_reverse.1 h))

theorem afterStart_eq_some (h : afterStart a w = some b) : w = a ++ b := by
  induction a generalizing w with
  | nil =>
    cases w <;> simpa [afterStart] using h
  | cons c a ih =>
    cases w with
    | nil => simp [afterStart] at h
    | cons d w =>
      rw [afterStart] at h
      split at h
      · rename_i hd
        rw [hd, ih h]
        rfl
      · simp at h

theorem isTrimmedLine_trim (h : '\n' ∉ a) : IsTrimmedLine (trim a) :=
  ⟨isTrimmed_trim a, fun hm => h (mem_of_mem_trim hm)⟩

theorem IsLine.suffix (h : IsLine (a ++ b)) : IsLine b where
  notMem := fun hm => h.notMem (List.mem_append_right a hm)
  last := fun c hc => h.last c (by rw [List.getLast?_append, Option.mem_def.1 hc]; rfl)

/-! ## Case -/

/-- A character in lower case is the character itself or a small letter. -/
theorem toLower_cases (c : Char) :
    c.toLower = c ∨ 97 ≤ c.toLower.toNat ∧ c.toLower.toNat ≤ 122 := by
  unfold Char.toLower
  split
  · rename_i h
    have h₁ : 65 ≤ c.val.toNat := h.1
    have h₂ : c.val.toNat ≤ 90 := h.2
    have hsum : (c.val + 32).toNat = c.val.toNat + 32 := by
      rw [UInt32.toNat_add]
      exact Nat.mod_eq_of_lt (show c.val.toNat + 32 < 2 ^ 32 by omega)
    right
    show 97 ≤ (c.val + 32).toNat ∧ (c.val + 32).toNat ≤ 122
    omega
  · exact .inl rfl

theorem toLower_eq_self (h : 90 < c.toNat) : c.toLower = c := by
  unfold Char.toLower
  split
  · rename_i hu
    have hle : c.toNat ≤ 90 := hu.2
    omega
  · rfl

theorem toLower_toLower (c : Char) : c.toLower.toLower = c.toLower := by
  rcases toLower_cases c with h | ⟨h, -⟩
  · rw [h, h]
  · exact toLower_eq_self (by omega)

theorem isBlank_toLower (h : isBlank c = false) : isBlank c.toLower = false := by
  rcases toLower_cases c with hc | ⟨h₁, h₂⟩
  · rwa [hc]
  · simp only [isBlank, Bool.or_eq_false_iff, Bool.and_eq_false_iff, decide_eq_false_iff_not,
      beq_eq_false_iff_ne]
    omega

theorem IsWord.toLower (h : IsWord w) : IsWord (w.map Char.toLower) where
  ne_nil := by simpa using h.ne_nil
  notBlank := by
    intro c hc
    obtain ⟨d, hd, rfl⟩ := List.mem_map.1 hc
    exact isBlank_toLower (h.notBlank d hd)

/-! ## Numerals -/

theorem isBlank_of_isDigit (h : c.isDigit = true) : isBlank c = false := by
  simp only [Char.isDigit, Bool.and_eq_true, decide_eq_true_eq, UInt32.le_iff_toNat_le] at h
  have h₁ : 48 ≤ c.toNat := h.1
  have h₂ : c.toNat ≤ 57 := h.2
  simp only [isBlank, Bool.or_eq_false_iff, Bool.and_eq_false_iff, decide_eq_false_iff_not,
    beq_eq_false_iff_ne]
  omega

theorem isDigit_of_mem_toDigits {n : Nat} (h : c ∈ Nat.toDigits 10 n) : c.isDigit = true :=
  Nat.isDigit_of_mem_toDigits (by decide) (by decide) h

theorem isWord_toDigits (n : Nat) : IsWord (Nat.toDigits 10 n) :=
  ⟨Nat.toDigits_ne_nil, fun _ hc => isBlank_of_isDigit (isDigit_of_mem_toDigits hc)⟩

theorem notMem_toDigits {n : Nat} (h : c.isDigit = false) : c ∉ Nat.toDigits 10 n := fun hm => by
  simp [isDigit_of_mem_toDigits hm] at h

/-- A number is read back from its decimal digits. -/
theorem readNat?_toDigits (n : Nat) : readNat? (Nat.toDigits 10 n) = some n := by
  have hall : (Nat.toDigits 10 n).all Char.isDigit = true :=
    List.all_eq_true.2 fun _ hc => isDigit_of_mem_toDigits hc
  have hplus : '+' ∉ Nat.toDigits 10 n := notMem_toDigits (by decide)
  unfold readNat?
  split
  · rename_i rest he
    exact absurd (he ▸ List.mem_cons_self) hplus
  · simp [hall, Nat.toDigits_ne_nil, Nat.ofDigitChars_ten_toDigits]

theorem readBelow?_toDigits {n bound : Nat} (h : n < bound) :
    readBelow? bound (Nat.toDigits 10 n) = some n := by
  simp [readBelow?, readNat?_toDigits, h]

@[simp] theorem readUInt8?_toDigits (n : UInt8) :
    readUInt8? (Nat.toDigits 10 n.toNat) = some n := by
  simp [readUInt8?, readBelow?_toDigits n.toNat_lt_size]

@[simp] theorem readUInt16?_toDigits (n : UInt16) :
    readUInt16? (Nat.toDigits 10 n.toNat) = some n := by
  simp [readUInt16?, readBelow?_toDigits n.toNat_lt_size]

@[simp] theorem readUInt32?_toDigits (n : UInt32) :
    readUInt32? (Nat.toDigits 10 n.toNat) = some n := by
  simp [readUInt32?, readBelow?_toDigits n.toNat_lt_size]

@[simp] theorem readUInt64?_toDigits (n : UInt64) :
    readUInt64? (Nat.toDigits 10 n.toNat) = some n := by
  simp [readUInt64?, readBelow?_toDigits n.toNat_lt_size]

end MediaGateway.Text
