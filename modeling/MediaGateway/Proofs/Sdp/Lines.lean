import MediaGateway.Proofs.Text
import MediaGateway.Sdp.Parser
import Mathlib.Logic.Relation

/-!
# Which lines matter

A text is read line by line, and most of what can be done to its lines makes no difference: how they
end, how many empty ones there are, and what stands in lines of types that have no meaning. All this
goes by before a line is read or leaves the draft as it is, so a text is read as the lines that are not
passed over. Two texts with the same ones give the same description or the same error, also where the
error is behind or between lines that only one of them has.
-/

namespace MediaGateway.Sdp

open MediaGateway.Sdp.Parser MediaGateway.Text

/-! ## The lines of a text -/

/-- The lines of two texts with a line feed between them are those of both. -/
theorem linesOf_append (a b : List Char) : linesOf (a ++ '\n' :: b) = linesOf a ++ linesOf b := by
  simp only [linesOf, split_append_cons, List.map_append, List.filter_append]

theorem dropTrailing_return (a : List Char) :
    dropTrailing (· == '\r') (a ++ ['\r']) = dropTrailing (· == '\r') a := by
  simp [dropTrailing]

/-- What ends in a character that stays is not shortened further. -/
theorem dropTrailing_append_cons {p : Char → Bool} {c : Char} (hc : p c = false) (a b : List Char) :
    dropTrailing p (a ++ c :: b) = a ++ c :: dropTrailing p b := by
  have hstop : (c :: a.reverse).dropWhile p = c :: a.reverse := by
    rw [List.dropWhile_cons, hc]
    rfl
  unfold dropTrailing
  rw [List.reverse_append, List.reverse_cons, List.append_assoc, List.singleton_append,
    List.dropWhile_append, hstop]
  split
  · rename_i hnone
    rw [List.isEmpty_iff.1 hnone]
    simp
  · simp

/-- A character at the end of a text belongs to the last piece. -/
theorem split_concat {sep c : Char} (hc : c ≠ sep) (a : List Char) :
    ∃ pieces last, split sep a = pieces ++ [last] ∧
      split sep (a ++ [c]) = pieces ++ [last ++ [c]] := by
  induction a with
  | nil => exact ⟨[], [], rfl, by simp [split, hc]⟩
  | cons d a ih =>
    obtain ⟨pieces, last, ha, hac⟩ := ih
    by_cases hd : d = sep
    · exact ⟨[] :: pieces, last, by simp [split, hd, ha], by simp [split, hd, hac]⟩
    · cases pieces with
      | nil => exact ⟨[], d :: last, by simp [split, hd, ha], by simp [split, hd, hac]⟩
      | cons piece pieces =>
        exact ⟨(d :: piece) :: pieces, last, by simp [split, hd, ha], by simp [split, hd, hac]⟩

/-- A carriage return at the end of a text makes no line another one. -/
theorem linesOf_return (a : List Char) : linesOf (a ++ ['\r']) = linesOf a := by
  obtain ⟨pieces, last, ha, hreturn⟩ := split_concat (show '\r' ≠ '\n' by decide) a
  simp only [linesOf, ha, hreturn, List.map_append, List.map_singleton, dropTrailing_return]

/-! ## Lines that are passed over -/

/-- The types of lines that have a meaning. -/
def meaningfulTypes : List Char := ['v', 'o', 's', 't', 'm', 'c', 'a']

/-- Whether a line is passed over in any draft: it is empty, or its type has no meaning. -/
def isPassedOver : List Char → Bool
  | [] => true
  | kind :: '=' :: _ => kind.toNat < 128 && !meaningfulTypes.contains kind
  | _ => false

theorem line_of_isPassedOver {l : List Char} (h : isPassedOver l = true) (d : Draft) :
    line d l = .ok d := by
  unfold isPassedOver at h
  split at h
  · rfl
  · rename_i kind value
    simp only [Bool.and_eq_true, decide_eq_true_eq] at h
    obtain ⟨hascii, hother⟩ := h
    have htyped : typedLine d kind value (kind :: '=' :: value) = .ok d := by
      unfold typedLine
      split
      case h_8 => rfl
      all_goals simp [meaningfulTypes] at hother
    simp only [line, if_pos hascii, htyped]
  · simp at h

/-- Lines that leave every draft as it is can be left out. -/
theorem foldlM_filter {p : List Char → Bool} (hp : ∀ l, p l = false → ∀ d, line d l = .ok d)
    (ls : List (List Char)) (d : Draft) : (ls.filter p).foldlM line d = ls.foldlM line d := by
  induction ls generalizing d with
  | nil => rfl
  | cons l ls ih =>
    rw [List.foldlM_cons]
    cases h : p l with
    | false =>
      rw [List.filter_cons_of_neg (by simp [h]), hp l h d]
      exact ih d
    | true =>
      rw [List.filter_cons_of_pos h, List.foldlM_cons]
      cases line d l with
      | error e => rfl
      | ok d' => exact ih d'

/-- The lines of a text that are not passed over. -/
def mattering (text : List Char) : List (List Char) :=
  (linesOf text).filter (!isPassedOver ·)

theorem mattering_append (a b : List Char) :
    mattering (a ++ '\n' :: b) = mattering a ++ mattering b := by
  unfold mattering
  rw [linesOf_append, List.filter_append]

/-- A text is read as the lines that are not passed over. -/
theorem Description.ofText_eq (text : String) :
    Description.ofText text = (mattering text.toList).foldlM line {} >>= finish := by
  have hpassed : ∀ l, (!isPassedOver l) = false → ∀ d, line d l = .ok d := by
    intro l hl
    exact line_of_isPassedOver (by simpa using hl)
  unfold mattering
  rw [foldlM_filter hpassed]
  rfl

/-! ## Spelling a text another way -/

/-- Behind the text a line begins. -/
def AtLineStart (before : List Char) : Prop := before = [] ∨ ∃ lines, before = lines ++ ['\n']

/-- Before the text a line ends. -/
def AtLineEnd (after : List Char) : Prop := after = [] ∨ ∃ lines, after = '\n' :: lines

/-- One change to the spelling of a text. -/
inductive Respells : List Char → List Char → Prop where
  /-- A line feed becomes a carriage return and a line feed. -/
  | lineFeed (before after : List Char) :
    Respells (before ++ '\n' :: after) (before ++ '\r' :: '\n' :: after)
  /-- A carriage return is added before the end of a line. -/
  | carriageReturn (before after : List Char) (h : AtLineEnd after) :
    Respells (before ++ after) (before ++ '\r' :: after)
  /-- An empty line is inserted. -/
  | emptyLine (before after : List Char) (h : AtLineStart before) :
    Respells (before ++ after) (before ++ '\n' :: after)
  /-- A line is inserted whose type is a printable character without a meaning. -/
  | otherLine (before after : List Char) (kind : Char) (value : List Char) (h : AtLineStart before)
    (hkind : ' ' ≤ kind ∧ kind ≤ '~' ∧ kind ∉ meaningfulTypes)
    (hvalue : '\n' ∉ value) :
    Respells (before ++ after) (before ++ kind :: '=' :: value ++ '\n' :: after)

theorem mattering_append_of_start {before : List Char} (h : AtLineStart before) (after : List Char) :
    mattering (before ++ after) = mattering before ++ mattering after := by
  rcases h with rfl | ⟨lines, rfl⟩
  · rfl
  · have hnone : mattering [] = [] := rfl
    rw [List.append_assoc, List.singleton_append, mattering_append, mattering_append, hnone,
      List.append_nil]

theorem mattering_return (before : List Char) {after : List Char} (h : AtLineEnd after) :
    mattering (before ++ '\r' :: after) = mattering (before ++ after) := by
  have hbefore : mattering (before ++ ['\r']) = mattering before := by
    unfold mattering
    rw [linesOf_return]
  rcases h with rfl | ⟨lines, rfl⟩
  · rw [hbefore, List.append_nil]
  · have hsplit : before ++ '\r' :: '\n' :: lines = (before ++ ['\r']) ++ '\n' :: lines := by simp
    rw [hsplit, mattering_append, hbefore, mattering_append]

theorem mattering_otherLine {kind : Char} {value : List Char}
    (hkind : ' ' ≤ kind ∧ kind ≤ '~' ∧ kind ∉ meaningfulTypes)
    (hvalue : '\n' ∉ value) : mattering (kind :: '=' :: value) = [] := by
  obtain ⟨hfirst, hlast, hother⟩ := hkind
  have hascii : kind.toNat < 128 := Nat.lt_of_le_of_lt hlast (by decide)
  have hfeed : kind ≠ '\n' := by
    rintro rfl
    exact absurd hfirst (by decide)
  have hline : '\n' ∉ kind :: '=' :: value := by simp [hfeed.symm, hvalue]
  have htrimmed : dropTrailing (· == '\r') (kind :: '=' :: value) =
      kind :: '=' :: dropTrailing (· == '\r') value :=
    dropTrailing_append_cons rfl [kind] value
  have hpassed : isPassedOver (kind :: '=' :: dropTrailing (· == '\r') value) = true := by
    simp [isPassedOver, hascii, hother]
  unfold mattering linesOf
  rw [split_of_notMem hline, List.map_singleton, htrimmed]
  simp [hpassed]

theorem Respells.mattering_eq {text text' : List Char} (h : Respells text text') :
    mattering text' = mattering text := by
  cases h with
  | lineFeed before after => exact mattering_return before (.inr ⟨after, rfl⟩)
  | carriageReturn before after h => exact mattering_return before h
  | emptyLine before after h =>
    have hempty : mattering ('\n' :: after) = mattering after := mattering_append [] after
    rw [mattering_append_of_start h, mattering_append_of_start h, hempty]
  | otherLine before after kind value h hkind hvalue =>
    have hline : mattering (kind :: '=' :: value ++ '\n' :: after) = mattering after := by
      rw [mattering_append, mattering_otherLine hkind hvalue, List.nil_append]
    rw [List.append_assoc, mattering_append_of_start h, mattering_append_of_start h, hline]

theorem mattering_of_respelled {text text' : List Char}
    (h : Relation.ReflTransGen Respells text text') : mattering text' = mattering text := by
  induction h with
  | refl => rfl
  | tail _ hstep ih => exact hstep.mattering_eq.trans ih

/-- However often the spelling of a text is changed, it is read as before, also where reading fails. -/
theorem spelling_does_not_matter {text text' : String}
    (h : Relation.ReflTransGen Respells text.toList text'.toList) :
    Description.ofText text' = Description.ofText text := by
  rw [Description.ofText_eq, Description.ofText_eq, mattering_of_respelled h]

/-- A line that is in no form is named as it stands in the original, though it ends in another way and
two lines were put before it. -/
theorem spelling_does_not_matter_before_failure :
    Relation.ReflTransGen Respells "v=0\nbad".toList "v=0\r\n\nk=1\nbad\r".toList ∧
    Description.ofText "v=0\r\n\nk=1\nbad\r" = .error (.malformed 'b' "bad") := by
  have hrespelled : Relation.ReflTransGen Respells "v=0\nbad".toList "v=0\r\n\nk=1\nbad\r".toList := by
    have hfeed : Respells "v=0\nbad".toList "v=0\r\nbad".toList :=
      .lineFeed ['v', '=', '0'] ['b', 'a', 'd']
    have hempty : Respells "v=0\r\nbad".toList "v=0\r\n\nbad".toList :=
      .emptyLine ['v', '=', '0', '\r', '\n'] ['b', 'a', 'd'] (.inr ⟨['v', '=', '0', '\r'], rfl⟩)
    have hother : Respells "v=0\r\n\nbad".toList "v=0\r\n\nk=1\nbad".toList :=
      .otherLine ['v', '=', '0', '\r', '\n', '\n'] ['b', 'a', 'd'] 'k' ['1']
        (.inr ⟨['v', '=', '0', '\r', '\n'], rfl⟩) (by decide) (by decide)
    have hreturn : Respells "v=0\r\n\nk=1\nbad".toList "v=0\r\n\nk=1\nbad\r".toList :=
      .carriageReturn "v=0\r\n\nk=1\nbad".toList [] (.inl rfl)
    exact .tail (.tail (.tail (.single hfeed) hempty) hother) hreturn
  exact ⟨hrespelled, (spelling_does_not_matter hrespelled).trans (by rfl)⟩

end MediaGateway.Sdp
