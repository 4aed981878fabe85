/-!
# Cutting a text at a character

Two ways to take a text apart at a separator: `split` at every occurrence, which always gives at
least one piece, and `cut` at the first occurrence, which fails when there is none.
-/

namespace MediaGateway.Text

/-- The pieces between the occurrences of `sep`; a text without `sep` is its own single piece. -/
def split (sep : Char) : List Char → List (List Char)
  | [] => [[]]
  | c :: cs => if c = sep then [] :: split sep cs else (split sep cs).modifyHead (c :: ·)

/-- What stands before and after the first `sep`, if there is one. -/
def cut (sep : Char) : List Char → Option (List Char × List Char)
  | [] => none
  | c :: cs =>
    if c = sep then some ([], cs) else (cut sep cs).map fun (before, rest) => (c :: before, rest)

/-- The text up to the first `sep`, or all of it. -/
def upTo (sep : Char) (cs : List Char) : List Char :=
  cs.takeWhile (· ≠ sep)

/-- What follows `start`, if the text begins with it. -/
def afterStart : (start cs : List Char) → Option (List Char)
  | [], cs => some cs
  | s :: start, c :: cs => if s = c then afterStart start cs else none
  | _ :: _, [] => none

theorem split_ne_nil (sep : Char) (cs : List Char) : split sep cs ≠ [] := by
  induction cs with
  | nil => simp [split]
  | cons c cs ih =>
    simp only [split]
    split
    · simp
    · cases h : split sep cs with
      | nil => exact absurd h ih
      | cons _ _ => simp

end MediaGateway.Text
