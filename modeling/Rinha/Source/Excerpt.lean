import Rinha.Source.Lines

/-!
# Rinha.Source.Excerpt

The lines around a place in a text, with the place marked.  An excerpt shows

1. every line whose number is at most `context` away from the given one, after that number, which is
   right-aligned in four columns, a colon and a blank;
2. directly below the given line, blanks up to the column and carets under the marked characters: as
   many as the width says, but no further than the line goes, and at least one.

`excerpt` makes the rows and `excerptText` puts them together.
-/

namespace Rinha.Source

/-- A line's number in decimal, aligned to the right. -/
def lineNumber (number : Nat) : List Char :=
  let digits := Nat.toDigits 10 number
  List.replicate (4 - digits.length) ' ' ++ digits

/-- A line after its number. -/
def numberedLine (number : Nat) (line : List Char) : List Char :=
  lineNumber number ++ ':' :: ' ' :: line

/-- How many carets mark a stretch that begins at a column of a line of this length. -/
def caretCount (length : Nat) (column width : Int) : Nat :=
  (max 1 (min width (length - column + 1))).toNat

/-- The marks below a line.  Six blanks stand below the number. -/
def markerLine (length : Nat) (column width : Int) : List Char :=
  List.replicate (6 + (column - 1).toNat) ' ' ++ List.replicate (caretCount length column width) '^'

/-- The rows that a line gives, by its number. -/
def excerptRows (line column width context : Int) (number : Nat) (text : List Char) :
    List (List Char) :=
  if line - context ≤ number ∧ number ≤ line + context then
    numberedLine number text ::
      (if (number : Int) = line then [markerLine text.length column width] else [])
  else []

/-- The rows of the excerpt around a place, with the stretch of `width` characters marked that
begins there. -/
def excerpt (source : List Char) (line column width context : Int) : List (List Char) :=
  ((lines source).zipIdx 1).flatMap fun (text, number) =>
    excerptRows line column width context number text

/-- The column and the width are of no account if the line is not shown. -/
theorem excerpt_of_not_shown {source : List Char} {line context : Int}
    (h : 0 ≤ context → 1 ≤ line → (lines source)[(line - 1).toNat]? = none)
    (column width column' width' : Int) :
    excerpt source line column width context = excerpt source line column' width' context := by
  have same : ∀ entry ∈ (lines source).zipIdx 1,
      excerptRows line column width context entry.2 entry.1
        = excerptRows line column' width' context entry.2 entry.1 := by
    intro (text, number) mem
    obtain ⟨first, found⟩ := List.mem_zipIdx_iff_le_and_getElem?_sub.1 mem
    simp only [excerptRows]
    split
    · next near =>
      have other : (number : Int) ≠ line := by
        intro here
        have gone := h (by omega) (by omega)
        rw [show (line - 1).toNat = number - 1 by omega, found] at gone
        cases gone
      simp [other]
    · rfl
  simp only [excerpt, List.flatMap_def]
  rw [List.map_congr_left same]

/-- The excerpt as text. -/
def excerptText (source : List Char) (line column width context : Int) : String :=
  String.ofList (joinLines (excerpt source line column width context))

example : excerptText "let x = 1;\nx + z".toList 2 5 1 1
    = "   1: let x = 1;\n   2: x + z\n          ^" := by decide +kernel

end Rinha.Source
