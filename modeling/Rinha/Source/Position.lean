/-!
# Rinha.Source.Position

Lines and columns of places in a text.  `Position.ofOffset` turns the number of characters before a
place into its line and column, which both count from one; an offset outside the text stands for the
nearest end of it.
-/

namespace Rinha.Source

/-- A place in a text. -/
structure Position where
  line : Nat
  column : Nat
deriving DecidableEq, Repr, Inhabited

/-- The offset itself, or the nearest end of a text of this length. -/
def clampOffset (length : Nat) (offset : Int) : Nat :=
  min offset.toNat length

/-- The place that an offset stands for: the line feeds before it are the lines passed, and what
comes after the last of them stands before it in its own line. -/
def Position.ofOffset (source : List Char) (offset : Int) : Position :=
  let before := source.take (clampOffset source.length offset)
  { line := before.count '\n' + 1
    column := (before.reverse.takeWhile (· != '\n')).length + 1 }

example : Position.ofOffset "ab\ncd".toList 4 = ⟨2, 2⟩ := by decide
example : Position.ofOffset "ab\ncd".toList 2 = ⟨1, 3⟩ := by decide
example : Position.ofOffset "ab\n".toList 99 = ⟨2, 1⟩ := by decide
example : Position.ofOffset "ab".toList (-1) = ⟨1, 1⟩ := by decide

end Rinha.Source
