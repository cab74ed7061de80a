import Rinha.Text.Range

/-!
# Rinha.Text.Blank

Blank characters: those with the white-space property of Unicode.  `trim` takes them off both ends
of a text.
-/

namespace Rinha.Text

/-- The ranges of blank characters. -/
def blankRanges : List (Nat × Nat) :=
  [(0x9, 0xD), (0x20, 0x20), (0x85, 0x85), (0xA0, 0xA0), (0x1680, 0x1680), (0x2000, 0x200A),
    (0x2028, 0x2029), (0x202F, 0x202F), (0x205F, 0x205F), (0x3000, 0x3000)]

/-- Whether a character is blank. -/
def isBlank (c : Char) : Bool :=
  within blankRanges c

example : areApart blankRanges = true ∧ rangeCount blankRanges = 25 := by decide

/-- The text without the blanks at its start. -/
def trimStart (cs : List Char) : List Char :=
  cs.dropWhile isBlank

/-- The text without the blanks at its two ends. -/
def trim (cs : List Char) : List Char :=
  (trimStart (trimStart cs).reverse).reverse

end Rinha.Text
