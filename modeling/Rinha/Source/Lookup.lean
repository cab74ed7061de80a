import Rinha.Data.Coerce
import Rinha.Source.Excerpt
import Rinha.Source.Position

/-!
# Rinha.Source.Lookup

Positions and excerpts that are asked for by data.  Integers go to `Position.ofOffset` and to
`excerptText` as they are (`positionAt_int`, `excerptAt_int`).  Any other data is looked at only
where it is needed, and a floating-point number will do only where it has no say in the end:

* an offset that lies outside the text stands for the nearest end of it, and what is no number for
  the start;
* a window has to hold the whole text, a width has to be greater than what is left of the line, or
  so small that one character is marked anyway.
-/

namespace Rinha.Source

/-! ## positions -/

/-- The offset that a number stands for in a text of this length. -/
def offsetOf (length : Nat) : Number → Except Fault Int
  | .int n => .ok n
  | offset =>
    if Number.lt (.int length) offset then .ok length
    else if Number.lt (.int 0) offset then .error .wrongShape
    else .ok 0

/-- The position of an offset.  Only texts have positions. -/
def positionAt (source offset : Data) : Except Fault Position :=
  match source with
  | .text s => do
    return Position.ofOffset s.toList (← offsetOf s.toList.length (← offset.toNumber))
  | .object _ => do
    let _ ← offset.toNumber
    throw .noParts
  | _ => .error .wrongShape

theorem positionAt_int (s : String) (offset : Int) :
    positionAt (.text s) (.int offset) = .ok (Position.ofOffset s.toList offset) := rfl

/-! ## excerpts -/

/-- The line of an excerpt in a text of this many lines, and how many lines around it are shown. -/
def windowOf (length : Nat) (line context : Number) : Except Fault (Int × Int) :=
  match line, context with
  | .int line, .int context => .ok (line, context)
  | _, _ => do
    let first ← (← line.sub context).sub (.int 1)
    let last ← line.add context
    if Number.lt (.int 0) first || Number.lt last (.int length) then throw .wrongShape
    let line := match line with
      | .int n => n
      | .floating x => x.whole?.getD 0
    return (line, length + line.natAbs)

/-- The column and the width of the marks below a line of this length. -/
def marksOf (length : Nat) (column width : Data) : Except Fault (Int × Int) := do
  match ← column.toNumber, ← width.toNumber with
  | .int column, .int width => return (column, width)
  | .int column, width =>
    let room := (length : Int) - column + 1
    if Number.lt (.int room) width then return (column, room)
    else if Number.lt (.int 1) width then throw .wrongShape
    else return (column, 1)
  | .floating _, _ => throw .wrongShape

/-- The excerpt around a place.  Only texts have lines, and the column and the width are of account
only if the line is shown. -/
def excerptAt (source line column width context : Data) : Except Fault String :=
  match source with
  | .text s => do
    let rows := lines s.toList
    let (line, context) ← windowOf rows.length (← line.toNumber) (← context.toNumber)
    let (column, width) ←
      match (if 0 ≤ context ∧ 1 ≤ line then rows[(line - 1).toNat]? else none) with
      | some row => marksOf row.length column width
      | none => .ok (1, 1)
    return excerptText s.toList line column width context
  | _ => .error .noParts

theorem excerptAt_int (s : String) (line column width context : Int) :
    excerptAt (.text s) (.int line) (.int column) (.int width) (.int context)
      = .ok (excerptText s.toList line column width context) := by
  simp only [excerptAt, Data.toNumber, windowOf, bind, Except.bind, pure, Except.pure]
  split
  · rfl
  · next h =>
    have gone : 0 ≤ context → 1 ≤ line → (lines s.toList)[(line - 1).toNat]? = none := by
      intro near first
      simpa [near, first] using h
    simp only [excerptText, excerpt_of_not_shown gone column width 1 1]

end Rinha.Source
