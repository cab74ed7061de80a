import Rinha.Proofs.Excerpts

/-!
# Rinha.Proofs.Carets

Where the first caret of an excerpt stands.  A line is shown after its number, which takes four
columns or as many as it has digits, and after a colon and a blank; the marker below it begins with
six blanks.  So the first caret stands below the character that the excerpt is of as long as the
number has no more than four digits, and one column further to the left for every digit more:

```
 9999: x
       ^
10000: x
      ^
```

`caret_below_character_iff` says so of every character of a text that is no line feed.
-/

namespace Rinha.Source

/-! ## margins -/

theorem length_lineNumber (number : Nat) :
    (lineNumber number).length = max 4 (Nat.toDigits 10 number).length := by
  simp only [lineNumber, List.length_append, List.length_replicate]
  omega

theorem numberedLine_eq_append (number : Nat) (row : List Char) :
    numberedLine number row = numberedLine number [] ++ row := by
  simp [numberedLine]

theorem length_numberedLine_nil (number : Nat) :
    (numberedLine number []).length = max 4 (Nat.toDigits 10 number).length + 2 := by
  rw [numberedLine, List.length_append, length_lineNumber]
  rfl

/-- The numbers with at most four digits. -/
theorem length_toDigits_le_four_iff {number : Nat} :
    (Nat.toDigits 10 number).length ≤ 4 ↔ number < 10000 :=
  Nat.length_toDigits_le_iff (by decide) (by decide)

/-- A marker has a caret. -/
theorem caret_mem_markerLine (length : Nat) (column width : Int) :
    '^' ∈ markerLine length column width := by
  have hpos : caretCount length column width ≠ 0 := by
    rw [caretCount]
    omega
  simp [markerLine, List.mem_replicate, hpos]

/-- The first caret of a marker comes after its blanks. -/
theorem idxOf_caret_markerLine (length : Nat) (column width : Int) :
    (markerLine length column width).idxOf '^' = 6 + (column - 1).toNat := by
  obtain ⟨count, hcount⟩ : ∃ count, caretCount length column width = count + 1 := by
    refine Nat.exists_eq_add_one.mpr ?_
    rw [caretCount]
    omega
  rw [markerLine, hcount, List.replicate_succ,
    List.idxOf_append_of_notMem (by simp [List.mem_replicate]), List.idxOf_cons_self,
    List.length_replicate, Nat.add_zero]

/-- What stands before a line is longer than the blanks before the marker by the digits of the
number beyond the fourth. -/
theorem idxOf_caret_add (number column length : Nat) (width : Int) :
    (markerLine length (column + 1 : Nat) width).idxOf '^' + ((Nat.toDigits 10 number).length - 4)
      = (numberedLine number []).length + column := by
  rw [idxOf_caret_markerLine, length_numberedLine_nil]
  omega

theorem idxOf_caret_eq_iff (number column length : Nat) (width : Int) :
    (markerLine length (column + 1 : Nat) width).idxOf '^'
      = (numberedLine number []).length + column ↔ number < 10000 := by
  rw [← idxOf_caret_add number column length width, ← length_toDigits_le_four_iff]
  omega

/-- Around a line of the text, the row above the marker is that line after its number. -/
theorem exists_lines_excerptText (source : List Char) {line : Nat} (context : Nat) (hpos : 1 ≤ line)
    (hle : line ≤ (lines source).length) (column width : Int) :
    ∃ above below,
      lines (excerptText source line column width context).toList
        = above ++ numberedLine line (lineAt source line) ::
          markerLine (lineAt source line).length column width :: below ∧
      above.length = min context (line - 1) := by
  refine ⟨(List.range' (max 1 (line - context)) (line - max 1 (line - context))).map fun number =>
    numberedLine number (lineAt source number), numberedLines source (line + 1)
      (min (lines source).length (line + context)), ?_, ?_⟩
  · rw [lines_excerptText context hpos hle, numberedLines_concat (by omega), List.append_assoc]
    rfl
  · rw [List.length_map, List.length_range']
    omega

/-! ## the caret and its character -/

/-- A row shows a line of a text with something before it, and the character at an offset of the
text stands in it at an index. -/
def ShowsAt (source : List Char) (offset : Nat) (shown : List Char) (index : Nat) : Prop :=
  ∃ front passed row more column, lines source = passed ++ row :: more ∧
    endedLength passed + column = offset ∧ column < row.length ∧
    shown = front ++ row ∧ front.length + column = index

/-- The first caret below a character of a text.  The row above the marker shows the line of the
character, and the first caret is to the left of the character by as many columns as the number of
the line has digits more than four. -/
theorem caret_below_character_iff (source : String) (offset : Nat) (c : Char)
    (hc : source.toList[offset]? = some c) (hline : c ≠ '\n') (width : Int) (context : Nat) :
    ∃ place, positionAt (.text source) (.int offset) = .ok place ∧
      ∃ block above shown marker below index,
        excerptAt (.text source) (.int place.line) (.int place.column) (.int width) (.int context)
          = .ok block ∧
        lines block.toList = above ++ shown :: marker :: below ∧
        above.length = min context (place.line - 1) ∧
        ShowsAt source.toList offset shown index ∧ shown[index]? = some c ∧ '^' ∈ marker ∧
        marker.idxOf '^' + ((Nat.toDigits 10 place.line).length - 4) = index ∧
        (marker.idxOf '^' = index ↔ place.line < 10000) := by
  obtain ⟨passed, start, finish, more, hlines, hposition, hoffset, -⟩ :=
    Position.exists_cut source.toList offset
  obtain ⟨hlt, -⟩ := List.getElem?_eq_some_iff.mp hc
  rw [clampOffset_of_le hlt.le] at hoffset
  obtain ⟨row, hrow, hchar⟩ := Position.getElem?_ofOffset hc hline
  rw [hposition] at hrow hchar
  obtain rfl : start ++ finish = row := by simpa [hlines] using hrow
  obtain ⟨above, below, hrows, habove⟩ :=
    exists_lines_excerptText source.toList context (show 1 ≤ passed.length + 1 by omega)
      (by simp [hlines]) ((start.length + 1 : Nat) : Int) width
  have hlineAt : lineAt source.toList (passed.length + 1) = start ++ finish := by
    simp [lineAt, hlines]
  rw [hlineAt] at hrows
  have hinside : start.length < (start ++ finish).length := (List.getElem?_eq_some_iff.mp hchar).1
  have hshown : (numberedLine (passed.length + 1) (start ++ finish))[
      (numberedLine (passed.length + 1) []).length + start.length]? = some c := by
    rw [numberedLine_eq_append, List.getElem?_append_right (Nat.le_add_right _ _),
      Nat.add_sub_cancel_left]
    exact hchar
  have hshows : ShowsAt source.toList offset (numberedLine (passed.length + 1) (start ++ finish))
      ((numberedLine (passed.length + 1) []).length + start.length) :=
    ⟨_, passed, start ++ finish, more, start.length, hlines,
      (length_endLines passed ▸ hoffset).symm, hinside, numberedLine_eq_append _ _, rfl⟩
  exact ⟨_, (positionAt_int _ _).trans (congrArg _ hposition), _, above, _, _, below, _,
    excerptAt_int _ _ _ _ _, hrows, habove, hshows, hshown, caret_mem_markerLine _ _ _,
    idxOf_caret_add _ _ _ _, idxOf_caret_eq_iff _ _ _ _⟩

/-- On the second line of a text the caret stands below its character. -/
theorem caret_below_character_secondLine :
    let source := "let x = 1;\nx + z"
    source.toList[15]? = some 'z' ∧ 'z' ≠ '\n' ∧ ∃ block above shown marker below index,
      excerptAt (.text source) (.int 2) (.int 5) (.int 1) (.int 1) = .ok block ∧
      lines block.toList = above ++ shown :: marker :: below ∧ above.length = 1 ∧
      shown[index]? = some 'z' ∧ '^' ∈ marker ∧ marker.idxOf '^' = index := by
  intro source
  have hc : source.toList[15]? = some 'z' := by decide
  have hline : 'z' ≠ '\n' := by decide
  have hposition : Position.ofOffset source.toList 15 = ⟨2, 5⟩ := by decide
  obtain ⟨place, hplace, block, above, shown, marker, below, index, hblock, hrows, habove, -,
    hshown, hmarker, -, hcaret⟩ := caret_below_character_iff source 15 'z' hc hline 1 1
  obtain rfl : ⟨2, 5⟩ = place := hposition.symm.trans (Except.ok.inj hplace)
  exact ⟨hc, hline, block, above, shown, marker, below, index, hblock, hrows, habove, hshown,
    hmarker, hcaret.mpr (by decide)⟩

/-! ## long texts -/

theorem lines_newlines (count : Nat) {line : List Char} (h : '\n' ∉ line) :
    lines (List.replicate count '\n' ++ line) = List.replicate count [] ++ [line] := by
  induction count with
  | zero => exact lines_of_notMem h
  | succ count ih => rw [List.replicate_succ, List.cons_append, lines, if_pos rfl, ih]; rfl

theorem ofOffset_newlines (count : Nat) (line : List Char) :
    Position.ofOffset (List.replicate count '\n' ++ line) count = ⟨count + 1, 1⟩ := by
  have hclamp : clampOffset (List.replicate count '\n' ++ line).length count = count :=
    clampOffset_of_le (by simp)
  rw [Position.ofOffset, hclamp, List.take_left' List.length_replicate]
  simp

/-- The last line of a text whose other lines are empty. -/
theorem lines_excerptText_newlines (count : Nat) {c : Char} (h : c ≠ '\n') :
    lines (excerptText (List.replicate count '\n' ++ [c]) (count + 1 : Nat) 1 1 0).toList
      = [numberedLine (count + 1) [c], markerLine 1 1 1] := by
  have hlines : lines (List.replicate count '\n' ++ [c]) = List.replicate count [] ++ [[c]] :=
    lines_newlines count (by simpa using h.symm)
  have hlast : lineAt (List.replicate count '\n' ++ [c]) (count + 1) = [c] := by
    simp [lineAt, hlines]
  have hrows := lines_excerptText 0 (show 1 ≤ count + 1 by omega)
    (show count + 1 ≤ (lines (List.replicate count '\n' ++ [c])).length by simp [hlines]) 1 1
  rw [hlast] at hrows
  refine hrows.trans ?_
  simp [numberedLines, hlines, hlast]

/-- In the line with the number 10000 the caret stands to the left of its character. -/
theorem caret_left_of_character_tenThousand :
    let source := String.ofList (List.replicate 9999 '\n' ++ ['x'])
    source.toList[9999]? = some 'x' ∧
      positionAt (.text source) (.int 9999) = .ok ⟨10000, 1⟩ ∧
      ∃ block, excerptAt (.text source) (.int 10000) (.int 1) (.int 1) (.int 0) = .ok block ∧
        lines block.toList = ["10000: x".toList, "      ^".toList] ∧
        "10000: x".toList.idxOf 'x' = 7 ∧ "      ^".toList.idxOf '^' = 6 := by
  intro source
  have hsource : source.toList = List.replicate 9999 '\n' ++ ['x'] := String.toList_ofList
  refine ⟨?_, ?_, _, excerptAt_int _ _ _ _ _, ?_, by decide, by decide⟩
  · rw [hsource, List.getElem?_append_right (by rw [List.length_replicate]), List.length_replicate]
    rfl
  · rw [positionAt_int, hsource]
    exact congrArg _ (ofOffset_newlines 9999 ['x'])
  · rw [hsource]
    exact (lines_excerptText_newlines 9999 (by decide)).trans (by decide)

end Rinha.Source
