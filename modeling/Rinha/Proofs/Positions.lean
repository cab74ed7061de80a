import Rinha.Source.Lines
import Rinha.Source.Position
import Mathlib.Data.Set.Function

/-!
# Rinha.Proofs.Positions

Offsets and positions correspond one to one.  A text is cut in two at every offset, and there one of
its lines is cut as well (`Position.exists_cut`):

```
lines source = passed ++ (start ++ finish) :: more
```

The position is one line after those that are passed and one column after the start, and what is
passed, line feeds included, and the start together are the offset.  So the offset can be computed
back (`Position.toOffset_ofOffset`).  Going that way keeps the order (`Position.Within.toOffset_lt`), so
no two positions of a text have the same offset.
-/

namespace Rinha.Source

namespace Position

/-! ## positions of a text -/

/-- A position of a text: in one of its lines, before one of its characters or at its end. -/
structure Within (source : List Char) (position : Position) : Prop where
  line_pos : 1 ≤ position.line
  column_pos : 1 ≤ position.column
  column_le : ∃ row, (lines source)[position.line - 1]? = some row ∧
    position.column ≤ row.length + 1

/-- One position comes before another one: in an earlier line, or in the same line in an earlier
column. -/
def Before (position other : Position) : Prop :=
  position.line < other.line ∨ position.line = other.line ∧ position.column < other.column

theorem before_trichotomy (position other : Position) :
    position.Before other ∨ position = other ∨ other.Before position := by
  obtain ⟨line, column⟩ := position
  obtain ⟨line', column'⟩ := other
  simp only [Before, mk.injEq]
  omega

/-- The number of characters before a position: those of the lines that are passed, with a line feed
after each, and those before it in its own line. -/
def toOffset (source : List Char) (position : Position) : Nat :=
  endedLength ((lines source).take (position.line - 1)) + (position.column - 1)

/-! ## where a text is cut -/

/-- Back from the end of some lines, what comes up to the first line feed is what stands after
them. -/
theorem takeWhile_reverse_endLines (passed : List (List Char)) {start : List Char}
    (h : '\n' ∉ start) :
    (endLines passed ++ start).reverse.takeWhile (· != '\n') = start.reverse := by
  have hstart : ∀ c ∈ start.reverse, (c != '\n') = true := by
    intro c hmem
    rw [bne_iff_ne]
    rintro rfl
    exact h (List.mem_reverse.mp hmem)
  rw [List.reverse_append, List.takeWhile_append_of_pos hstart]
  obtain rfl | ⟨init, row, rfl⟩ := List.eq_nil_or_concat passed
  · exact List.append_nil _
  · simp [endLines]

/-- At its offset a position cuts one line of the text: those before it are passed, and the rest is
the rest of the text. -/
theorem exists_cut (source : List Char) (offset : Int) :
    ∃ passed start finish more,
      lines source = passed ++ (start ++ finish) :: more ∧
      ofOffset source offset = ⟨passed.length + 1, start.length + 1⟩ ∧
      clampOffset source.length offset = (endLines passed).length + start.length ∧
      lines (source.drop (clampOffset source.length offset)) = finish :: more := by
  obtain ⟨passed, start, hbefore⟩ :=
    exists_lines_eq (source.take (clampOffset source.length offset))
  obtain ⟨finish, more, hrest⟩ : ∃ finish more,
      lines (source.drop (clampOffset source.length offset)) = finish :: more :=
    List.exists_cons_of_ne_nil (lines_ne_nil _)
  have htext := eq_endLines_append hbefore
  have hfree : ∀ row ∈ passed ++ [start], '\n' ∉ row := fun row hmem =>
    newline_notMem_of_mem_lines (hbefore ▸ hmem)
  rw [List.forall_mem_append, List.forall_mem_singleton] at hfree
  refine ⟨passed, start, finish, more, ?_, ?_, ?_, hrest⟩
  · have happend := lines_append hbefore hrest
    rwa [List.take_append_drop] at happend
  · rw [ofOffset, htext, List.count_append, count_newline_endLines hfree.1,
      List.count_eq_zero.mpr hfree.2, takeWhile_reverse_endLines _ hfree.2, List.length_reverse]
  · have hlength : (source.take (clampOffset source.length offset)).length
        = clampOffset source.length offset := by
      rw [List.length_take]
      exact Nat.min_eq_left (Nat.min_le_right _ _)
    rw [← hlength, htext, List.length_append]

/-- Every offset stands for a position of the text. -/
theorem within_ofOffset (source : List Char) (offset : Int) :
    (ofOffset source offset).Within source := by
  obtain ⟨passed, start, finish, more, hlines, hposition, -, -⟩ := exists_cut source offset
  rw [hposition]
  refine ⟨Nat.succ_pos _, Nat.succ_pos _, start ++ finish, ?_, ?_⟩
  · simp [hlines]
  · simp

/-- The offset can be computed back, as far as it is one of the text. -/
theorem toOffset_ofOffset (source : List Char) (offset : Int) :
    (ofOffset source offset).toOffset source = clampOffset source.length offset := by
  obtain ⟨passed, start, finish, more, hlines, hposition, hoffset, -⟩ := exists_cut source offset
  rw [hposition, hoffset, toOffset, hlines, length_endLines]
  simp

/-- A character that does not end its line stands in its line at its column. -/
theorem getElem?_ofOffset {source : List Char} {offset : Nat} {c : Char}
    (hc : source[offset]? = some c) (hline : c ≠ '\n') :
    ∃ row, (lines source)[(ofOffset source offset).line - 1]? = some row ∧
      row[(ofOffset source offset).column - 1]? = some c := by
  obtain ⟨hlt, hget⟩ := List.getElem?_eq_some_iff.mp hc
  obtain ⟨passed, start, finish, more, hlines, hposition, -, hrest⟩ := exists_cut source offset
  have hclamp : clampOffset source.length offset = offset := by
    rw [clampOffset, Int.toNat_natCast]
    omega
  rw [hclamp, List.drop_eq_getElem_cons hlt, hget] at hrest
  obtain ⟨line, rest, hafter⟩ :=
    List.exists_cons_of_ne_nil (lines_ne_nil (source.drop (offset + 1)))
  rw [lines, if_neg hline, hafter] at hrest
  obtain ⟨rfl, rfl⟩ := List.cons.inj hrest
  rw [hposition, hlines]
  exact ⟨start ++ c :: line, by simp, by simp⟩

/-! ## offsets keep the order -/

/-- Of some lines, those up to a line and the line are among those up to a later one. -/
theorem endedLength_take_add_le {rows : List (List Char)} {row : List Char} {k n : Nat}
    (hrow : rows[k]? = some row) (hlt : k < n) :
    endedLength (rows.take k) + (row.length + 1) ≤ endedLength (rows.take n) := by
  obtain ⟨m, rfl⟩ := Nat.exists_eq_add_of_lt hlt
  have hsplit : rows.take (k + m + 1) = rows.take k ++ row :: (rows.drop (k + 1)).take m := by
    rw [Nat.add_right_comm, List.take_add, List.take_add_one, hrow]
    simp
  rw [hsplit, endedLength_append, endedLength]
  omega

/-- With a line feed after each line there would be one more than there are characters. -/
theorem endedLength_lines (source : List Char) :
    endedLength (lines source) = source.length + 1 := by
  obtain ⟨passed, last, hlines⟩ := exists_lines_eq source
  have hlength := congrArg List.length (eq_endLines_append hlines)
  rw [List.length_append, length_endLines] at hlength
  rw [hlines, endedLength_append, hlength]
  rfl

namespace Within

variable {source : List Char} {position other : Position}

theorem toOffset_le (h : position.Within source) : position.toOffset source ≤ source.length := by
  obtain ⟨row, hrow, hcolumn⟩ := h.column_le
  obtain ⟨hlt, -⟩ := List.getElem?_eq_some_iff.mp hrow
  have hle := endedLength_take_add_le hrow hlt
  rw [List.take_length, endedLength_lines] at hle
  unfold toOffset
  omega

/-- A later position has a greater offset. -/
theorem toOffset_lt (h : position.Within source) (hother : other.Within source)
    (hbefore : position.Before other) : position.toOffset source < other.toOffset source := by
  obtain ⟨row, hrow, hcolumn⟩ := h.column_le
  have hline_pos := h.line_pos
  have hcolumn_pos := h.column_pos
  have hcolumn_pos' := hother.column_pos
  unfold toOffset
  obtain hline | ⟨hline, hcolumns⟩ := hbefore
  · have hlt : position.line - 1 < other.line - 1 := by omega
    have hle := endedLength_take_add_le hrow hlt
    omega
  · rw [hline]
    omega

/-- So an offset belongs to one position. -/
theorem eq_of_toOffset_eq (h : position.Within source) (hother : other.Within source)
    (heq : position.toOffset source = other.toOffset source) : position = other := by
  obtain hbefore | hsame | hbefore := before_trichotomy position other
  · exact absurd heq (Nat.ne_of_lt (h.toOffset_lt hother hbefore))
  · exact hsame
  · exact absurd heq.symm (Nat.ne_of_lt (hother.toOffset_lt h hbefore))

theorem before_of_toOffset_lt (h : position.Within source) (hother : other.Within source)
    (hlt : position.toOffset source < other.toOffset source) : position.Before other := by
  obtain hbefore | rfl | hbefore := before_trichotomy position other
  · exact hbefore
  · exact absurd hlt (Nat.lt_irrefl _)
  · exact absurd (hother.toOffset_lt h hbefore) (Nat.lt_asymm hlt)

theorem ofOffset_toOffset (h : position.Within source) :
    ofOffset source (position.toOffset source) = position := by
  refine (within_ofOffset source _).eq_of_toOffset_eq h ?_
  rw [toOffset_ofOffset, clampOffset, Int.toNat_natCast]
  exact Nat.min_eq_left h.toOffset_le

end Within

/-! ## the correspondence -/

/-- An offset of the text is the offset of its position. -/
theorem toOffset_ofOffset_of_le {source : List Char} {offset : Int} (hpos : 0 ≤ offset)
    (hle : offset ≤ source.length) :
    ((ofOffset source offset).toOffset source : Int) = offset := by
  rw [toOffset_ofOffset, clampOffset]
  omega

/-- Offsets and positions of a text correspond one to one.

* Every offset stands for a position of the text, which is that many characters after its start, or
  else at the nearest end.
* The offsets from the start to the end and the positions are in bijection, and the order is kept.
* What is at an offset of the text is found in its line at its column, unless it ends the line. -/
theorem offsets_correspond (source : List Char) :
    (∀ offset : Int, (ofOffset source offset).Within source ∧
      ((ofOffset source offset).toOffset source : Int) = max 0 (min offset source.length)) ∧
    Set.BijOn (ofOffset source) {offset | 0 ≤ offset ∧ offset ≤ source.length}
      {position | position.Within source} ∧
    (∀ offset offset' : Int, 0 ≤ offset → offset < offset' → offset' ≤ source.length →
      (ofOffset source offset).Before (ofOffset source offset')) ∧
    ∀ (offset : Nat) (c : Char), source[offset]? = some c → c ≠ '\n' →
      ∃ row, (lines source)[(ofOffset source offset).line - 1]? = some row ∧
        row[(ofOffset source offset).column - 1]? = some c := by
  refine ⟨fun offset => ⟨within_ofOffset source offset, ?_⟩, ⟨?_, ?_, ?_⟩,
    fun offset offset' hpos hlt hle => ?_, fun offset c => getElem?_ofOffset⟩
  · rw [toOffset_ofOffset, clampOffset]
    omega
  · exact fun offset _ => within_ofOffset source offset
  · intro offset ⟨hpos, hle⟩ offset' ⟨hpos', hle'⟩ heq
    rw [← toOffset_ofOffset_of_le hpos hle, heq, toOffset_ofOffset_of_le hpos' hle']
  · intro position hposition
    exact ⟨position.toOffset source, ⟨Int.natCast_nonneg _, Int.ofNat_le.mpr hposition.toOffset_le⟩,
      hposition.ofOffset_toOffset⟩
  · refine (within_ofOffset source offset).before_of_toOffset_lt (within_ofOffset source offset') ?_
    have hoffset : ((ofOffset source offset).toOffset source : Int) = offset :=
      toOffset_ofOffset_of_le hpos (by omega)
    have hoffset' : ((ofOffset source offset').toOffset source : Int) = offset' :=
      toOffset_ofOffset_of_le (by omega) hle
    omega

/-- Two line feeds in a row, the second one on a line of its own, and a character after them. -/
theorem offsets_correspond_emptyLine :
    let source := "ab\n\ncd".toList
    (0 : Int) ≤ 2 ∧ (2 : Int) < 3 ∧ 3 ≤ (source.length : Int) ∧
      (ofOffset source 2).Before (ofOffset source 3) ∧
      source[5]? = some 'd' ∧ 'd' ≠ '\n' ∧ ofOffset source 5 = ⟨3, 2⟩ ∧
      ∃ row, (lines source)[2]? = some row ∧ row[1]? = some 'd' := by
  intro source
  obtain ⟨-, -, hordered, hfound⟩ := offsets_correspond source
  have hpos : (0 : Int) ≤ 2 := by decide
  have hlt : (2 : Int) < 3 := by decide
  have hle : 3 ≤ (source.length : Int) := by decide
  have hc : source[5]? = some 'd' := by decide
  have hline : 'd' ≠ '\n' := by decide
  exact ⟨hpos, hlt, hle, hordered 2 3 hpos hlt hle, hc, hline, by decide, hfound 5 'd' hc hline⟩

end Position

end Rinha.Source
