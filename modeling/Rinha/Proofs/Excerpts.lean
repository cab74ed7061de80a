import Rinha.Proofs.Positions
import Rinha.Report
import Mathlib.Order.Interval.Finset.Nat

/-!
# Rinha.Proofs.Excerpts

What an excerpt shows of a text.  Around a line of the text its rows are

```
numberedLines source (max 1 (line - context)) line
markerLine (lineAt source line).length column width
numberedLines source (line + 1) (min (lines source).length (line + context))
```

(`excerpt_eq_window`), and no row has a line feed in it, so they can be told apart again in the text
of the excerpt (`lines_excerptText`).  The marker has one caret for each character that the marked
stretch has in the line that it begins in, and one if there is none (`caretCount_ofOffset`).

A report with a place is rendered as it would be without the source, and this excerpt follows
(`Report.render_source`).  The place is written into the report, so its integers must not have more
digits than can be written (`Report.Bounded`).
-/

namespace Rinha.Source

/-! ## the window -/

/-- The line of a text that has this number. -/
def lineAt (source : List Char) (number : Nat) : List Char :=
  (lines source).getD (number - 1) []

/-- The lines of a text from one number to another, each after its number. -/
def numberedLines (source : List Char) (first last : Nat) : List (List Char) :=
  (List.range' first (last + 1 - first)).map fun number =>
    numberedLine number (lineAt source number)

theorem numberedLines_concat {source : List Char} {first last : Nat} (h : first ≤ last) :
    numberedLines source first last
      = (List.range' first (last - first)).map (fun number =>
          numberedLine number (lineAt source number))
        ++ [numberedLine last (lineAt source last)] := by
  rw [numberedLines, Nat.sub_add_comm h, List.range'_1_concat, Nat.add_sub_cancel' h,
    List.map_append]
  rfl

theorem range'_append_of_eq {first count next more : Nat} (h : next = first + count) :
    List.range' first count ++ List.range' next more = List.range' first (count + more) := by
  rw [h, List.range'_append_1]

/-- The numbers from one on are those before a window, those in it before and after one of its
numbers, and those after it. -/
theorem range'_eq_window {first line last count : Nat} (hfirst : 1 ≤ first) (hline : first ≤ line)
    (hlast : line ≤ last) (hcount : last ≤ count) :
    List.range' 1 count = List.range' 1 (first - 1) ++ (List.range' first (line - first) ++
      line :: (List.range' (line + 1) (last - line) ++ List.range' (last + 1) (count - last))) := by
  rw [range'_append_of_eq (by omega), ← List.range'_succ, range'_append_of_eq (by omega),
    range'_append_of_eq (by omega)]
  congr 1
  omega

theorem zipIdx_lines (source : List Char) :
    (lines source).zipIdx 1
      = (List.range' 1 (lines source).length).map fun number => (lineAt source number, number) := by
  refine List.ext_getElem (by simp) fun i hi _ => ?_
  have hlt : i < (lines source).length := by simpa using hi
  simp [lineAt, hlt]

section

variable {source : List Char} {line context column width : Int} {numbers : List Nat}

/-- Lines outside the window are not shown. -/
theorem flatMap_excerptRows_of_far
    (h : ∀ number ∈ numbers, (number : Int) < line - context ∨ line + context < number) :
    (numbers.flatMap fun number =>
      excerptRows line column width context number (lineAt source number)) = [] := by
  rw [List.flatMap_eq_nil_iff]
  intro number hmem
  have hfar := h number hmem
  rw [excerptRows, if_neg (by omega)]

/-- Lines of the window are shown after their numbers, and only one of them is marked. -/
theorem flatMap_excerptRows_of_near
    (h : ∀ number ∈ numbers, line - context ≤ number ∧ number ≤ line + context ∧ number ≠ line) :
    (numbers.flatMap fun number =>
      excerptRows line column width context number (lineAt source number))
      = numbers.map fun number => numberedLine number (lineAt source number) := by
  rw [List.map_eq_flatMap]
  refine List.flatMap_congr fun number hmem => ?_
  obtain ⟨hfirst, hlast, hne⟩ := h number hmem
  rw [excerptRows, if_pos ⟨hfirst, hlast⟩, if_neg hne]

end

/-- The rows of an excerpt around a line of the text. -/
theorem excerpt_eq_window {source : List Char} {line : Nat} (context : Nat) (hpos : 1 ≤ line)
    (hle : line ≤ (lines source).length) (column width : Int) :
    excerpt source line column width context
      = numberedLines source (max 1 (line - context)) line ++
        markerLine (lineAt source line).length column width ::
          numberedLines source (line + 1) (min (lines source).length (line + context)) := by
  generalize hfirst : max 1 (line - context) = first
  generalize hlast : min (lines source).length (line + context) = last
  have hself : excerptRows line column width context line (lineAt source line)
      = [numberedLine line (lineAt source line),
        markerLine (lineAt source line).length column width] := by
    rw [excerptRows, if_pos (by omega), if_pos rfl]
  have hwindow := range'_eq_window (show 1 ≤ first by omega) (show first ≤ line by omega)
    (show line ≤ last by omega) (show last ≤ (lines source).length by omega)
  rw [excerpt, zipIdx_lines, List.flatMap_map, hwindow]
  simp only [List.flatMap_append, List.flatMap_cons]
  rw [flatMap_excerptRows_of_far, flatMap_excerptRows_of_near, hself, flatMap_excerptRows_of_near,
    flatMap_excerptRows_of_far]
  · rw [numberedLines_concat (by omega), numberedLines, Nat.add_sub_add_right]
    simp
  all_goals
    intro number hmem
    rw [List.mem_range'_1] at hmem
    omega

/-! ## rows and text -/

theorem newline_notMem_lineNumber (number : Nat) : '\n' ∉ lineNumber number := by
  intro hmem
  obtain hblank | hdigit := List.mem_append.mp hmem
  · exact absurd (List.eq_of_mem_replicate hblank) (by decide)
  · have hisDigit := Nat.isDigit_of_mem_toDigits (by decide) (by decide) hdigit
    exact absurd hisDigit (by decide)

theorem newline_notMem_numberedLine (number : Nat) {row : List Char} (h : '\n' ∉ row) :
    '\n' ∉ numberedLine number row := by
  simp [numberedLine, newline_notMem_lineNumber, h]

theorem newline_notMem_markerLine (length : Nat) (column width : Int) :
    '\n' ∉ markerLine length column width := by
  simp [markerLine, List.mem_replicate]

/-- No row of an excerpt has a line feed in it. -/
theorem newline_notMem_of_mem_excerpt {source row : List Char} {line column width context : Int}
    (h : row ∈ excerpt source line column width context) : '\n' ∉ row := by
  obtain ⟨⟨text, number⟩, hmem, hrow⟩ := List.mem_flatMap.mp h
  have htext : '\n' ∉ text := newline_notMem_of_mem_lines (List.fst_mem_of_mem_zipIdx hmem)
  have hnumbered := newline_notMem_numberedLine number htext
  simp only [excerptRows] at hrow
  split at hrow
  · obtain rfl | hmarker := List.mem_cons.mp hrow
    · exact hnumbered
    · split at hmarker
      · rw [List.mem_singleton.mp hmarker]
        exact newline_notMem_markerLine _ _ _
      · cases hmarker
  · cases hrow

/-- The text of an excerpt around a line of the text is split into its rows again. -/
theorem lines_excerptText {source : List Char} {line : Nat} (context : Nat) (hpos : 1 ≤ line)
    (hle : line ≤ (lines source).length) (column width : Int) :
    lines (excerptText source line column width context).toList
      = numberedLines source (max 1 (line - context)) line ++
        markerLine (lineAt source line).length column width ::
          numberedLines source (line + 1) (min (lines source).length (line + context)) := by
  have hrows := excerpt_eq_window context hpos hle column width
  have hne : excerpt source line column width context ≠ [] := by
    rw [hrows]
    simp
  rw [excerptText, String.toList_ofList,
    lines_joinLines hne fun _ hmem => newline_notMem_of_mem_excerpt hmem, hrows]

/-! ## the marks -/

/-- Where a stretch ends that has a start and perhaps an end.  An end that is missing or zero stands
for the start. -/
def stretchEnd (start : Int) : Option Int → Int
  | none => start
  | some stop => if stop = 0 then start else stop

/-- The offsets of the characters from a start to an end that are in the line of the start.  The
line feed that ends the line is none of them. -/
def stretchOffsets (source : List Char) (start : Nat) (stop : Option Int) : Finset Nat :=
  (Finset.range source.length).filter fun offset =>
    start ≤ offset ∧ stop.any (fun last => (offset : Int) < last) ∧
      (Position.ofOffset source offset).line = (Position.ofOffset source start).line ∧
      source[offset]? ≠ some '\n'

theorem clampOffset_of_le {length offset : Nat} (h : offset ≤ length) :
    clampOffset length offset = offset := by
  rw [clampOffset, Int.toNat_natCast]
  exact Nat.min_eq_left h

/-- Two offsets are in one line if there is no line feed between them. -/
theorem line_ofOffset_eq_iff {source : List Char} {start offset : Nat} (hle : start ≤ offset)
    (hoffset : offset ≤ source.length) :
    (Position.ofOffset source offset).line = (Position.ofOffset source start).line ↔
      '\n' ∉ (source.drop start).take (offset - start) := by
  have htake :
      source.take offset = source.take start ++ (source.drop start).take (offset - start) := by
    rw [← List.take_add, Nat.add_sub_cancel' hle]
  simp only [Position.ofOffset, clampOffset_of_le hoffset, clampOffset_of_le (hle.trans hoffset)]
  rw [htake, List.count_append, ← List.count_eq_zero]
  omega

/-- The offsets of a stretch end with the stretch or with its first line. -/
theorem mem_stretchOffsets_iff {source finish : List Char} {more : List (List Char)} {start : Nat}
    (hrest : lines (source.drop start) = finish :: more) (stop : Option Int) (offset : Nat) :
    offset ∈ stretchOffsets source start stop ↔
      start ≤ offset ∧ stop.any (fun last => (offset : Int) < last)
        ∧ offset < start + finish.length := by
  rw [stretchOffsets, Finset.mem_filter, Finset.mem_range]
  by_cases hle : start ≤ offset
  · have hfirst := lt_length_first_iff hrest (offset - start)
    rw [List.length_drop, List.take_add_one, List.getElem?_drop, Nat.add_sub_cancel' hle,
      List.mem_append, not_or, Option.mem_toList] at hfirst
    constructor
    · rintro ⟨hlt, -, hstop, hline, hchar⟩
      rw [line_ofOffset_eq_iff hle hlt.le] at hline
      have hfinish := hfirst.mpr ⟨by omega, hline, hchar⟩
      exact ⟨hle, hstop, by omega⟩
    · rintro ⟨-, hstop, hlt⟩
      obtain ⟨hlength, hline, hchar⟩ := hfirst.mp (by omega)
      have hoffset : offset < source.length := by omega
      exact ⟨hoffset, hle, hstop, (line_ofOffset_eq_iff hle hoffset.le).mpr hline, hchar⟩
  · simp [hle]

theorem card_stretchOffsets {source finish : List Char} {more : List (List Char)} {start : Nat}
    (hrest : lines (source.drop start) = finish :: more) (stop : Option Int) :
    (stretchOffsets source start stop).card
      = (min (stretchEnd start stop - start) finish.length).toNat := by
  cases stop with
  | none =>
    have hempty : stretchOffsets source start none = ∅ := by
      ext offset
      simp [mem_stretchOffsets_iff hrest]
    rw [hempty, stretchEnd]
    simp
  | some last =>
    have hinterval : stretchOffsets source start (some last)
        = Finset.Ico start (min last.toNat (start + finish.length)) := by
      ext offset
      rw [mem_stretchOffsets_iff hrest, Finset.mem_Ico, Option.any_some, decide_eq_true_eq]
      omega
    rw [hinterval, Nat.card_Ico, stretchEnd]
    split <;> omega

/-- The marker of a stretch has a caret for each of its characters in its first line, and one if it
has none there. -/
theorem caretCount_ofOffset {source : List Char} {start : Nat} (hstart : start ≤ source.length)
    (stop : Option Int) :
    caretCount (lineAt source (Position.ofOffset source start).line).length
        (Position.ofOffset source start).column (stretchEnd start stop - start)
      = max 1 (stretchOffsets source start stop).card := by
  obtain ⟨passed, before, finish, more, hlines, hposition, -, hrest⟩ :=
    Position.exists_cut source start
  rw [clampOffset_of_le hstart] at hrest
  have hline : lineAt source (passed.length + 1) = before ++ finish := by
    simp [lineAt, hlines]
  rw [hposition, hline, caretCount, card_stretchOffsets hrest, List.length_append]
  push_cast
  omega

/-! ## stretches -/

/-- The rows of an excerpt around the start of a stretch. -/
theorem lines_excerptText_ofOffset {source : List Char} {start : Nat}
    (hstart : start ≤ source.length) (stop : Option Int) (context : Nat) :
    lines (excerptText source (Position.ofOffset source start).line
        (Position.ofOffset source start).column (stretchEnd start stop - start) context).toList
      = numberedLines source (max 1 ((Position.ofOffset source start).line - context))
          (Position.ofOffset source start).line ++
        (List.replicate ((Position.ofOffset source start).column + 5) ' ' ++
          List.replicate (max 1 (stretchOffsets source start stop).card) '^') ::
        numberedLines source ((Position.ofOffset source start).line + 1)
          (min (lines source).length ((Position.ofOffset source start).line + context)) := by
  have hwithin := Position.within_ofOffset source start
  obtain ⟨row, hrow, -⟩ := hwithin.column_le
  obtain ⟨hline, -⟩ := List.getElem?_eq_some_iff.mp hrow
  have hline_pos := hwithin.line_pos
  have hcolumn_pos := hwithin.column_pos
  have hblanks : 6 + (((Position.ofOffset source start).column : Int) - 1).toNat
      = (Position.ofOffset source start).column + 5 := by omega
  rw [lines_excerptText context hline_pos (by omega), markerLine, caretCount_ofOffset hstart,
    hblanks]

end Rinha.Source

namespace Rinha.Report

/-- Data that is a report with a place: it has the fields that are read, and those beside the place
can be written. -/
structure Placed (report start stop : Data) : Prop where
  program : ∃ text, told report "program" = .ok text
  kind : ∃ text, told report "kind" = .ok text
  message : ∃ text, told report "message" = .ok text
  filename : ∃ text, told report "filename" = .ok text
  start : report.field "start" = .ok start
  stop : report.field "end" = .ok stop

/-- A report that was made of an error is such data, if what it tells can be written. -/
theorem placed_toData {report : Report} (hprogram : report.program.isWritable = true)
    (hmessage : report.message.isWritable = true) (hfilename : report.filename.isWritable = true) :
    Placed report.toData report.start report.stop :=
  ⟨⟨_, Data.write_of_isWritable hprogram⟩, ⟨_, rfl⟩, ⟨_, Data.write_of_isWritable hmessage⟩,
    ⟨_, Data.write_of_isWritable hfilename⟩, rfl, rfl⟩

/-- The two ends of a stretch have no more digits than can be written. -/
structure Bounded (start : Nat) (stop : Option Int) : Prop where
  start : (Nat.toDigits 10 start).length ≤ Fault.digitLimit
  stop : ∀ last ∈ stop, (Nat.toDigits 10 last.natAbs).length ≤ Fault.digitLimit

/-- An end as data; where there is none it is null. -/
def stopData : Option Int → Data
  | none => .null
  | some stop => .int stop

/-- The excerpt of a report is that around the start of its stretch. -/
theorem excerpt_text (source : String) (start : Int) (stop : Option Int) :
    excerpt (.text source) (.int start) (stopData stop)
      = Source.excerptAt (.text source)
          (.int (Source.Position.ofOffset source.toList start).line)
          (.int (Source.Position.ofOffset source.toList start).column)
          (.int (Source.stretchEnd start stop - start)) (.int context) := by
  have hstop : (if (stopData stop).toBool then stopData stop else .int start)
      = .int (Source.stretchEnd start stop) := by
    cases stop with
    | none => rfl
    | some stop =>
      by_cases hzero : stop = 0 <;> simp [stopData, Source.stretchEnd, Data.toBool, hzero]
  rw [excerpt, Source.positionAt_int, hstop]
  rfl

/-- The ends of a stretch can be written just if they are bounded. -/
theorem bounded_iff_isWritable {start : Nat} {stop : Option Int} :
    Bounded start stop ↔
      (Data.int start).isWritable = true ∧ (stopData stop).isWritable = true := by
  rw [Data.isWritable_int, Int.natAbs_natCast]
  cases stop with
  | none => exact ⟨fun h => ⟨h.start, rfl⟩, fun h => ⟨h.1, nofun⟩⟩
  | some last =>
    rw [stopData, Data.isWritable_int]
    constructor
    · intro h
      exact ⟨h.start, h.stop last rfl⟩
    · rintro ⟨hstart, hstop⟩
      exact ⟨hstart, fun _ hlast => Option.some.inj hlast ▸ hstop⟩

section

variable {report stop : Data} {start : Int}

/-- A report with a place is rendered as without the source, and an excerpt follows. -/
theorem render_source (h : Placed report (.int start) stop)
    (hstart : (Data.int start).isWritable = true) (hstop : stop.isWritable = true)
    {source block : String} (hblock : excerpt (.text source) (.int start) stop = .ok block) :
    ∃ text, render report .null = .ok text ∧
      render report (.text source) = .ok (text ++ block ++ "\n") := by
  obtain ⟨⟨program, hprogram⟩, ⟨kind, hkind⟩, ⟨message, hmessage⟩, ⟨filename, hfilename⟩, hfirst,
    hlast⟩ := h
  have htold : told report "end" = .ok stop.display := by
    rw [told, hlast]
    exact Data.write_of_isWritable hstop
  simp only [render, hprogram, hkind, hmessage, hfilename, hfirst, hlast, htold, hblock,
    Data.write_of_isWritable hstart, bind, Except.bind, pure, Except.pure]
  exact ⟨_, rfl, rfl⟩

/-- A report is not rendered if an end of its stretch cannot be written. -/
theorem render_of_not_isWritable (h : Placed report (.int start) stop)
    (hlong : ¬ ((Data.int start).isWritable = true ∧ stop.isWritable = true)) (source : Data) :
    render report source = .error .tooManyDigits := by
  obtain ⟨⟨program, hprogram⟩, ⟨kind, hkind⟩, ⟨message, hmessage⟩, ⟨filename, hfilename⟩, hfirst,
    hlast⟩ := h
  have htold : told report "end" = stop.write := by
    rw [told, hlast]
    rfl
  simp only [render, hprogram, hkind, hmessage, hfilename, hfirst, htold, bind, Except.bind]
  cases hstart : (Data.int start).isWritable with
  | false => rw [Data.write_of_not_isWritable hstart]
  | true =>
    have hstop : stop.isWritable = false := Bool.eq_false_iff.mpr fun hstop => hlong ⟨hstart, hstop⟩
    rw [Data.write_of_isWritable hstart, Data.write_of_not_isWritable hstop]

end

/-- What is shown of a stretch that starts in a text.

* The excerpt around its start has the lines up to so many before and after, as far as there are
  any, each after its number, and below the line of the start a marker with a caret for each
  character of the stretch in that line, but at least one.
* A report with that stretch is rendered as without the source, and the excerpt with two lines
  before and after follows.  Only if an end of the stretch has too many digits to be written, it is
  not rendered at all. -/
theorem excerpt_marks_stretch (source : String) (start : Nat) (stop : Option Int)
    (hstart : start ≤ source.toList.length) :
    ∃ place : Source.Position, Source.positionAt (.text source) (.int start) = .ok place ∧
      place.Within source.toList ∧
      ∃ block : Nat → String,
        (∀ context : Nat,
          Source.excerptAt (.text source) (.int place.line) (.int place.column)
            (.int (Source.stretchEnd start stop - start)) (.int context) = .ok (block context) ∧
          Source.lines (block context).toList
            = Source.numberedLines source.toList (max 1 (place.line - context)) place.line ++
              (List.replicate (place.column + 5) ' ' ++
                List.replicate (max 1 (Source.stretchOffsets source.toList start stop).card) '^') ::
              Source.numberedLines source.toList (place.line + 1)
                (min (Source.lines source.toList).length (place.line + context))) ∧
        ∀ report, Placed report (.int start) (stopData stop) →
          (Bounded start stop → ∃ text, render report .null = .ok text ∧
            render report (.text source) = .ok (text ++ block 2 ++ "\n")) ∧
          (¬ Bounded start stop →
            ∀ source, render report source = .error .tooManyDigits) := by
  refine ⟨_, Source.positionAt_int source start, Source.Position.within_ofOffset _ _, fun context =>
    Source.excerptText source.toList (Source.Position.ofOffset source.toList start).line
      (Source.Position.ofOffset source.toList start).column
      (Source.stretchEnd start stop - start) context, fun context => ?_, fun report hreport => ?_⟩
  · exact ⟨Source.excerptAt_int _ _ _ _ _,
      Source.lines_excerptText_ofOffset hstart stop context⟩
  · rw [bounded_iff_isWritable]
    refine ⟨fun ⟨hfirst, hlast⟩ => render_source hreport hfirst hlast ?_,
      fun hlong => render_of_not_isWritable hreport hlong⟩
    rw [excerpt_text]
    exact Source.excerptAt_int _ _ _ _ _

/-- A stretch that goes on beyond its line is marked in that line, also in a report. -/
theorem excerpt_marks_stretch_acrossLines :
    let source := "ab\ncd\n\nef"
    let report : Report :=
      ⟨.text "main", "UnboundVariable", .text "no binding", .text "main", .int 4, .int 8, []⟩
    4 ≤ source.toList.length ∧ ∃ block text,
      Source.excerptAt (.text source) (.int 2) (.int 2) (.int 4) (.int 2) = .ok block ∧
      Source.lines block.toList = ["   1: ab".toList, "   2: cd".toList, "       ^".toList,
        "   3: ".toList, "   4: ef".toList] ∧
      render report.toData .null = .ok text ∧
      render report.toData (.text source) = .ok (text ++ block ++ "\n") := by
  intro source report
  have hstart : 4 ≤ source.toList.length := by decide
  obtain ⟨place, hplace, -, block, hblock, hrender⟩ :=
    excerpt_marks_stretch source 4 (some 8) hstart
  have hposition : Source.Position.ofOffset source.toList 4 = ⟨2, 2⟩ := by decide
  obtain rfl : ⟨2, 2⟩ = place := hposition.symm.trans (Except.ok.inj hplace)
  have hbounded : Bounded 4 (some 8) := bounded_iff_isWritable.mpr ⟨by decide, by decide⟩
  obtain ⟨text, hnull, htext⟩ := (hrender report.toData (placed_toData rfl rfl rfl)).1 hbounded
  refine ⟨hstart, block 2, text, (hblock 2).1, (hblock 2).2.trans ?_, hnull, htext⟩
  decide

/-- Not all data with a place can be rendered: not where the end of the stretch has a digit too
many, and not where a field is missing. -/
theorem render_refuses_longStop_and_noFilename :
    let long : Int := 10 ^ Fault.digitLimit
    let report : Report :=
      ⟨.text "main", "UnboundVariable", .text "no binding", .text "main", .int 0, .int long, []⟩
    let unfiled : Data := .object [("program", .text "main"), ("kind", .text "UnboundVariable"),
      ("message", .text "no binding"), ("start", .int 0), ("end", .int 1)]
    report.toData.field "start" = .ok (.int 0) ∧ report.toData.field "end" = .ok (.int long) ∧
      render report.toData (.text "x") = .error .tooManyDigits ∧
      unfiled.field "start" = .ok (.int 0) ∧ unfiled.field "end" = .ok (.int 1) ∧
      render unfiled (.text "x") = .error (.missingField "filename") := by
  intro long
  have hlong : ¬ ((Data.int 0).isWritable = true ∧ (Data.int long).isWritable = true) := by
    rintro ⟨-, hlong⟩
    rw [Data.isWritable_int, Nat.length_toDigits_le_iff (by decide) (by decide),
      Int.natAbs_pow] at hlong
    generalize Fault.digitLimit = limit at hlong
    exact Nat.lt_irrefl _ hlong
  -- From here on only the number of digits counts, so the number itself is not worked out.
  clear_value long
  intro report unfiled
  have hplaced : Placed report.toData (.int 0) (.int long) := placed_toData rfl rfl rfl
  exact ⟨rfl, rfl, render_of_not_isWritable hplaced hlong _, rfl, rfl, rfl⟩

end Rinha.Report
