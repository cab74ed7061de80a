/-!
# Rinha.Source.Lines

Lines of a text.  Only the line feed ends a line, so a text has one line more than it has line
feeds, and the last line may be empty.  `lines` takes a text apart and `joinLines` puts lines
together:

* `joinLines_lines`: a text is put together from its lines;
* `lines_joinLines`: lines without line feeds, at least one, are the lines of what they are put
  together to;
* `lines_append`: where two texts meet, the last line of the one and the first line of the other are
  one line;
* `lt_length_first_iff`: the first line goes on until there is a line feed.
-/

namespace Rinha.Source

/-- The lines of a text, without the line feeds between them. -/
def lines : List Char → List (List Char)
  | [] => [[]]
  | c :: cs =>
    if c = '\n' then [] :: lines cs
    else
      match lines cs with
      | [] => [[c]]
      | line :: rest => (c :: line) :: rest

/-- Lines with a line feed between each two of them. -/
def joinLines : List (List Char) → List Char
  | [] => []
  | [line] => line
  | line :: next :: rest => line ++ '\n' :: joinLines (next :: rest)

/-- Every text has a line. -/
theorem lines_ne_nil (source : List Char) : lines source ≠ [] := by
  cases source with
  | nil => simp [lines]
  | cons c cs =>
    rw [lines]
    split
    · simp
    · split <;> simp

/-- A character before the first line feed belongs to the first line. -/
theorem joinLines_cons_head (c : Char) (line : List Char) (rest : List (List Char)) :
    joinLines ((c :: line) :: rest) = c :: joinLines (line :: rest) := by
  cases rest <;> simp [joinLines]

/-- A text is put together from its lines. -/
theorem joinLines_lines (source : List Char) : joinLines (lines source) = source := by
  induction source with
  | nil => rfl
  | cons c cs ih =>
    rw [lines]
    cases h : lines cs with
    | nil => exact absurd h (lines_ne_nil cs)
    | cons line rest =>
      rw [h] at ih
      split
      · next hc => simp [joinLines, ih, hc]
      · rw [joinLines_cons_head, ih]

/-- No line has a line feed in it. -/
theorem newline_notMem_of_mem_lines {source line : List Char} (h : line ∈ lines source) :
    '\n' ∉ line := by
  induction source generalizing line with
  | nil => simp_all [lines]
  | cons c cs ih =>
    rw [lines] at h
    cases hl : lines cs with
    | nil => exact absurd hl (lines_ne_nil cs)
    | cons first rest =>
      rw [hl] at h ih
      split at h
      · rcases List.mem_cons.1 h with rfl | h
        · simp
        · exact ih h
      · next hc =>
        rcases List.mem_cons.1 h with rfl | h
        · have := ih List.mem_cons_self
          simp [this, Ne.symm hc]
        · exact ih (List.mem_cons_of_mem _ h)

/-- A line without line feeds, and what follows the first line feed after it. -/
theorem lines_append_newline {line : List Char} (h : '\n' ∉ line) (source : List Char) :
    lines (line ++ '\n' :: source) = line :: lines source := by
  induction line with
  | nil => simp [lines]
  | cons c line ih =>
    simp only [List.mem_cons, not_or] at h
    simp [lines, Ne.symm h.1, ih h.2]

/-- A text without line feeds is one line. -/
theorem lines_of_notMem {line : List Char} (h : '\n' ∉ line) : lines line = [line] := by
  induction line with
  | nil => rfl
  | cons c line ih =>
    simp only [List.mem_cons, not_or] at h
    simp [lines, Ne.symm h.1, ih h.2]

/-- Lines without line feeds are the lines of what they are put together to. -/
theorem lines_joinLines {rows : List (List Char)} (hne : rows ≠ [])
    (h : ∀ row ∈ rows, '\n' ∉ row) : lines (joinLines rows) = rows := by
  match rows with
  | [] => exact absurd rfl hne
  | [line] => exact lines_of_notMem (h line List.mem_cons_self)
  | line :: next :: rest =>
    rw [joinLines, lines_append_newline (h line List.mem_cons_self),
      lines_joinLines (List.cons_ne_nil _ _) fun row hr => h row (List.mem_cons_of_mem _ hr)]

/-! ## texts one after the other -/

/-- Lines with a line feed after each of them. -/
def endLines (rows : List (List Char)) : List Char :=
  rows.flatMap fun row => row ++ ['\n']

theorem endLines_cons (row : List Char) (rows : List (List Char)) :
    endLines (row :: rows) = row ++ '\n' :: endLines rows := by
  simp [endLines]

/-- The lengths of lines and one for a line feed after each of them, taken together. -/
def endedLength : List (List Char) → Nat
  | [] => 0
  | row :: rows => row.length + 1 + endedLength rows

theorem endedLength_append (rows more : List (List Char)) :
    endedLength (rows ++ more) = endedLength rows + endedLength more := by
  induction rows with
  | nil => exact (Nat.zero_add _).symm
  | cons row rows ih => simp only [List.cons_append, endedLength, ih, Nat.add_assoc]

theorem length_endLines (rows : List (List Char)) :
    (endLines rows).length = endedLength rows := by
  induction rows with
  | nil => rfl
  | cons row rows ih =>
    rw [endLines_cons, List.length_append, List.length_cons, ih, endedLength]
    omega

/-- Lines without line feeds have one after each of them and no other. -/
theorem count_newline_endLines {rows : List (List Char)} (h : ∀ row ∈ rows, '\n' ∉ row) :
    (endLines rows).count '\n' = rows.length := by
  induction rows with
  | nil => rfl
  | cons row rows ih =>
    rw [List.forall_mem_cons] at h
    rw [endLines_cons, List.count_append, List.count_eq_zero.mpr h.1, List.count_cons_self, ih h.2,
      List.length_cons, Nat.zero_add]

theorem joinLines_append_head (start finish : List Char) (more : List (List Char)) :
    joinLines ((start ++ finish) :: more) = start ++ joinLines (finish :: more) := by
  cases more with
  | nil => rfl
  | cons next rest => rw [joinLines, joinLines, List.append_assoc]

theorem joinLines_append_cons (passed : List (List Char)) (row : List Char)
    (more : List (List Char)) :
    joinLines (passed ++ row :: more) = endLines passed ++ joinLines (row :: more) := by
  induction passed with
  | nil => rfl
  | cons first passed ih =>
    have hjoin : joinLines (first :: (passed ++ row :: more))
        = first ++ '\n' :: joinLines (passed ++ row :: more) := by
      cases passed <;> rfl
    rw [List.cons_append, hjoin, ih, endLines_cons, List.append_assoc, List.cons_append]

/-- A text up to its last line, and the last line. -/
theorem exists_lines_eq (source : List Char) : ∃ passed last, lines source = passed ++ [last] :=
  ⟨_, _, (List.dropLast_concat_getLast (lines_ne_nil source)).symm⟩

/-- The text before its last line has a line feed after each line. -/
theorem eq_endLines_append {source last : List Char} {passed : List (List Char)}
    (h : lines source = passed ++ [last]) : source = endLines passed ++ last := by
  rw [← joinLines_lines source, h, joinLines_append_cons]
  rfl

/-- The first line of a text is the whole text, or a line feed follows it. -/
theorem exists_eq_append_of_lines {source line : List Char} {more : List (List Char)}
    (h : lines source = line :: more) :
    ∃ tail, source = line ++ tail ∧ ∀ c ∈ tail.head?, c = '\n' := by
  have hjoin := joinLines_lines source
  rw [h] at hjoin
  cases more with
  | nil => exact ⟨[], by rw [List.append_nil]; exact hjoin.symm, fun _ hmem => nomatch hmem⟩
  | cons next rest =>
    exact ⟨'\n' :: joinLines (next :: rest), hjoin.symm, fun _ hmem => (Option.some.inj hmem).symm⟩

/-- The first line of a text goes on until there is a line feed. -/
theorem lt_length_first_iff {source line : List Char} {more : List (List Char)}
    (h : lines source = line :: more) (k : Nat) :
    k < line.length ↔ k < source.length ∧ '\n' ∉ source.take (k + 1) := by
  have hfree : '\n' ∉ line := newline_notMem_of_mem_lines (h ▸ List.mem_cons_self)
  obtain ⟨tail, rfl, hhead⟩ := exists_eq_append_of_lines h
  rw [List.length_append]
  constructor
  · intro hlt
    rw [List.take_append_of_le_length hlt]
    exact ⟨by omega, fun hmem => hfree (List.mem_of_mem_take hmem)⟩
  · intro ⟨hlt, hnotMem⟩
    refine Nat.lt_of_not_le fun hge => hnotMem ?_
    obtain ⟨c, rest, rfl⟩ : ∃ c rest, tail = c :: rest :=
      List.exists_cons_of_length_pos (by omega)
    obtain rfl : c = '\n' := hhead c rfl
    rw [List.take_append, List.take_cons (by omega)]
    exact List.mem_append_right _ List.mem_cons_self

/-- Where two texts meet, a line of the one is continued by a line of the other. -/
theorem lines_append {before rest start finish : List Char} {passed more : List (List Char)}
    (hbefore : lines before = passed ++ [start]) (hrest : lines rest = finish :: more) :
    lines (before ++ rest) = passed ++ (start ++ finish) :: more := by
  have hjoin : before ++ rest = joinLines (passed ++ (start ++ finish) :: more) := by
    rw [joinLines_append_cons, joinLines_append_head, ← hrest, joinLines_lines,
      ← List.append_assoc, ← eq_endLines_append hbefore]
  rw [hjoin, lines_joinLines (by simp)]
  intro row hmem hnewline
  obtain hmem | hmem := List.mem_append.mp hmem
  · exact newline_notMem_of_mem_lines (hbefore ▸ List.mem_append_left _ hmem) hnewline
  · obtain rfl | hmem := List.mem_cons.mp hmem
    · obtain hnewline | hnewline := List.mem_append.mp hnewline
      · have hstart : start ∈ lines before := by simp [hbefore]
        exact newline_notMem_of_mem_lines hstart hnewline
      · have hfinish : finish ∈ lines rest := by simp [hrest]
        exact newline_notMem_of_mem_lines hfinish hnewline
    · exact newline_notMem_of_mem_lines (hrest ▸ List.mem_cons_of_mem _ hmem) hnewline

end Rinha.Source
