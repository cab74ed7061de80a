import Rinha.Proofs.TermShape
import Rinha.Term.Build
import Mathlib.Data.List.DropRight

/-!
# Rinha.Proofs.IntegerLiterals

Integers in text, and integers from text.  In printable ASCII a numeral is a row of digits with
single underscores between digits (`IsNumeral`), and an integer is written by a numeral that may
have a sign (`Text.WritesInteger`).  What is read is exactly what is written so, once the blanks
around it are dropped (`Text.readInteger?_eq_some_iff`), and the decimal form of an integer writes
that integer (`Text.writesInteger_toString`).  Numerals are of any length, and so are decimal forms
(`Rinha.Data.Display`).

`Value.intOf_reads_written` puts this together with the int literals of terms: their payload is
turned into an integer when they are built, and that changes nothing when they are evaluated.
-/

namespace Rinha.Text

/-! ## what writes an integer -/

/-- Digits and underscores, with a digit at each end and no two underscores in a row. -/
structure IsNumeral (cs : List Char) : Prop where
  chars : ∀ c ∈ cs, c.isDigit ∨ c = '_'
  first : ∃ d ∈ cs.head?, d.isDigit
  last : ∃ d ∈ cs.getLast?, d.isDigit
  apart : cs.IsChain fun a b => a.isDigit ∨ b.isDigit

/-- The number that the digits of a numeral write in base ten. -/
def numeralValue (cs : List Char) : Nat :=
  Nat.ofDigitChars 10 (cs.filter (· != '_')) 0

/-- A numeral with or without a sign writes an integer. -/
inductive WritesInteger : List Char → Int → Prop where
  | unsigned {cs : List Char} : IsNumeral cs → WritesInteger cs (numeralValue cs)
  | plus {cs : List Char} : IsNumeral cs → WritesInteger ('+' :: cs) (numeralValue cs)
  | minus {cs : List Char} : IsNumeral cs → WritesInteger ('-' :: cs) (-numeralValue cs)

/-- Characters of ASCII that are printed, the blank included. -/
def IsPrintableAscii (c : Char) : Prop :=
  0x20 ≤ c.toNat ∧ c.toNat ≤ 0x7E

instance : DecidablePred IsPrintableAscii := fun c =>
  inferInstanceAs (Decidable (0x20 ≤ c.toNat ∧ c.toNat ≤ 0x7E))

/-- A text without the blanks at its ends. -/
def stripSpaces (cs : List Char) : List Char :=
  (cs.dropWhile (· == ' ')).rdropWhile (· == ' ')

/-! ## numerals from the left -/

namespace IsNumeral

variable {c d : Char} {cs : List Char}

theorem isDigit_head (h : IsNumeral (c :: cs)) : c.isDigit := by
  obtain ⟨d, hmem, hdigit⟩ := h.first
  rwa [← Option.some.inj hmem] at hdigit

theorem single (hd : d.isDigit) : IsNumeral [d] :=
  ⟨by simp [hd], ⟨d, rfl, hd⟩, ⟨d, rfl, hd⟩, .singleton d⟩

theorem not_nil : ¬ IsNumeral [] := fun h => by
  obtain ⟨d, hmem, -⟩ := h.first
  cases hmem

/-- A digit can stand before a numeral. -/
theorem cons_iff (hd : d.isDigit) (hc : c.isDigit) :
    IsNumeral (d :: c :: cs) ↔ IsNumeral (c :: cs) := by
  constructor
  · intro h
    exact ⟨(List.forall_mem_cons.mp h.chars).2, ⟨c, rfl, hc⟩, h.last,
      (List.isChain_cons_cons.mp h.apart).2⟩
  · intro h
    exact ⟨List.forall_mem_cons.mpr ⟨.inl hd, h.chars⟩, ⟨d, rfl, hd⟩, h.last,
      List.isChain_cons_cons.mpr ⟨.inl hd, h.apart⟩⟩

/-- So can a digit with an underscore after it. -/
theorem cons_underscore_iff (hd : d.isDigit) :
    IsNumeral (d :: '_' :: c :: cs) ↔ IsNumeral (c :: cs) := by
  constructor
  · intro h
    obtain ⟨-, hchain⟩ := List.isChain_cons_cons.mp h.apart
    obtain ⟨hpair, hrest⟩ := List.isChain_cons_cons.mp hchain
    have hc : c.isDigit := hpair.resolve_left (by decide)
    exact ⟨fun a hmem => h.chars a (by simp_all), ⟨c, rfl, hc⟩, h.last, hrest⟩
  · intro h
    have hc := h.isDigit_head
    exact ⟨List.forall_mem_cons.mpr ⟨.inl hd, List.forall_mem_cons.mpr ⟨.inr rfl, h.chars⟩⟩,
      ⟨d, rfl, hd⟩, h.last,
      List.isChain_cons_cons.mpr ⟨.inl hd, List.isChain_cons_cons.mpr ⟨.inr hc, h.apart⟩⟩⟩

/-- A numeral does not end in an underscore. -/
theorem not_underscore : ¬ IsNumeral (d :: ['_']) := fun h => by
  obtain ⟨e, hmem, hdigit⟩ := h.last
  cases hmem
  cases hdigit

theorem digit_or_underscore (h : IsNumeral (d :: c :: cs)) : c.isDigit ∨ c = '_' :=
  h.chars c (by simp)

end IsNumeral

/-- In ASCII the digits are those from zero to nine. -/
theorem digitValue?_ascii {c : Char} (h : c.toNat < 0x80) :
    digitValue? c = if c.isDigit then some (c.toNat - '0'.toNat) else none := by
  have hfar : ∀ start ∈ digitZeros.tail, 0x80 ≤ start := by decide
  have hrest :
      digitZeros.tail.find? (fun start => start ≤ c.toNat && c.toNat < start + 10) = none := by
    rw [List.find?_eq_none]
    intro start hmem
    have hstart := hfar start hmem
    simp only [Bool.and_eq_true, decide_eq_true_eq]
    omega
  have hfirst : (0x30 ≤ c.toNat && c.toNat < 0x30 + 10) = c.isDigit := by
    rw [Bool.eq_iff_iff, Char.isDigit_iff_toNat, Bool.and_eq_true, decide_eq_true_eq,
      decide_eq_true_eq]
    have h0 : '0'.toNat = 0x30 := rfl
    have h9 : '9'.toNat = 0x39 := rfl
    omega
  rw [digitValue?, show digitZeros = 0x30 :: digitZeros.tail from rfl, List.find?_cons, hfirst]
  cases c.isDigit with
  | true => rfl
  | false => simpa using hrest

theorem filter_cons_of_isDigit {c : Char} (hc : c.isDigit) (cs : List Char) :
    (c :: cs).filter (· != '_') = c :: cs.filter (· != '_') := by
  refine List.filter_cons_of_pos (bne_iff_ne.mpr ?_)
  rintro rfl
  cases hc

/-- After a digit is read what goes on with a numeral. -/
theorem readAfterDigit?_eq_some_iff {value n : Nat} {d : Char} {cs : List Char} (hd : d.isDigit)
    (hascii : ∀ c ∈ cs, c.toNat < 0x80) :
    readAfterDigit? value cs = some n ↔
      IsNumeral (d :: cs) ∧ Nat.ofDigitChars 10 (cs.filter (· != '_')) value = n := by
  -- The digit in front is the last one read, and it is what an underscore needs before it.
  induction value, cs using readAfterDigit?.induct generalizing d with
  | case1 value => simp [readAfterDigit?, IsNumeral.single hd]
  | case2 value c cs ih =>
    simp only [List.forall_mem_cons] at hascii
    rw [readAfterDigit?, digitValue?_ascii hascii.2.1, IsNumeral.cons_underscore_iff hd]
    by_cases hc : c.isDigit
    · rw [if_pos hc, Option.bind_some, ih _ hc hascii.2.2, List.filter_cons_of_neg (by decide),
        filter_cons_of_isDigit hc, Nat.ofDigitChars_cons]
    · have hnot : ¬ IsNumeral (c :: cs) := fun h => hc h.isDigit_head
      simp [hc, hnot]
  | case3 value c cs hne ih =>
    rw [List.forall_mem_cons] at hascii
    rw [readAfterDigit?.eq_3 _ _ _ hne, digitValue?_ascii hascii.1]
    by_cases hc : c.isDigit
    · rw [if_pos hc, Option.bind_some, ih _ hc hascii.2, IsNumeral.cons_iff hd hc,
        filter_cons_of_isDigit hc, Nat.ofDigitChars_cons]
    · have hnot : ¬ IsNumeral (d :: c :: cs) := by
        intro h
        obtain rfl := h.digit_or_underscore.resolve_left hc
        cases cs with
        | nil => exact IsNumeral.not_underscore h
        | cons e cs => exact hne e cs rfl rfl
      simp [hc, hnot]

/-- A numeral is read as the number that its digits write. -/
theorem readNatural?_eq_some_iff {n : Nat} {cs : List Char} (hascii : ∀ c ∈ cs, c.toNat < 0x80) :
    readNatural? cs = some n ↔ IsNumeral cs ∧ numeralValue cs = n := by
  cases cs with
  | nil => simp [readNatural?, IsNumeral.not_nil]
  | cons d cs =>
    rw [List.forall_mem_cons] at hascii
    rw [readNatural?, digitValue?_ascii hascii.1]
    by_cases hd : d.isDigit
    · rw [if_pos hd, Option.bind_some, readAfterDigit?_eq_some_iff hd hascii.2, numeralValue,
        filter_cons_of_isDigit hd, Nat.ofDigitChars_cons, Nat.mul_zero, Nat.zero_add]
    · have hnot : ¬ IsNumeral (d :: cs) := fun h => hd h.isDigit_head
      simp [hd, hnot]

/-! ## signs -/

namespace WritesInteger

variable {c : Char} {cs : List Char} {n : Int}

/-- A written integer starts with a digit or a sign. -/
theorem head (h : WritesInteger (c :: cs) n) : c.isDigit ∨ c = '+' ∨ c = '-' := by
  cases h with
  | unsigned hnumeral => exact .inl hnumeral.isDigit_head
  | plus _ => exact .inr (.inl rfl)
  | minus _ => exact .inr (.inr rfl)

theorem minus_iff : WritesInteger ('-' :: cs) n ↔ IsNumeral cs ∧ -(numeralValue cs : Int) = n := by
  constructor
  · rintro (hnumeral | - | hnumeral)
    · exact absurd hnumeral.isDigit_head (by decide)
    · exact ⟨hnumeral, rfl⟩
  · rintro ⟨hnumeral, rfl⟩
    exact .minus hnumeral

theorem plus_iff : WritesInteger ('+' :: cs) n ↔ IsNumeral cs ∧ (numeralValue cs : Int) = n := by
  constructor
  · rintro (hnumeral | hnumeral | -)
    · exact absurd hnumeral.isDigit_head (by decide)
    · exact ⟨hnumeral, rfl⟩
  · rintro ⟨hnumeral, rfl⟩
    exact .plus hnumeral

theorem unsigned_iff (hminus : ∀ rest, cs ≠ '-' :: rest) (hplus : ∀ rest, cs ≠ '+' :: rest) :
    WritesInteger cs n ↔ IsNumeral cs ∧ (numeralValue cs : Int) = n := by
  constructor
  · rintro (hnumeral | - | -)
    · exact ⟨hnumeral, rfl⟩
    · exact absurd rfl (hplus _)
    · exact absurd rfl (hminus _)
  · rintro ⟨hnumeral, rfl⟩
    exact .unsigned hnumeral

end WritesInteger

theorem readSigned?_minus (cs : List Char) :
    readSigned? ('-' :: cs) = (readNatural? cs).map fun n : Nat => -(n : Int) := by
  rw [readSigned?]
  cases readNatural? cs <;> rfl

theorem readSigned?_plus (cs : List Char) :
    readSigned? ('+' :: cs) = (readNatural? cs).map fun n : Nat => (n : Int) := by
  rw [readSigned?]
  cases readNatural? cs <;> rfl

theorem readSigned?_unsigned {cs : List Char} (hminus : ∀ rest, cs ≠ '-' :: rest)
    (hplus : ∀ rest, cs ≠ '+' :: rest) :
    readSigned? cs = (readNatural? cs).map fun n : Nat => (n : Int) := by
  rw [readSigned?.eq_3 cs hminus hplus]
  cases readNatural? cs <;> rfl

theorem map_readNatural?_eq_some_iff {cs : List Char} {n : Int} (f : Nat → Int)
    (hascii : ∀ c ∈ cs, c.toNat < 0x80) :
    (readNatural? cs).map f = some n ↔ IsNumeral cs ∧ f (numeralValue cs) = n := by
  simp only [Option.map_eq_some_iff, readNatural?_eq_some_iff hascii, and_assoc,
    exists_and_left, exists_eq_left']

/-- What is read is the integer that is written. -/
theorem readSigned?_eq_some_iff {n : Int} {cs : List Char} (hascii : ∀ c ∈ cs, c.toNat < 0x80) :
    readSigned? cs = some n ↔ WritesInteger cs n := by
  by_cases hminus : ∃ rest, cs = '-' :: rest
  · obtain ⟨rest, rfl⟩ := hminus
    rw [readSigned?_minus, WritesInteger.minus_iff]
    exact map_readNatural?_eq_some_iff _ (List.forall_mem_cons.mp hascii).2
  by_cases hplus : ∃ rest, cs = '+' :: rest
  · obtain ⟨rest, rfl⟩ := hplus
    rw [readSigned?_plus, WritesInteger.plus_iff]
    exact map_readNatural?_eq_some_iff _ (List.forall_mem_cons.mp hascii).2
  · rw [not_exists] at hminus hplus
    rw [readSigned?_unsigned hminus hplus, WritesInteger.unsigned_iff hminus hplus]
    exact map_readNatural?_eq_some_iff _ hascii

/-! ## blanks -/

/-- Of the printable characters of ASCII only the blank is dropped from the ends of a text. -/
theorem isBlank_of_isPrintableAscii {c : Char} (h : IsPrintableAscii c) :
    isBlank c = (c == ' ') := by
  have hblank : c = ' ' ↔ c.toNat = 0x20 := Char.toNat_inj.symm
  rw [Bool.eq_iff_iff, beq_iff_eq, hblank]
  obtain ⟨hlow, hhigh⟩ := h
  simp only [isBlank, within, blankRanges, List.any_cons, List.any_nil, Bool.or_eq_true,
    Bool.and_eq_true, decide_eq_true_eq, Bool.false_eq_true, or_false]
  omega

theorem dropWhile_congr {p q : Char → Bool} {cs : List Char} (h : ∀ c ∈ cs, p c = q c) :
    cs.dropWhile p = cs.dropWhile q := by
  induction cs with
  | nil => rfl
  | cons c cs ih =>
    rw [List.forall_mem_cons] at h
    rw [List.dropWhile_cons, List.dropWhile_cons, h.1, ih h.2]

theorem trim_eq_stripSpaces {cs : List Char} (h : ∀ c ∈ cs, IsPrintableAscii c) :
    trim cs = stripSpaces cs := by
  have hstart : trimStart cs = cs.dropWhile (· == ' ') :=
    dropWhile_congr fun c hmem => isBlank_of_isPrintableAscii (h c hmem)
  have hend : trimStart (cs.dropWhile (· == ' ')).reverse
      = (cs.dropWhile (· == ' ')).reverse.dropWhile (· == ' ') := by
    refine dropWhile_congr fun c hmem => isBlank_of_isPrintableAscii (h c ?_)
    exact (List.dropWhile_sublist _).subset (List.mem_reverse.mp hmem)
  rw [trim, hstart, hend]
  rfl

theorem mem_of_mem_stripSpaces {c : Char} {cs : List Char} (h : c ∈ stripSpaces cs) : c ∈ cs :=
  (List.dropWhile_sublist _).subset ((List.rdropWhile_prefix _ _).subset h)

/-- A text in printable ASCII is read as the integer that it writes between its blanks. -/
theorem readInteger?_eq_some_iff {text : String} {n : Int}
    (h : ∀ c ∈ text.toList, IsPrintableAscii c) :
    readInteger? text = some n ↔ WritesInteger (stripSpaces text.toList) n := by
  rw [readInteger?, trim_eq_stripSpaces h]
  refine readSigned?_eq_some_iff fun c hmem => ?_
  have hc := (h c (mem_of_mem_stripSpaces hmem)).2
  omega

/-! ## decimals -/

theorem isNumeral_of_digits {cs : List Char} (hne : cs ≠ []) (h : ∀ c ∈ cs, c.isDigit) :
    IsNumeral cs := by
  refine ⟨fun c hmem => .inl (h c hmem), ?_, ?_, ?_⟩
  · exact ⟨cs.head hne, List.head?_eq_some_head hne, h _ (List.head_mem hne)⟩
  · exact ⟨cs.getLast hne, List.getLast?_eq_some_getLast hne, h _ (List.getLast_mem hne)⟩
  · exact (List.pairwise_of_forall_mem_list fun a hmem _ _ => .inl (h a hmem)).isChain

theorem numeralValue_of_digits {cs : List Char} (h : ∀ c ∈ cs, c.isDigit) :
    numeralValue cs = Nat.ofDigitChars 10 cs 0 := by
  rw [numeralValue, List.filter_eq_self.mpr]
  intro c hmem
  rw [bne_iff_ne]
  rintro rfl
  exact absurd (h _ hmem) (by decide)

theorem isDigit_of_mem_toDigits {n : Nat} {c : Char} (h : c ∈ Nat.toDigits 10 n) : c.isDigit :=
  Nat.isDigit_of_mem_toDigits (by decide) (by decide) h

theorem isNumeral_toDigits (n : Nat) : IsNumeral (Nat.toDigits 10 n) :=
  isNumeral_of_digits Nat.toDigits_ne_nil fun _ => isDigit_of_mem_toDigits

theorem numeralValue_toDigits (n : Nat) : numeralValue (Nat.toDigits 10 n) = n := by
  rw [numeralValue_of_digits fun _ => isDigit_of_mem_toDigits, Nat.ofDigitChars_ten_toDigits]

/-- The decimal form of an integer writes it. -/
theorem writesInteger_toString (n : Int) : WritesInteger (toString n).toList n := by
  rw [Int.toString_eq_repr, Int.repr_eq_if]
  split
  · next hn =>
    have hwrites := WritesInteger.unsigned (isNumeral_toDigits n.toNat)
    rwa [numeralValue_toDigits, Int.toNat_of_nonneg hn, ← Nat.toList_repr] at hwrites
  · next hn =>
    have hwrites := WritesInteger.minus (isNumeral_toDigits (-n).toNat)
    rw [numeralValue_toDigits, Int.toNat_of_nonneg (by omega), Int.neg_neg, ← Nat.toList_repr]
      at hwrites
    rwa [String.toList_append]

theorem isPrintableAscii_of_isDigit {c : Char} (h : c.isDigit) : IsPrintableAscii c := by
  rw [Char.isDigit_iff_toNat] at h
  exact ⟨Nat.le_trans (by decide) h.1, Nat.le_trans h.2 (by decide)⟩

theorem IsNumeral.printable {cs : List Char} (h : IsNumeral cs) {c : Char} (hmem : c ∈ cs) :
    IsPrintableAscii c ∧ c ≠ ' ' := by
  obtain hdigit | rfl := h.chars c hmem
  · refine ⟨isPrintableAscii_of_isDigit hdigit, ?_⟩
    rintro rfl
    cases hdigit
  · exact ⟨by decide, by decide⟩

/-- What writes an integer is printable and has no blanks. -/
theorem WritesInteger.printable {cs : List Char} {n : Int} (h : WritesInteger cs n) {c : Char}
    (hmem : c ∈ cs) : IsPrintableAscii c ∧ c ≠ ' ' := by
  cases h with
  | unsigned hnumeral => exact hnumeral.printable hmem
  | plus hnumeral | minus hnumeral =>
    obtain rfl | hrest := List.mem_cons.mp hmem
    · exact ⟨by decide, by decide⟩
    · exact hnumeral.printable hrest

theorem stripSpaces_eq_self {cs : List Char} (h : ∀ c ∈ cs, c ≠ ' ') : stripSpaces cs = cs := by
  have hstart : cs.dropWhile (· == ' ') = cs := by
    rw [List.dropWhile_eq_self_iff]
    intro hlen
    simpa using h _ (List.getElem_mem hlen)
  rw [stripSpaces, hstart, List.rdropWhile_eq_self_iff]
  intro hne
  simpa using h _ (List.getLast_mem hne)

/-- The decimal form of an integer is read as that integer. -/
theorem readInteger?_toString (n : Int) : readInteger? (toString n) = some n := by
  have hwrites := writesInteger_toString n
  rw [readInteger?_eq_some_iff fun c hmem => (hwrites.printable hmem).1,
    stripSpaces_eq_self fun c hmem => (hwrites.printable hmem).2]
  exact hwrites

end Rinha.Text

namespace Rinha

/-! ## literals -/

/-- A text is an integer if it writes one, and otherwise a bad integer. -/
theorem Value.intOf_text (text : String) :
    Value.intOf (.text text)
      = match Text.readInteger? text with
        | some n => .ok (.int n)
        | none => .error (.badInteger text) := by
  rw [Value.intOf, Data.toInt]
  cases Text.readInteger? text <;> rfl

theorem Value.intOf_text_eq_ok_iff {text : String} {value : Value} :
    Value.intOf (.text text) = .ok value
      ↔ ∃ n, Text.readInteger? text = some n ∧ value = .int n := by
  rw [Value.intOf_text]
  cases Text.readInteger? text <;> simp [eq_comm]

theorem Value.intOf_text_eq_error {text : String} (h : Text.readInteger? text = none) :
    Value.intOf (.text text) = .error (.badInteger text) := by
  rw [Value.intOf_text, h]

/-- An int literal evaluates to its integer. -/
theorem Term.evalRoot_int (location : Location) (n : Int) (limit : Nat) (env : Env)
    (context : Context) :
    ((Term.int location (.ok n)).evalRoot limit env context).1 = .done (.int n) := by
  have heval : ((Term.int location (.ok n)).eval limit env context).1 = .done (.int n) := by
    cases limit <;> rfl
  rw [Term.evalRoot_of_ne_exhausted, heval]
  rw [heval]
  nofun

/-- Building and evaluating an int literal is turning its payload into an integer. -/
theorem Build.evalRoot_int (payload : Data) (place : Option Data) (limit : Nat) (env : Env)
    (context : Context) :
    (fun data => ((Term.ofData data).evalRoot limit env context).1) <$> Build.int payload place
      = Outcome.done <$> Value.intOf payload := by
  rw [Build.int, Value.intOf]
  cases payload.toInt with
  | error fault => rfl
  | ok n =>
    have hkind : (Build.term .int [("value", .int n)] place).HasKind .int := rfl
    show Except.ok ((Term.ofData _).evalRoot limit env context).1 = _
    rw [Term.ofData_int hkind rfl, Data.toInt_int, Term.evalRoot_int]
    rfl

/-- Integers and the texts that write them agree.

1. An int is what its rendering is read as.
2. A text in printable ASCII is an int exactly if it writes one between its blanks, and then that
   one; any other is a bad integer.
3. An int literal that is built from a payload evaluates to the int of that payload, and cannot be
   built where there is none. -/
theorem Value.intOf_reads_written :
    (∀ n, ∃ text, (Value.int n).display = .ok text ∧
      Value.intOf (.int n) = .ok (.int n) ∧ Value.intOf (.text text) = .ok (.int n)) ∧
    (∀ text : String, (∀ c ∈ text.toList, Text.IsPrintableAscii c) →
      (∀ value, Value.intOf (.text text) = .ok value ↔
        ∃ n, Text.WritesInteger (Text.stripSpaces text.toList) n ∧ value = .int n) ∧
      ((∀ n, ¬ Text.WritesInteger (Text.stripSpaces text.toList) n) →
        Value.intOf (.text text) = .error (.badInteger text))) ∧
    (∀ payload place limit env context,
      (fun data => ((Term.ofData data).evalRoot limit env context).1) <$> Build.int payload place
        = Outcome.done <$> Value.intOf payload) := by
  refine ⟨fun n => ?_, fun text hprintable => ⟨fun value => ?_, fun hnone => ?_⟩,
    Build.evalRoot_int⟩
  · refine ⟨toString n, rfl, rfl, ?_⟩
    exact Value.intOf_text_eq_ok_iff.mpr ⟨n, Text.readInteger?_toString n, rfl⟩
  · simp only [Value.intOf_text_eq_ok_iff, Text.readInteger?_eq_some_iff hprintable]
  · refine Value.intOf_text_eq_error (Option.eq_none_iff_forall_ne_some.mpr fun n hread => ?_)
    exact hnone n ((Text.readInteger?_eq_some_iff hprintable).mp hread)

theorem Value.intOf_reads_written_blanks :
    (∀ c ∈ " -1_000 ".toList, Text.IsPrintableAscii c) ∧
      Value.intOf (.text " -1_000 ") = .ok (.int (-1000)) ∧
      (∀ c ∈ "1__0".toList, Text.IsPrintableAscii c) ∧
      Value.intOf (.text "1__0") = .error (.badInteger "1__0") := by
  have hwrites : Text.WritesInteger (Text.stripSpaces " -1_000 ".toList) (-1000) := by
    have hstrip : Text.stripSpaces " -1_000 ".toList = '-' :: "1_000".toList := by decide
    have hnumeral : Text.IsNumeral "1_000".toList :=
      ⟨by simp, ⟨'1', rfl, rfl⟩, ⟨'0', rfl, rfl⟩, by decide⟩
    have hvalue : -(Text.numeralValue "1_000".toList : Int) = -1000 := by decide +kernel
    rw [hstrip, ← hvalue]
    exact .minus hnumeral
  have hnone (n : Int) : ¬ Text.WritesInteger (Text.stripSpaces "1__0".toList) n := by
    have hstrip : Text.stripSpaces "1__0".toList = '1' :: "__0".toList := by decide
    rw [hstrip]
    rintro ⟨hnumeral⟩
    exact absurd hnumeral.apart (by decide)
  have hfirst : ∀ c ∈ " -1_000 ".toList, Text.IsPrintableAscii c := by
    simp [Text.IsPrintableAscii]
  have hsecond : ∀ c ∈ "1__0".toList, Text.IsPrintableAscii c := by
    simp [Text.IsPrintableAscii]
  refine ⟨hfirst, ?_, hsecond, ?_⟩
  · exact ((Value.intOf_reads_written.2.1 _ hfirst).1 _).mpr ⟨-1000, hwrites, rfl⟩
  · exact (Value.intOf_reads_written.2.1 _ hsecond).2 hnone

end Rinha
