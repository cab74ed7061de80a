import Rinha.Proofs.IntegerLiterals
import Rinha.Proofs.OperatorSignatures

/-!
# Rinha.Proofs.Rendering

Renderings and equality.  What a bool, an int or a string is rendered as can be read back: the first
character tells the kind, and the rest tells what the value holds, although a string is put between
its quotation marks as it is.  Functions and foreign values all start with `<`, and nothing is read
back from them (`Value.ofDisplay?`).  Every int has a rendering (`Rinha.Data.Display`).

So the values with an equality are told apart by their renderings, and those renderings from all
others; `Value.display_faithful` says this and what it means for `Value.equal`.
-/

namespace Rinha

namespace Value

/-! ## values with an equality -/

theorem kind_mem_comparable_iff {a : Value} :
    a.kind ∈ ValueKind.comparable ↔
      (∃ b, a = .bool b) ∨ (∃ n, a = .int n) ∨ ∃ s, a = .string s := by
  constructor
  · intro h
    obtain ⟨same, hsame⟩ := compares_of_kind rfl h
    cases hsame with
    | bool => exact .inl ⟨_, rfl⟩
    | int => exact .inr (.inl ⟨_, rfl⟩)
    | string => exact .inr (.inr ⟨_, rfl⟩)
  · rintro (⟨b, rfl⟩ | ⟨n, rfl⟩ | ⟨s, rfl⟩) <;>
      simp [kind, ValueKind.name, ValueKind.comparable]

/-- Two values of one kind are compared by what they hold, if the kind has an equality. -/
theorem equal_eq_ok_iff_kind {a b : Value} {same : Bool} :
    a.equal b = .ok same ↔
      a.kind = b.kind ∧ a.kind ∈ ValueKind.comparable ∧ (same = true ↔ a = b) := by
  rw [equal_eq_ok_iff]
  constructor
  · intro h
    exact ⟨h.kind_eq, h.kind_mem, h.same_iff⟩
  · rintro ⟨hkind, hmem, hsame⟩
    obtain ⟨other, h⟩ := compares_of_kind hkind hmem
    obtain rfl : same = other := Bool.eq_iff_iff.mpr (hsame.trans h.same_iff.symm)
    exact h

/-- Which values are compared does not depend on their order. -/
theorem comparable_comm {a b : Value} :
    a.kind = b.kind ∧ a.kind ∈ ValueKind.comparable
      ↔ b.kind = a.kind ∧ b.kind ∈ ValueKind.comparable :=
  ⟨fun ⟨hkind, hmem⟩ => ⟨hkind.symm, hkind ▸ hmem⟩, fun ⟨hkind, hmem⟩ => ⟨hkind.symm, hkind ▸ hmem⟩⟩

theorem equal_comm {a b : Value} {same : Bool} (h : a.equal b = .ok same) :
    b.equal a = .ok same := by
  obtain ⟨hkind, hmem, hsame⟩ := equal_eq_ok_iff_kind.mp h
  exact equal_eq_ok_iff_kind.mpr ⟨hkind.symm, hkind ▸ hmem, hsame.trans eq_comm⟩

/-- No other values are compared. -/
theorem exists_equal_eq_error_iff {a b : Value} :
    (∃ cause, a.equal b = .error cause) ↔
      ¬ (a.kind = b.kind ∧ a.kind ∈ ValueKind.comparable) := by
  constructor
  · rintro ⟨cause, hcause⟩ ⟨hkind, hmem⟩
    obtain ⟨same, hsame⟩ := compares_of_kind hkind hmem
    rw [equal_eq_ok_iff.mpr hsame] at hcause
    cases hcause
  · intro h
    cases hequal : a.equal b with
    | error cause => exact ⟨cause, rfl⟩
    | ok same =>
      obtain ⟨hkind, hmem, -⟩ := equal_eq_ok_iff_kind.mp hequal
      exact absurd ⟨hkind, hmem⟩ h

/-! ## reading renderings back -/

/-- The value with this rendering, if it is of a kind that has an equality. -/
def ofDisplay? (text : String) : Option Value :=
  match text.toList with
  | 't' :: _ => some (.bool true)
  | 'f' :: _ => some (.bool false)
  | '"' :: cs => some (.string (String.ofList cs.dropLast))
  | '<' :: _ => none
  | _ => (Text.readInteger? text).map .int

theorem ofDisplay?_toString (n : Int) : ofDisplay? (toString n) = some (.int n) := by
  have hwrites := Text.writesInteger_toString n
  unfold ofDisplay?
  split
  · next hchars => exact absurd (hchars ▸ hwrites).head (by decide)
  · next hchars => exact absurd (hchars ▸ hwrites).head (by decide)
  · next hchars => exact absurd (hchars ▸ hwrites).head (by decide)
  · next hchars => exact absurd (hchars ▸ hwrites).head (by decide)
  · rw [Text.readInteger?_toString, Option.map_some]

theorem ofDisplay?_quoted (s : String) : ofDisplay? ("\"" ++ s ++ "\"") = some (.string s) := by
  have hchars : ("\"" ++ s ++ "\"").toList = '"' :: (s.toList ++ ['"']) := by simp
  rw [ofDisplay?, hchars]
  simp

/-- A value with an equality has a rendering, and it is read back from that. -/
theorem exists_display {a : Value} (h : a.kind ∈ ValueKind.comparable) :
    ∃ text, a.display = .ok text ∧ ofDisplay? text = some a := by
  obtain ⟨b, rfl⟩ | ⟨n, rfl⟩ | ⟨s, rfl⟩ := kind_mem_comparable_iff.mp h
  · cases b with
    | true => exact ⟨_, rfl, rfl⟩
    | false => exact ⟨_, rfl, rfl⟩
  · exact ⟨_, rfl, ofDisplay?_toString n⟩
  · exact ⟨_, rfl, ofDisplay?_quoted s⟩

theorem ofDisplay?_angle (inner : String) : ofDisplay? ("<" ++ inner) = none := by
  have hchars : ("<" ++ inner).toList = '<' :: inner.toList := by simp
  rw [ofDisplay?, hchars]
  rfl

/-- The renderings of all other values start alike. -/
theorem display_of_notMem {a : Value} {text : String} (h : a.kind ∉ ValueKind.comparable)
    (hdisplay : a.display = .ok text) : ∃ inner, text = "<" ++ inner := by
  cases a with
  | bool b => exact absurd (kind_mem_comparable_iff.mpr (.inl ⟨b, rfl⟩)) h
  | int n => exact absurd (kind_mem_comparable_iff.mpr (.inr (.inl ⟨n, rfl⟩))) h
  | string s => exact absurd (kind_mem_comparable_iff.mpr (.inr (.inr ⟨s, rfl⟩))) h
  | closure parameters body env =>
    rw [display] at hdisplay
    cases hnames : parameters.mapM displayParameter with
    | error fault =>
      rw [hnames] at hdisplay
      cases hdisplay
    | ok names =>
      rw [hnames] at hdisplay
      cases hdisplay
      refine ⟨"fn(" ++ ", ".intercalate names ++ ")>", ?_⟩
      rw [← String.append_assoc, ← String.append_assoc]
      rfl
  | foreign kind content =>
    cases hdisplay
    exact ⟨kind.name.display ++ ">", String.append_assoc⟩

/-! ## faithfulness -/

/-- Two values with an equality are rendered alike only if they are the same. -/
theorem display_eq_iff {a b : Value} (ha : a.kind ∈ ValueKind.comparable)
    (hb : b.kind ∈ ValueKind.comparable) : a.display = b.display ↔ a = b := by
  constructor
  · intro h
    obtain ⟨text, hdisplay, hread⟩ := exists_display ha
    obtain ⟨other, hdisplay', hread'⟩ := exists_display hb
    obtain rfl : text = other := by
      rw [hdisplay, hdisplay'] at h
      exact Except.ok.inj h
    exact Option.some.inj (hread.symm.trans hread')
  · rintro rfl
    rfl

/-- A value with an equality is not rendered like one without. -/
theorem display_ne {a b : Value} (ha : a.kind ∈ ValueKind.comparable)
    (hb : b.kind ∉ ValueKind.comparable) : a.display ≠ b.display := by
  intro h
  obtain ⟨text, hdisplay, hread⟩ := exists_display ha
  obtain ⟨inner, rfl⟩ := display_of_notMem hb (h ▸ hdisplay)
  rw [ofDisplay?_angle] at hread
  cases hread

/-- Renderings are faithful to equality.

1. A bool, an int or a string has a rendering, and two of them have the same one exactly if they
   are the same value.
2. No other value has that rendering.
3. Where two values are compared, they are equal exactly if they have the same rendering.
4. On bools, ints and strings equality is reflexive, and the order of the values is all the same,
   also for whether they are compared at all.
5. Equality is transitive. -/
theorem display_faithful :
    (∀ a b : Value, a.kind ∈ ValueKind.comparable → b.kind ∈ ValueKind.comparable →
      (∃ text, a.display = .ok text) ∧ (a.display = b.display ↔ a = b)) ∧
    (∀ a b : Value, a.kind ∈ ValueKind.comparable → b.kind ∉ ValueKind.comparable →
      a.display ≠ b.display) ∧
    (∀ (a b : Value) (same : Bool), a.equal b = .ok same →
      (same = true ↔ a.display = b.display)) ∧
    (∀ a : Value, a.kind ∈ ValueKind.comparable → a.equal a = .ok true) ∧
    (∀ (a b : Value) (same : Bool), a.equal b = .ok same ↔ b.equal a = .ok same) ∧
    (∀ a b : Value, (∃ cause, a.equal b = .error cause) ↔ ∃ cause, b.equal a = .error cause) ∧
    (∀ a b c : Value, a.equal b = .ok true → b.equal c = .ok true → a.equal c = .ok true) := by
  refine ⟨fun a b ha hb => ⟨?_, display_eq_iff ha hb⟩, fun a b => display_ne, fun a b same h => ?_,
    fun a ha => ?_, fun a b same => ?_, fun a b => ?_, fun a b c hab hbc => ?_⟩
  · obtain ⟨text, hdisplay, -⟩ := exists_display ha
    exact ⟨text, hdisplay⟩
  · obtain ⟨hkind, hmem, hsame⟩ := equal_eq_ok_iff_kind.mp h
    exact hsame.trans (display_eq_iff hmem (hkind ▸ hmem)).symm
  · exact equal_eq_ok_iff_kind.mpr ⟨rfl, ha, iff_of_true rfl rfl⟩
  · exact ⟨equal_comm, equal_comm⟩
  · rw [exists_equal_eq_error_iff, exists_equal_eq_error_iff, comparable_comm]
  · obtain ⟨-, -, hsame⟩ := equal_eq_ok_iff_kind.mp hab
    rwa [hsame.mp rfl]

/-- Values that look alike: an int and the string of its digits, a string and the function that it
shows, and strings of quotation marks. -/
theorem display_faithful_lookalikes :
    display (.int 1) ≠ display (.string "1") ∧
      display (.string "<fn(x)>")
        ≠ display (.closure [.text "x"] (.var none (.ok (.text "x"))) .empty) ∧
      equal (.string "\"") (.string "\"\"") = .ok false ∧
      display (.string "\"") ≠ display (.string "\"\"") ∧
      equal (.int 7) (.int 7) = .ok true ∧
      ∃ cause, equal (.int 1) (.bool true) = .error cause := by
  obtain ⟨hshown, hother, hequal, hrefl, -, herror, htrans⟩ := display_faithful
  have hunequal : equal (.string "\"") (.string "\"\"") = .ok false := rfl
  have hseven := hrefl (.int 7) (by decide)
  refine ⟨fun h => ?_, hother _ _ (by decide) (by decide), hunequal, fun h => ?_,
    htrans _ _ _ hseven hseven, (herror _ _).mp ⟨_, rfl⟩⟩
  · exact nomatch (hshown _ _ (by decide) (by decide)).2.mp h
  · exact nomatch (hequal _ _ _ hunequal).mpr h

end Value

end Rinha
