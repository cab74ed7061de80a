import Rinha.Operation

/-!
# Rinha.Proofs.OperatorRules

What the binary operators mean, by rules that do not mention how they are carried out.  Two values
and an operator either have a result (`BinaryOp.Computes`) or are refused (`BinaryOp.Refuses`):

* `BinaryOp.apply_eq_ok_iff` — an operator gives a value if and only if the rules compute it;
* `BinaryOp.apply_eq_error_iff` — and an error if and only if the rules refuse the operands with it.

Kinds come first, those of the left operand before those of the right one, and the divisor last.
-/

namespace Rinha

/-! ## kinds of operands

A value of another kind than the one that is needed is refused, and nothing else is. -/

namespace Value

variable {value : Value} {context : Data} {cause : Cause}

theorem toBool_eq_error_iff : value.toBool context = .error cause ↔
    value.kind ≠ .text ValueKind.bool.name ∧ value.mismatch .bool context = cause := by
  cases value with
  | bool b => simp [toBool, kind]
  | foreign kind content => simp [toBool, Value.kind, kind.name_ne .bool]
  | _ => simp [toBool, kind, ValueKind.name]

theorem toInt_eq_error_iff : value.toInt context = .error cause ↔
    value.kind ≠ .text ValueKind.int.name ∧ value.mismatch .int context = cause := by
  cases value with
  | int n => simp [toInt, kind]
  | foreign kind content => simp [toInt, Value.kind, kind.name_ne .int]
  | _ => simp [toInt, kind, ValueKind.name]

theorem toText_eq_error_iff : value.toText context = .error cause ↔
    value.kind ≠ .text ValueKind.string.name ∧ value.mismatch .string context = cause := by
  cases value with
  | string s => simp [toText, kind]
  | foreign kind content => simp [toText, Value.kind, kind.name_ne .string]
  | _ => simp [toText, kind, ValueKind.name]

theorem toClosure_eq_error_iff : value.toClosure context = .error cause ↔
    value.kind ≠ .text ValueKind.closure.name ∧ value.mismatch .closure context = cause := by
  cases value with
  | closure parameters body env => simp [toClosure, kind]
  | foreign kind content => simp [toClosure, Value.kind, kind.name_ne .closure]
  | _ => simp [toClosure, kind, ValueKind.name]

end Value

/-! ## the rules -/

/-- Two values that can be compared, and whether they are the same. -/
inductive Value.Compares : Value → Value → Bool → Prop where
  | bool {a b : Bool} : Compares (.bool a) (.bool b) (a == b)
  | int {a b : Int} : Compares (.int a) (.int b) (a == b)
  | string {a b : String} : Compares (.string a) (.string b) (a == b)

namespace BinaryOp

/-- The kind of value that an operator needs on both sides.  Equality needs none in particular. -/
def operand? : BinaryOp → Option ValueKind
  | concat => some .string
  | and | or => some .bool
  | eq | neq => none
  | add | sub | mul | div | rem | lt | gt | lte | gte => some .int

/-- An operator computes a value from two values. -/
inductive Computes : BinaryOp → Value → Value → Value → Prop where
  | concat {a b : String} : Computes .concat (.string a) (.string b) (.string (a ++ b))
  | add {a b : Int} : Computes .add (.int a) (.int b) (.int (a + b))
  | sub {a b : Int} : Computes .sub (.int a) (.int b) (.int (a - b))
  | mul {a b : Int} : Computes .mul (.int a) (.int b) (.int (a * b))
  | div {a b : Int} : b ≠ 0 → Computes .div (.int a) (.int b) (.int (a.tdiv b))
  | rem {a b : Int} : b ≠ 0 → Computes .rem (.int a) (.int b) (.int (a.tmod b))
  | lt {a b : Int} : Computes .lt (.int a) (.int b) (.bool (decide (a < b)))
  | gt {a b : Int} : Computes .gt (.int a) (.int b) (.bool (decide (b < a)))
  | lte {a b : Int} : Computes .lte (.int a) (.int b) (.bool (decide (a ≤ b)))
  | gte {a b : Int} : Computes .gte (.int a) (.int b) (.bool (decide (b ≤ a)))
  | and {a b : Bool} : Computes .and (.bool a) (.bool b) (.bool (a && b))
  | or {a b : Bool} : Computes .or (.bool a) (.bool b) (.bool (a || b))
  | eq {lhs rhs : Value} {same : Bool} :
    lhs.Compares rhs same → Computes .eq lhs rhs (.bool same)
  | neq {lhs rhs : Value} {same : Bool} :
    lhs.Compares rhs same → Computes .neq lhs rhs (.bool !same)

/-- One of two operands is not of the kind that an operator needs, the left one if both are not. -/
inductive Mismatches (op : BinaryOp) (kind : ValueKind) : Value → Value → Cause → Prop where
  | left {lhs rhs : Value} :
    lhs.kind ≠ .text kind.name →
      Mismatches op kind lhs rhs
        (.typeMismatch (.text kind.name) lhs.kind (.text ("left operand of " ++ op.name)))
  | right {lhs rhs : Value} :
    lhs.kind = .text kind.name → rhs.kind ≠ .text kind.name →
      Mismatches op kind lhs rhs
        (.typeMismatch (.text kind.name) rhs.kind (.text ("right operand of " ++ op.name)))

/-- An operator refuses two values. -/
inductive Refuses (op : BinaryOp) : Value → Value → Cause → Prop where
  | mismatch {kind : ValueKind} {lhs rhs : Value} {cause : Cause} :
    op.operand? = some kind → op.Mismatches kind lhs rhs cause → Refuses op lhs rhs cause
  | zero {a : Int} :
    op = .div ∨ op = .rem → Refuses op (.int a) (.int 0) (.divisionByZero (.text op.name))
  | incomparable {lhs rhs : Value} :
    op.operand? = none → (∀ same, ¬ lhs.Compares rhs same) →
      Refuses op lhs rhs (.unsupportedOperation (.scalar lhs.kind) (.scalar rhs.kind))

/-- Where neither the divisor nor equality comes in, only kinds are refused. -/
theorem refuses_iff_mismatches {op : BinaryOp} {kind : ValueKind} {lhs rhs : Value}
    {cause : Cause} (hkind : op.operand? = some kind) (hop : ¬ (op = .div ∨ op = .rem)) :
    op.Refuses lhs rhs cause ↔ op.Mismatches kind lhs rhs cause := by
  constructor
  · intro h
    cases h with
    | mismatch hkind' h =>
      rw [hkind, Option.some.injEq] at hkind'
      exact hkind' ▸ h
    | zero hop' => exact absurd hop' hop
    | incomparable hnone => simp [hkind] at hnone
  · exact .mismatch hkind

end BinaryOp

/-! ## operations by the rules -/

namespace Operation

section lift

variable {α : Type} {take : Value → Data → Except Cause α} {lhs rhs : Value} {cause : Cause}

theorem lift_run_eq_ok_iff {β : Type} {f : α → α → β} {name : String} {result : β} :
    (lift take f name).run lhs rhs = .ok result ↔
      ∃ a b, take lhs (.text (Side.left.operandOf name)) = .ok a ∧
        take rhs (.text (Side.right.operandOf name)) = .ok b ∧ f a b = result := by
  simp only [lift, bind, Except.bind, pure, Except.pure]
  cases take lhs (.text (Side.left.operandOf name)) with
  | error cause => simp
  | ok a => cases take rhs (.text (Side.right.operandOf name)) <;> simp

theorem lift_toInt_eq_ok_iff {β : Type} {f : Int → Int → β} {name : String} {result : β} :
    (lift Value.toInt f name).run lhs rhs = .ok result ↔
      ∃ a b, lhs = .int a ∧ rhs = .int b ∧ f a b = result := by
  simp only [lift_run_eq_ok_iff, Value.toInt_eq_ok_iff]

theorem lift_toBool_eq_ok_iff {β : Type} {f : Bool → Bool → β} {name : String} {result : β} :
    (lift Value.toBool f name).run lhs rhs = .ok result ↔
      ∃ a b, lhs = .bool a ∧ rhs = .bool b ∧ f a b = result := by
  simp only [lift_run_eq_ok_iff, Value.toBool_eq_ok_iff]

theorem lift_toText_eq_ok_iff {β : Type} {f : String → String → β} {name : String} {result : β} :
    (lift Value.toText f name).run lhs rhs = .ok result ↔
      ∃ a b, lhs = .string a ∧ rhs = .string b ∧ f a b = result := by
  simp only [lift_run_eq_ok_iff, Value.toText_eq_ok_iff]

variable {kind : ValueKind} {op : BinaryOp}

/-- Taking out both payloads fails just where a kind does not match. -/
theorem lift_run_eq_error_iff {β : Type} {f : α → α → β}
    (htake : ∀ {value context cause}, take value context = .error cause ↔
      value.kind ≠ .text kind.name ∧ value.mismatch kind context = cause) :
    (lift take f op.name).run lhs rhs = .error cause ↔ op.Mismatches kind lhs rhs cause := by
  have hkind {value : Value} {context : Data} {a : α} (h : take value context = .ok a) :
      value.kind = .text kind.name := Decidable.byContradiction fun hne => by
    rw [htake.mpr ⟨hne, rfl⟩] at h
    cases h
  simp only [lift, bind, Except.bind, pure, Except.pure]
  constructor
  · intro h
    cases hl : take lhs (.text (Side.left.operandOf op.name)) with
    | error refused =>
      simp only [hl] at h
      cases h
      obtain ⟨hne, rfl⟩ := htake.mp hl
      exact .left hne
    | ok a =>
      cases hr : take rhs (.text (Side.right.operandOf op.name)) with
      | error refused =>
        simp only [hl, hr] at h
        cases h
        obtain ⟨hne, rfl⟩ := htake.mp hr
        exact .right (hkind hl) hne
      | ok b => simp [hl, hr] at h
  · intro h
    cases h with
    | left hne =>
      rw [htake.mpr ⟨hne, rfl⟩]
      rfl
    | right heq hne =>
      cases hl : take lhs (.text (Side.left.operandOf op.name)) with
      | error refused => exact absurd heq (htake.mp hl).1
      | ok a =>
        dsimp only
        rw [htake.mpr ⟨hne, rfl⟩]
        rfl

end lift

variable {op : BinaryOp} {lhs rhs : Value} {cause : Cause} {part : Int → Int → Int}

/-- Two ints are divided unless the right one is 0. -/
theorem divide_int (a b : Int) : divide part op (.int a) (.int b)
    = if b = 0 then .error (.divisionByZero (.text op.name)) else .ok (.int (part a b)) := by
  simp only [divide, Value.toInt, bind, Except.bind]
  split <;> rfl

/-- Other operands are refused as by any operation on ints. -/
theorem divide_of_lift_error (h : (lift Value.toInt Prod.mk op.name).run lhs rhs = .error cause) :
    divide part op lhs rhs = .error cause := by
  simp only [lift, bind, Except.bind, pure, Except.pure] at h
  simp only [divide, bind, Except.bind]
  cases hl : lhs.toInt (.text (Side.left.operandOf op.name)) with
  | error refused =>
    rw [hl] at h
    exact congrArg Except.error (Except.error.inj h)
  | ok a =>
    cases hr : rhs.toInt (.text (Side.right.operandOf op.name)) with
    | error refused =>
      rw [hl, hr] at h
      exact congrArg Except.error (Except.error.inj h)
    | ok b =>
      rw [hl, hr] at h
      cases h

theorem divide_eq_ok_iff {result : Value} : divide part op lhs rhs = .ok result ↔
    ∃ a b, lhs = .int a ∧ rhs = .int b ∧ b ≠ 0 ∧ .int (part a b) = result := by
  constructor
  · intro h
    cases hrun : (lift Value.toInt Prod.mk op.name).run lhs rhs with
    | error cause => rw [divide_of_lift_error hrun] at h; cases h
    | ok operands =>
      obtain ⟨a, b, rfl, rfl, -⟩ := lift_toInt_eq_ok_iff.mp hrun
      rw [divide_int] at h
      split at h
      · cases h
      · next hb => exact ⟨a, b, rfl, rfl, hb, Except.ok.inj h⟩
  · rintro ⟨a, b, rfl, rfl, hb, rfl⟩
    rw [divide_int, if_neg hb]

theorem divide_eq_error_iff : divide part op lhs rhs = .error cause ↔
    op.Mismatches .int lhs rhs cause ∨
      ∃ a, lhs = .int a ∧ rhs = .int 0 ∧ .divisionByZero (.text op.name) = cause := by
  rw [← lift_run_eq_error_iff (f := Prod.mk) Value.toInt_eq_error_iff]
  constructor
  · intro h
    cases hrun : (lift Value.toInt Prod.mk op.name).run lhs rhs with
    | error refused =>
      rw [divide_of_lift_error hrun] at h
      cases h
      exact .inl rfl
    | ok operands =>
      obtain ⟨a, b, rfl, rfl, -⟩ := lift_toInt_eq_ok_iff.mp hrun
      rw [divide_int] at h
      split at h
      · next hb => exact .inr ⟨a, rfl, congrArg _ hb, Except.error.inj h⟩
      · cases h
  · rintro (h | ⟨a, rfl, rfl, rfl⟩)
    · exact divide_of_lift_error h
    · rw [divide_int, if_pos rfl]

end Operation

/-! ## equality -/

theorem Value.equal_eq_ok_iff {lhs rhs : Value} {same : Bool} :
    lhs.equal rhs = .ok same ↔ lhs.Compares rhs same := by
  constructor
  · intro h
    unfold equal at h
    split at h
    · cases h; exact .bool
    · cases h; exact .int
    · cases h; exact .string
    · cases h
  · intro h
    cases h <;> rfl

theorem Value.equal_eq_error_iff {lhs rhs : Value} {cause : Cause} :
    lhs.equal rhs = .error cause ↔ (∀ same, ¬ lhs.Compares rhs same) ∧
      .unsupportedOperation (.scalar lhs.kind) (.scalar rhs.kind) = cause := by
  have hcause {cause : Cause} (h : lhs.equal rhs = .error cause) :
      .unsupportedOperation (.scalar lhs.kind) (.scalar rhs.kind) = cause := by
    unfold equal at h
    split at h <;> cases h
    rfl
  constructor
  · intro h
    refine ⟨fun same hsame => ?_, hcause h⟩
    rw [equal_eq_ok_iff.mpr hsame] at h
    cases h
  · rintro ⟨hne, rfl⟩
    cases h : lhs.equal rhs with
    | ok same => exact absurd (equal_eq_ok_iff.mp h) (hne same)
    | error cause => rw [hcause h]

/-! ## the fourteen operators -/

namespace BinaryOp

variable {op : BinaryOp} {lhs rhs : Value}

theorem apply_eq_ok_of_computes {result : Value} (h : op.Computes lhs rhs result) :
    op.apply lhs rhs = .ok result := by
  cases h with
  | div hne =>
    exact Operation.divide_eq_ok_iff.mpr
      ⟨_, _, rfl, rfl, hne, congrArg _ (Division.quotient_eq_tdiv _ _)⟩
  | rem hne =>
    exact Operation.divide_eq_ok_iff.mpr
      ⟨_, _, rfl, rfl, hne, congrArg _ (Division.remainder_eq_tmod _ _)⟩
  | eq h => rw [apply, Value.equal_eq_ok_iff.mpr h]; rfl
  | neq h => rw [apply, Value.equal_eq_ok_iff.mpr h]; rfl
  | _ => rfl

theorem computes_of_apply_eq_ok {result : Value} (h : op.apply lhs rhs = .ok result) :
    op.Computes lhs rhs result := by
  cases op with
  | concat =>
    obtain ⟨a, b, rfl, rfl, rfl⟩ := Operation.lift_toText_eq_ok_iff.mp h
    exact .concat
  | add =>
    obtain ⟨a, b, rfl, rfl, rfl⟩ := Operation.lift_toInt_eq_ok_iff.mp h
    exact .add
  | sub =>
    obtain ⟨a, b, rfl, rfl, rfl⟩ := Operation.lift_toInt_eq_ok_iff.mp h
    exact .sub
  | mul =>
    obtain ⟨a, b, rfl, rfl, rfl⟩ := Operation.lift_toInt_eq_ok_iff.mp h
    exact .mul
  | div =>
    obtain ⟨a, b, rfl, rfl, hb, rfl⟩ := Operation.divide_eq_ok_iff.mp h
    rw [Division.quotient_eq_tdiv]
    exact .div hb
  | rem =>
    obtain ⟨a, b, rfl, rfl, hb, rfl⟩ := Operation.divide_eq_ok_iff.mp h
    rw [Division.remainder_eq_tmod]
    exact .rem hb
  | eq =>
    cases hequal : lhs.equal rhs with
    | error cause => rw [apply, hequal] at h; cases h
    | ok same =>
      rw [apply, hequal] at h
      cases h
      exact .eq (Value.equal_eq_ok_iff.mp hequal)
  | neq =>
    cases hequal : lhs.equal rhs with
    | error cause => rw [apply, hequal] at h; cases h
    | ok same =>
      rw [apply, hequal] at h
      cases h
      exact .neq (Value.equal_eq_ok_iff.mp hequal)
  | lt =>
    obtain ⟨a, b, rfl, rfl, rfl⟩ := Operation.lift_toInt_eq_ok_iff.mp h
    exact .lt
  | gt =>
    obtain ⟨a, b, rfl, rfl, rfl⟩ := Operation.lift_toInt_eq_ok_iff.mp h
    exact .gt
  | lte =>
    obtain ⟨a, b, rfl, rfl, rfl⟩ := Operation.lift_toInt_eq_ok_iff.mp h
    exact .lte
  | gte =>
    obtain ⟨a, b, rfl, rfl, rfl⟩ := Operation.lift_toInt_eq_ok_iff.mp h
    exact .gte
  | and =>
    obtain ⟨a, b, rfl, rfl, rfl⟩ := Operation.lift_toBool_eq_ok_iff.mp h
    exact .and
  | or =>
    obtain ⟨a, b, rfl, rfl, rfl⟩ := Operation.lift_toBool_eq_ok_iff.mp h
    exact .or

/-- An operator gives a value if and only if the rules compute it. -/
theorem apply_eq_ok_iff {result : Value} :
    op.apply lhs rhs = .ok result ↔ op.Computes lhs rhs result :=
  ⟨computes_of_apply_eq_ok, apply_eq_ok_of_computes⟩

/-- A division is refused if and only if the rules refuse it, whichever part it asks for. -/
theorem divide_eq_error_iff {part : Int → Int → Int} {cause : Cause} (hop : op = .div ∨ op = .rem) :
    Operation.divide part op lhs rhs = .error cause ↔ op.Refuses lhs rhs cause := by
  have hkind : op.operand? = some .int := by
    cases hop with
    | inl hdiv => rw [hdiv]; rfl
    | inr hrem => rw [hrem]; rfl
  rw [Operation.divide_eq_error_iff]
  constructor
  · rintro (h | ⟨a, rfl, rfl, rfl⟩)
    · exact .mismatch hkind h
    · exact .zero hop
  · intro h
    cases h with
    | mismatch hkind' h =>
      rw [hkind, Option.some.injEq] at hkind'
      exact .inl (hkind' ▸ h)
    | zero _ => exact .inr ⟨_, rfl, rfl, rfl⟩
    | incomparable hnone => rw [hkind] at hnone; cases hnone

/-- Equality is refused if and only if the rules refuse it. -/
theorem equal_eq_error_iff {f : Bool → Value} {cause : Cause} (hop : op.operand? = none)
    (hdiv : ¬ (op = .div ∨ op = .rem)) :
    f <$> lhs.equal rhs = .error cause ↔ op.Refuses lhs rhs cause := by
  have hmap : f <$> lhs.equal rhs = .error cause ↔ lhs.equal rhs = .error cause := by
    cases lhs.equal rhs <;> simp [Functor.map, Except.map]
  rw [hmap, Value.equal_eq_error_iff]
  constructor
  · rintro ⟨hne, rfl⟩
    exact .incomparable hop hne
  · intro h
    cases h with
    | mismatch hkind _ => rw [hop] at hkind; cases hkind
    | zero hop' => exact absurd hop' hdiv
    | incomparable _ hne => exact ⟨hne, rfl⟩

/-- An operator gives an error if and only if the rules refuse the operands with it. -/
theorem apply_eq_error_iff {cause : Cause} :
    op.apply lhs rhs = .error cause ↔ op.Refuses lhs rhs cause := by
  cases op with
  | concat =>
    rw [refuses_iff_mismatches rfl (by decide)]
    exact Operation.lift_run_eq_error_iff Value.toText_eq_error_iff
  | and | or =>
    rw [refuses_iff_mismatches rfl (by decide)]
    exact Operation.lift_run_eq_error_iff Value.toBool_eq_error_iff
  | add | sub | mul | lt | gt | lte | gte =>
    rw [refuses_iff_mismatches rfl (by decide)]
    exact Operation.lift_run_eq_error_iff Value.toInt_eq_error_iff
  | div => exact divide_eq_error_iff (.inl rfl)
  | rem => exact divide_eq_error_iff (.inr rfl)
  | eq | neq => exact equal_eq_error_iff rfl (by decide)

end BinaryOp

end Rinha
