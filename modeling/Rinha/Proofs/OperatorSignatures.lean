import Rinha.Proofs.OperatorRules
import Rinha.Term.Build
import Mathlib.Data.List.Basic

/-!
# Rinha.Proofs.OperatorSignatures

The fourteen operators by one table of signatures and one order of checks.  Equality and its
negation apart, an operator has operands of one kind (`BinaryOp.operand?`) and results of one kind
(`BinaryOp.resultKind`), and it answers two values by the first line that fits
(`BinaryOp.HasSignature`):

1. the left operand is of another kind;
2. the right operand is of another kind;
3. it divides by zero;
4. otherwise there is a value.

Equality answers two values of one and the same kind, which has to be bool, int or string, and
refuses all others (`BinaryOp.HasEquality`).

An operator is looked up when a binary term is evaluated and also when one is built, each time in a
table of its own; `BinaryOp.named_and_signed` says that both accept the same names.
-/

namespace Rinha

/-! ## values that can be compared -/

/-- The kinds of value that have an equality. -/
def ValueKind.comparable : List Scalar :=
  [.text "bool", .text "int", .text "string"]

/-- Two values of one kind that has an equality can be compared. -/
theorem Value.compares_of_kind {lhs rhs : Value} (hsame : lhs.kind = rhs.kind)
    (hkind : lhs.kind ∈ ValueKind.comparable) : ∃ same, lhs.Compares rhs same := by
  have hforeign (kind : ForeignKind) (known : ValueKind) : .text known.name ≠ kind.name :=
    (kind.name_ne known).symm
  cases lhs with
  | bool a =>
    cases rhs with
    | bool b => exact ⟨_, .bool⟩
    | foreign kind _ => exact absurd hsame (hforeign kind .bool)
    | _ => simp [kind, ValueKind.name] at hsame
  | int a =>
    cases rhs with
    | int b => exact ⟨_, .int⟩
    | foreign kind _ => exact absurd hsame (hforeign kind .int)
    | _ => simp [kind, ValueKind.name] at hsame
  | string a =>
    cases rhs with
    | string b => exact ⟨_, .string⟩
    | foreign kind _ => exact absurd hsame (hforeign kind .string)
    | _ => simp [kind, ValueKind.name] at hsame
  | closure parameters body env => simp [kind, ValueKind.name, ValueKind.comparable] at hkind
  | foreign kind content =>
    simp only [ValueKind.comparable, List.mem_cons, List.not_mem_nil, or_false] at hkind
    obtain hkind | hkind | hkind := hkind
    · exact absurd hkind (kind.name_ne .bool)
    · exact absurd hkind (kind.name_ne .int)
    · exact absurd hkind (kind.name_ne .string)

namespace Value.Compares

variable {lhs rhs : Value} {same : Bool}

theorem kind_eq (h : lhs.Compares rhs same) : lhs.kind = rhs.kind := by
  cases h <;> rfl

theorem kind_mem (h : lhs.Compares rhs same) : lhs.kind ∈ ValueKind.comparable := by
  cases h <;> simp [kind, ValueKind.name, ValueKind.comparable]

/-- They are the same if and only if they hold the same. -/
theorem same_iff (h : lhs.Compares rhs same) : same = true ↔ lhs = rhs := by
  cases h <;> simp

end Value.Compares

/-! ## signatures -/

namespace BinaryOp

/-- The kind of value that an operator gives. -/
def resultKind : BinaryOp → ValueKind
  | concat => .string
  | add | sub | mul | div | rem => .int
  | eq | neq | lt | gt | lte | gte | and | or => .bool

theorem Computes.kind_eq {op : BinaryOp} {lhs rhs result : Value}
    (h : op.Computes lhs rhs result) : result.kind = .text op.resultKind.name := by
  cases h <;> rfl

/-- An operator divides by zero. -/
def DividesByZero (op : BinaryOp) (divisor : Value) : Prop :=
  (op = div ∨ op = rem) ∧ divisor = .int 0

/-- An operator answers two values by the kind of its operands and the kind of its results: the
first of the checks that fails decides, and if none does there is a value. -/
structure HasSignature (op : BinaryOp) (operand result : ValueKind) : Prop where
  left {lhs rhs : Value} : lhs.kind ≠ .text operand.name →
    op.apply lhs rhs = .error
      (.typeMismatch (.text operand.name) lhs.kind (.text ("left operand of " ++ op.name)))
  right {lhs rhs : Value} : lhs.kind = .text operand.name → rhs.kind ≠ .text operand.name →
    op.apply lhs rhs = .error
      (.typeMismatch (.text operand.name) rhs.kind (.text ("right operand of " ++ op.name)))
  zero {lhs rhs : Value} : lhs.kind = .text operand.name → rhs.kind = .text operand.name →
    op.DividesByZero rhs → op.apply lhs rhs = .error (.divisionByZero (.text op.name))
  value {lhs rhs : Value} : lhs.kind = .text operand.name → rhs.kind = .text operand.name →
    ¬ op.DividesByZero rhs → ∃ value, op.apply lhs rhs = .ok value ∧
      value.kind = .text result.name ∧ op.Computes lhs rhs value

/-- An operator answers whether two values hold the same, if they are of one kind that has an
equality, and refuses all others. -/
structure HasEquality (op : BinaryOp) (answer : Bool → Bool) : Prop where
  refused {lhs rhs : Value} :
    op.apply lhs rhs = .error (.unsupportedOperation (.scalar lhs.kind) (.scalar rhs.kind)) ↔
      lhs.kind ≠ rhs.kind ∨ lhs.kind ∉ ValueKind.comparable
  value {lhs rhs : Value} : lhs.kind = rhs.kind → lhs.kind ∈ ValueKind.comparable →
    ∃ same, op.apply lhs rhs = .ok (.bool (answer same)) ∧ (same = true ↔ lhs = rhs)

theorem hasSignature {op : BinaryOp} {operand : ValueKind} (hoperand : op.operand? = some operand) :
    op.HasSignature operand op.resultKind where
  left hleft := apply_eq_error_iff.mpr (.mismatch hoperand (.left hleft))
  right hleft hright := apply_eq_error_iff.mpr (.mismatch hoperand (.right hleft hright))
  zero := by
    rintro lhs _ hleft - ⟨hop, rfl⟩
    have hint : operand = .int := by
      obtain rfl | rfl := hop <;> cases hoperand <;> rfl
    rw [hint] at hleft
    obtain ⟨n, rfl⟩ : ∃ n, lhs = .int n := by
      cases lhs with
      | int n => exact ⟨n, rfl⟩
      | foreign kind content => exact absurd hleft (kind.name_ne .int)
      | _ => simp [Value.kind, ValueKind.name] at hleft
    exact apply_eq_error_iff.mpr (.zero hop)
  value := by
    intro lhs rhs hleft hright hzero
    cases happly : op.apply lhs rhs with
    | ok value =>
      have hcomputes := apply_eq_ok_iff.mp happly
      exact ⟨value, rfl, hcomputes.kind_eq, hcomputes⟩
    | error cause =>
      cases apply_eq_error_iff.mp happly with
      | mismatch hkind hmismatch =>
        rw [hoperand, Option.some.injEq] at hkind
        subst hkind
        cases hmismatch with
        | left hne => exact absurd hleft hne
        | right _ hne => exact absurd hright hne
      | zero hop => exact absurd ⟨hop, rfl⟩ hzero
      | incomparable hnone => rw [hoperand] at hnone; cases hnone

/-- Where two values cannot be compared, an operator without an operand kind refuses them, and
nowhere else. -/
theorem refused_iff {op : BinaryOp} (hoperand : op.operand? = none) {lhs rhs : Value} :
    op.apply lhs rhs = .error (.unsupportedOperation (.scalar lhs.kind) (.scalar rhs.kind)) ↔
      lhs.kind ≠ rhs.kind ∨ lhs.kind ∉ ValueKind.comparable := by
  rw [apply_eq_error_iff]
  constructor
  · intro h
    by_contra hcomparable
    rw [not_or, not_not, not_not] at hcomparable
    obtain ⟨same, hsame⟩ := Value.compares_of_kind hcomparable.1 hcomparable.2
    cases h with
    | mismatch hkind _ => rw [hoperand] at hkind; cases hkind
    | incomparable _ hne => exact hne same hsame
  · intro hkinds
    refine .incomparable hoperand fun same hsame => ?_
    obtain hne | hmem := hkinds
    · exact hne hsame.kind_eq
    · exact hmem hsame.kind_mem

theorem hasEquality_eq : eq.HasEquality fun same => same where
  refused := refused_iff rfl
  value hsame hkind := by
    obtain ⟨same, hcompares⟩ := Value.compares_of_kind hsame hkind
    exact ⟨same, apply_eq_ok_iff.mpr (.eq hcompares), hcompares.same_iff⟩

theorem hasEquality_neq : neq.HasEquality fun same => !same where
  refused := refused_iff rfl
  value hsame hkind := by
    obtain ⟨same, hcompares⟩ := Value.compares_of_kind hsame hkind
    exact ⟨same, apply_eq_ok_iff.mpr (.neq hcompares), hcompares.same_iff⟩

/-! ## names -/

theorem named_of_notMem {name : String} (h : name ∉ Build.operatorNames) :
    named name = .error (.unknownOperator name) := by
  have hnone : ofName? name = none := by
    cases hname : ofName? name with
    | none => rfl
    | some op => exact absurd (Build.mem_operatorNames_iff.mpr ⟨op, ofName?_eq_some_iff.mp hname⟩) h
  rw [named, hnone]

/-- Names and signatures of the operators.

* A name is looked up and built with if it is the name of an operator, and refused by both with the
  same fault if it is not.
* Strings are concatenated, bools combined, and ints computed with and put in order, each by the
  signature of the operator; the two that are left are equality and its negation. -/
theorem named_and_signed (name : String) :
    (∀ lhs rhs place,
      (∃ op : BinaryOp, op.name = name ∧ named name = .ok op ∧
        Build.binary (.text name) lhs rhs place = .ok (Build.term .binary
          [("lhs", lhs), ("op", .text name), ("rhs", rhs)] place)) ∨
      (∀ op : BinaryOp, op.name ≠ name) ∧ named name = .error (.unknownOperator name) ∧
        Build.binary (.text name) lhs rhs place = .error (.unknownOperator name)) ∧
    ∀ op, named name = .ok op → op.name = name ∧
      (op = concat → op.HasSignature .string .string) ∧
      (op ∈ [and, or] → op.HasSignature .bool .bool) ∧
      (op ∈ [add, sub, mul, div, rem] → op.HasSignature .int .int) ∧
      (op ∈ [lt, gt, lte, gte] → op.HasSignature .int .bool) ∧
      (op = eq → op.HasEquality fun same => same) ∧
      (op = neq → op.HasEquality fun same => !same) := by
  refine ⟨fun lhs rhs place => ?_, fun op hnamed => ?_⟩
  · by_cases hmem : name ∈ Build.operatorNames
    · obtain ⟨op, rfl⟩ := Build.mem_operatorNames_iff.mp hmem
      exact .inl ⟨op, rfl, named_name op, Build.binary_name op lhs rhs place⟩
    · refine .inr ⟨fun op hop => ?_, named_of_notMem hmem, Build.binary_of_notMem hmem lhs rhs place⟩
      exact hmem (Build.mem_operatorNames_iff.mpr ⟨op, hop⟩)
  · have hname : op.name = name := by
      by_cases hmem : name ∈ Build.operatorNames
      · obtain ⟨other, rfl⟩ := Build.mem_operatorNames_iff.mp hmem
        rw [named_name] at hnamed
        cases hnamed
        rfl
      · rw [named_of_notMem hmem] at hnamed
        cases hnamed
    refine ⟨hname, ?_, ?_, ?_, ?_, ?_, ?_⟩
    · rintro rfl
      exact hasSignature rfl
    · intro hmem
      obtain rfl | rfl := List.mem_pair.mp hmem <;> exact hasSignature rfl
    · intro hmem
      simp only [List.mem_cons, List.not_mem_nil, or_false] at hmem
      obtain rfl | rfl | rfl | rfl | rfl := hmem <;> exact hasSignature rfl
    · intro hmem
      simp only [List.mem_cons, List.not_mem_nil, or_false] at hmem
      obtain rfl | rfl | rfl | rfl := hmem <;> exact hasSignature rfl
    · rintro rfl
      exact hasEquality_eq
    · rintro rfl
      exact hasEquality_neq

/-- Division and equality on values of several kinds: the kind of a right operand comes before the
zero on that side, and a bool is not compared with an int. -/
theorem named_and_signed_divisionEquality :
    named "Div" = .ok div ∧ named "Eq" = .ok eq ∧
      Build.binary (.text "Minus") .null .null none = .error (.unknownOperator "Minus") ∧
      div.apply (.bool true) (.int 0)
        = .error (.typeMismatch (.text "int") (.text "bool") (.text "left operand of Div")) ∧
      div.apply (.int 7) (.string "0")
        = .error (.typeMismatch (.text "int") (.text "string") (.text "right operand of Div")) ∧
      div.apply (.int 7) (.int 0) = .error (.divisionByZero (.text "Div")) ∧
      div.apply (.int (-7)) (.int 2) = .ok (.int (-3)) ∧
      eq.apply (.bool true) (.int 1)
        = .error (.unsupportedOperation (.scalar (.text "bool")) (.scalar (.text "int"))) ∧
      eq.apply (.string "a") (.string "a") = .ok (.bool true) := by
  have hdiv : named "Div" = .ok div := named_name div
  have heq : named "Eq" = .ok eq := named_name eq
  obtain ⟨-, -, -, hints, -⟩ := (named_and_signed "Div").2 div hdiv
  obtain ⟨-, -, -, -, -, hequality, -⟩ := (named_and_signed "Eq").2 eq heq
  have hsigned := hints (by decide)
  have hdivides (n : Int) (hne : n ≠ 0) : ¬ div.DividesByZero (.int n) := fun h => by
    cases h.2
    exact hne rfl
  obtain ⟨quotient, hquotient, -, hcomputes⟩ :=
    hsigned.value (show (Value.int (-7)).kind = _ from rfl) rfl (hdivides 2 (by decide))
  cases hcomputes
  obtain ⟨same, hsame, hiff⟩ :=
    (hequality rfl).value (show (Value.string "a").kind = _ from rfl) (by decide)
  rw [hiff.mpr rfl] at hsame
  refine ⟨hdiv, heq, ?_, hsigned.left (by decide), hsigned.right rfl (by decide),
    hsigned.zero rfl rfl ⟨.inl rfl, rfl⟩, hquotient, (hequality rfl).refused.mpr (.inl (by decide)),
    hsame⟩
  obtain ⟨op, hop, -⟩ | ⟨-, -, hbuild⟩ := (named_and_signed "Minus").1 .null .null none
  · exact absurd hop (by cases op <;> decide)
  · exact hbuild

end BinaryOp

end Rinha
