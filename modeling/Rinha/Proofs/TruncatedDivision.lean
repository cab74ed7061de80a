import Rinha.Proofs.OperatorRules
import Mathlib.Data.List.Basic

/-!
# Rinha.Proofs.TruncatedDivision

What division toward zero is.  A quotient and a remainder take a dividend apart
(`Division.Splits`),

```
dividend = quotient * divisor + remainder
```

with a remainder that is less than the divisor and on the side of the dividend.  There is one such
pair for every divisor but 0 (`Division.splits_of_ne_zero`, `Division.Splits.unique`), and it is
what the two operators give (`BinaryOp.gives_iff_splits`).  Changing the sign of the dividend or of
the divisor gives a split again, so how the signs of the results change follows from there being
only one (`BinaryOp.quotient_remainder_unique`).
-/

namespace Rinha

namespace Division

/-- A dividend taken apart by a divisor, toward zero: the remainder is less than the divisor, and if
there is one it has the sign of the dividend. -/
structure Splits (dividend divisor quotient remainder : Int) : Prop where
  dividend_eq : dividend = quotient * divisor + remainder
  remainder_lt : remainder.natAbs < divisor.natAbs
  remainder_sign : remainder = 0 ∨ remainder.sign = dividend.sign

/-- Every divisor but 0 takes every dividend apart. -/
theorem splits_of_ne_zero (dividend : Int) {divisor : Int} (h : divisor ≠ 0) :
    Splits dividend divisor (dividend.tdiv divisor) (dividend.tmod divisor) := by
  refine ⟨(Int.tdiv_mul_add_tmod dividend divisor).symm, ?_, ?_⟩
  · rw [Int.natAbs_tmod]
    exact Nat.mod_lt _ (Int.natAbs_pos.mpr h)
  · have hsign := Int.sign_tmod dividend divisor
    by_cases hdvd : divisor ∣ dividend
    · rw [if_pos hdvd] at hsign
      exact .inl (Int.sign_eq_zero_iff_zero.mp hsign)
    · rw [if_neg hdvd] at hsign
      exact .inr hsign

namespace Splits

variable {dividend divisor quotient remainder quotient' remainder' : Int}

theorem divisor_ne_zero (h : Splits dividend divisor quotient remainder) : divisor ≠ 0 := by
  have hlt := h.remainder_lt
  omega

/-- The remainder is on the side of the dividend. -/
theorem remainder_side (h : Splits dividend divisor quotient remainder) :
    (0 ≤ dividend → 0 ≤ remainder) ∧ (dividend ≤ 0 → remainder ≤ 0) := by
  obtain hzero | hsign := h.remainder_sign
  · omega
  · constructor
    · intro hdividend
      rw [← Int.sign_nonneg_iff, hsign, Int.sign_nonneg_iff]
      exact hdividend
    · intro hdividend
      rw [← Int.sign_nonpos_iff, hsign, Int.sign_nonpos_iff]
      exact hdividend

/-- There is one way to take a dividend apart. -/
theorem unique (h : Splits dividend divisor quotient remainder)
    (h' : Splits dividend divisor quotient' remainder') :
    quotient' = quotient ∧ remainder' = remainder := by
  have hdiff : (quotient' - quotient) * divisor = remainder - remainder' := by
    have heq := h.dividend_eq
    have heq' := h'.dividend_eq
    rw [Int.sub_mul]
    omega
  -- Both remainders are on one side of zero, so they are less than a divisor apart.
  have hnear : (remainder - remainder').natAbs < divisor.natAbs := by
    have hside := h.remainder_side
    have hside' := h'.remainder_side
    have hlt := h.remainder_lt
    have hlt' := h'.remainder_lt
    omega
  have hquotient : quotient' - quotient = 0 := by
    by_contra hne
    have hfar : divisor.natAbs ≤ ((quotient' - quotient) * divisor).natAbs := by
      rw [Int.natAbs_mul]
      exact Nat.le_mul_of_pos_left _ (Int.natAbs_pos.mpr hne)
    rw [hdiff] at hfar
    omega
  rw [hquotient, Int.zero_mul] at hdiff
  omega

theorem neg_dividend (h : Splits dividend divisor quotient remainder) :
    Splits (-dividend) divisor (-quotient) (-remainder) := by
  refine ⟨?_, ?_, h.remainder_sign.imp (fun hzero => ?_) fun hsign => ?_⟩
  · rw [h.dividend_eq, Int.neg_add, Int.neg_mul]
  · rw [Int.natAbs_neg]
    exact h.remainder_lt
  · rw [hzero, Int.neg_zero]
  · rw [Int.sign_neg, Int.sign_neg, hsign]

theorem neg_divisor (h : Splits dividend divisor quotient remainder) :
    Splits dividend (-divisor) (-quotient) remainder := by
  refine ⟨?_, ?_, h.remainder_sign⟩
  · rw [Int.neg_mul_neg]
    exact h.dividend_eq
  · rw [Int.natAbs_neg]
    exact h.remainder_lt

end Splits

end Division

/-! ## the operators -/

namespace BinaryOp

open Division (Splits)

/-- The two operators give a quotient and a remainder if and only if these take the dividend
apart. -/
theorem gives_iff_splits {dividend divisor quotient remainder : Int} :
    (div.apply (.int dividend) (.int divisor) = .ok (.int quotient) ∧
      rem.apply (.int dividend) (.int divisor) = .ok (.int remainder)) ↔
      Splits dividend divisor quotient remainder := by
  rw [apply_eq_ok_iff, apply_eq_ok_iff]
  constructor
  · rintro ⟨hdiv, hrem⟩
    cases hdiv with
    | div hne =>
      cases hrem with
      | rem _ => exact Division.splits_of_ne_zero _ hne
  · intro h
    obtain ⟨rfl, rfl⟩ := (Division.splits_of_ne_zero dividend h.divisor_ne_zero).unique h
    exact ⟨.div h.divisor_ne_zero, .rem h.divisor_ne_zero⟩

/-- Division is by zero just where both operands are ints and the right one is 0. -/
theorem divisionByZero_iff {op : BinaryOp} (hop : op = div ∨ op = rem) {lhs rhs : Value}
    {name : Data} :
    op.apply lhs rhs = .error (.divisionByZero name) ↔
      (∃ n, lhs = .int n) ∧ rhs = .int 0 ∧ name = .text op.name := by
  rw [apply_eq_error_iff]
  constructor
  · intro h
    cases h with
    | mismatch _ h => cases h
    | zero _ => exact ⟨⟨_, rfl⟩, rfl, rfl⟩
  · rintro ⟨⟨n, rfl⟩, rfl, rfl⟩
    exact .zero hop

/-- Division and remainder, by what they give.

* For every divisor but 0 they give the one quotient and the one remainder that take the dividend
  apart toward zero.  With the sign of the dividend both results change their signs, and with that
  of the divisor only the quotient does.
* An operand that is no int is refused, the left one first, and the divisor 0 after that, by the
  name of the operator; so there is no end beside these. -/
theorem quotient_remainder_unique :
    (∀ dividend divisor : Int, divisor ≠ 0 → ∃ quotient remainder,
      div.apply (.int dividend) (.int divisor) = .ok (.int quotient) ∧
      rem.apply (.int dividend) (.int divisor) = .ok (.int remainder) ∧
      Splits dividend divisor quotient remainder ∧
      (∀ quotient' remainder', Splits dividend divisor quotient' remainder' →
        quotient' = quotient ∧ remainder' = remainder) ∧
      div.apply (.int (-dividend)) (.int divisor) = .ok (.int (-quotient)) ∧
      div.apply (.int dividend) (.int (-divisor)) = .ok (.int (-quotient)) ∧
      rem.apply (.int (-dividend)) (.int divisor) = .ok (.int (-remainder)) ∧
      rem.apply (.int dividend) (.int (-divisor)) = .ok (.int remainder)) ∧
    ∀ op ∈ [div, rem], ∀ lhs rhs : Value,
      (lhs.kind ≠ .text "int" → op.apply lhs rhs
        = .error (.typeMismatch (.text "int") lhs.kind (.text ("left operand of " ++ op.name)))) ∧
      (lhs.kind = .text "int" → rhs.kind ≠ .text "int" → op.apply lhs rhs
        = .error (.typeMismatch (.text "int") rhs.kind
            (.text ("right operand of " ++ op.name)))) ∧
      ∀ name, op.apply lhs rhs = .error (.divisionByZero name) ↔
        (∃ n, lhs = .int n) ∧ rhs = .int 0 ∧ name = .text op.name := by
  refine ⟨fun dividend divisor hne => ?_, fun op hmem lhs rhs => ?_⟩
  · have hsplits := Division.splits_of_ne_zero dividend hne
    obtain ⟨hdiv, hrem⟩ := gives_iff_splits.mpr hsplits
    obtain ⟨hdiv_left, hrem_left⟩ := gives_iff_splits.mpr hsplits.neg_dividend
    obtain ⟨hdiv_right, hrem_right⟩ := gives_iff_splits.mpr hsplits.neg_divisor
    exact ⟨_, _, hdiv, hrem, hsplits, fun _ _ h => hsplits.unique h, hdiv_left, hdiv_right,
      hrem_left, hrem_right⟩
  · have hop : op = div ∨ op = rem := List.mem_pair.mp hmem
    have hkind : op.operand? = some .int := by
      obtain rfl | rfl := hop <;> rfl
    refine ⟨fun hleft => ?_, fun hleft hright => ?_, fun name => divisionByZero_iff hop⟩
    · exact apply_eq_error_iff.mpr (.mismatch hkind (.left hleft))
    · exact apply_eq_error_iff.mpr (.mismatch hkind (.right hleft hright))

/-- Minus seven by two, and an operand that is no int over a zero. -/
theorem quotient_remainder_unique_minusSeven :
    (2 : Int) ≠ 0 ∧ Splits (-7) 2 (-3) (-1) ∧
      div.apply (.int (-7)) (.int 2) = .ok (.int (-3)) ∧
      rem.apply (.int (-7)) (.int 2) = .ok (.int (-1)) ∧
      div.apply (.int 7) (.int 2) = .ok (.int 3) ∧
      rem.apply (.int (-7)) (.int (-2)) = .ok (.int (-1)) ∧
      (Value.string "a").kind ≠ .text "int" ∧
      rem.apply (.string "a") (.int 0)
        = .error (.typeMismatch (.text "int") (.text "string") (.text "left operand of Rem")) ∧
      rem.apply (.int 7) (.int 0) = .error (.divisionByZero (.text "Rem")) := by
  obtain ⟨hresults, hrefused⟩ := quotient_remainder_unique
  have hne : (2 : Int) ≠ 0 := by decide
  have hkind : (Value.string "a").kind ≠ .text "int" := by decide
  have hsplits : Splits (-7) 2 (-3) (-1) := ⟨by decide, by decide, .inr (by decide)⟩
  obtain ⟨quotient, remainder, hdiv, hrem, -, hunique, hdiv_left, -, -, hrem_right⟩ :=
    hresults (-7) 2 hne
  obtain ⟨rfl, rfl⟩ := hunique _ _ hsplits
  obtain ⟨hleft, -, -⟩ := hrefused rem (by decide) (.string "a") (.int 0)
  obtain ⟨-, -, hzero⟩ := hrefused rem (by decide) (.int 7) (.int 0)
  exact ⟨hne, hsplits, hdiv, hrem, hdiv_left, hrem_right, hkind, hleft hkind,
    (hzero _).mpr ⟨⟨7, rfl⟩, rfl, rfl⟩⟩

end BinaryOp

end Rinha
