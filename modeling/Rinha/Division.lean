/-!
# Rinha.Division

Integer division toward zero.  The quotient drops its fraction and the remainder is what is left, so
it has the sign of the dividend.  By zero nothing can be divided.
-/

namespace Rinha.Division

/-- The quotient, rounded toward zero: that of the absolute values, negated if the signs differ. -/
def quotient (dividend divisor : Int) : Int :=
  let quotient : Int := (dividend.natAbs / divisor.natAbs : Nat)
  if dividend < 0 ↔ divisor < 0 then quotient else -quotient

/-- What the quotient leaves of the dividend. -/
def remainder (dividend divisor : Int) : Int :=
  dividend - divisor * quotient dividend divisor

/-- The quotient, where there is one. -/
def quotient? (dividend divisor : Int) : Option Int :=
  if divisor = 0 then none else some (quotient dividend divisor)

/-- The remainder, where there is one. -/
def remainder? (dividend divisor : Int) : Option Int :=
  if divisor = 0 then none else some (remainder dividend divisor)

theorem quotient_eq_tdiv (dividend divisor : Int) :
    quotient dividend divisor = dividend.tdiv divisor := by
  rw [quotient]
  obtain ⟨m, rfl | rfl⟩ := dividend.eq_nat_or_neg <;>
    obtain ⟨n, rfl | rfl⟩ := divisor.eq_nat_or_neg
  · rw [if_pos (by omega), Int.natAbs_natCast, Int.natAbs_natCast, Int.ofNat_tdiv]
  · by_cases hn : n = 0
    · subst hn; simp
    · rw [if_neg (by omega), Int.natAbs_natCast, Int.natAbs_neg, Int.natAbs_natCast, Int.tdiv_neg,
        Int.ofNat_tdiv]
  · by_cases hm : m = 0
    · subst hm; simp
    · rw [if_neg (by omega), Int.natAbs_neg, Int.natAbs_natCast, Int.natAbs_natCast, Int.neg_tdiv,
        Int.ofNat_tdiv]
  · by_cases hmn : m = 0 ∨ n = 0
    · obtain rfl | rfl := hmn <;> simp
    · rw [if_pos (by omega), Int.natAbs_neg, Int.natAbs_neg, Int.natAbs_natCast,
        Int.natAbs_natCast, Int.neg_tdiv, Int.tdiv_neg, Int.neg_neg, Int.ofNat_tdiv]

theorem remainder_eq_tmod (dividend divisor : Int) :
    remainder dividend divisor = dividend.tmod divisor := by
  rw [remainder, quotient_eq_tdiv, Int.tmod_def]

example : quotient? (-7) 2 = some (-3) ∧ remainder? (-7) 2 = some (-1) := by decide
example : quotient? 7 (-2) = some (-3) ∧ remainder? 7 (-2) = some 1 := by decide
example : quotient? 1 0 = none ∧ remainder? 1 0 = none := by decide

end Rinha.Division
