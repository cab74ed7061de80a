/-!
# Rinha.Number.Decimal

Decimals `digits × 10 ^ exponent` and how they are written:

1. positionally, with `.0` on whole numbers, where the first digit stands for `10 ^ -4` up to
   `10 ^ 15`;
2. in all other cases with the point after the first digit, which is left out if nothing follows it,
   and an exponent with a sign and at least two digits.
-/

namespace Rinha

/-- A decimal `digits × 10 ^ exponent`. -/
structure Decimal where
  digits : Nat
  exponent : Int
deriving DecidableEq, Repr, Inhabited

namespace Decimal

/-- How many zeros end the digits of a number. -/
def trailingZeros (digits : Nat) : Nat :=
  ((Nat.toDigits 10 digits).reverse.takeWhile (· == '0')).length

/-- The same decimal without zeros at the end of its digits. -/
def strip (d : Decimal) : Decimal :=
  if d.digits = 0 then ⟨0, 0⟩
  else
    let zeros := trailingZeros d.digits
    ⟨d.digits / Nat.pow 10 zeros, d.exponent + zeros⟩

/-- The digits with the decimal point after the first `point` of them, `0 < point`. -/
def showPositional (digits : List Char) (point : Nat) : List Char :=
  let whole := digits.take point ++ List.replicate (point - digits.length) '0'
  let fraction := digits.drop point
  whole ++ '.' :: (if fraction.isEmpty then ['0'] else fraction)

/-- The digits behind the decimal point, after as many zeros as the place of the first one needs. -/
def showFraction (digits : List Char) (leading : Int) : List Char :=
  '0' :: '.' :: (List.replicate (-leading - 1).toNat '0' ++ digits)

/-- The digits with the point after the first one, then the power of ten. -/
def showScientific (digits : List Char) (leading : Int) : List Char :=
  let fraction := digits.drop 1
  let size := Nat.toDigits 10 leading.natAbs
  digits.take 1 ++ (if fraction.isEmpty then [] else '.' :: fraction) ++
    'e' :: (if leading < 0 then '-' else '+') ::
    (List.replicate (2 - size.length) '0' ++ size)

/-- The decimal as text. -/
def display (d : Decimal) : List Char :=
  let d := d.strip
  let digits := Nat.toDigits 10 d.digits
  let leading : Int := d.exponent + digits.length - 1
  if leading < -4 ∨ 16 ≤ leading then showScientific digits leading
  else if leading < 0 then showFraction digits leading
  else showPositional digits (leading + 1).toNat

example : display ⟨0, 0⟩ = "0.0".toList := by decide +kernel
example : display ⟨10000, -1⟩ = "1000.0".toList := by decide +kernel
example : display ⟨37, -5⟩ = "0.00037".toList := by decide +kernel
example : display ⟨5, -5⟩ = "5e-05".toList := by decide +kernel
example : display ⟨12, 22⟩ = "1.2e+23".toList := by decide +kernel

end Decimal

end Rinha
