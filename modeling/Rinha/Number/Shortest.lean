import Rinha.Number.Decimal
import Rinha.Number.Floating

/-!
# Rinha.Number.Shortest

Floating-point numbers as text, by the fewest digits that identify them.  A decimal identifies a
number if it reads back as that number (`Floating.ofScientific`).  For one digit, two digits and so
on, the two decimals next to the number are tried; the first count of digits with a decimal that
reads back wins.  If both read back the nearer one is taken, and of two that are equally near the
even one.
-/

namespace Rinha.Floating

/-- Whether `digits × 10 ^ exponent` identifies a positive number. -/
def readsBack (units digits : Nat) (exponent : Int) : Bool :=
  ofScientific false digits exponent = .finite false units

/-- The power of ten that the first digit of a positive number stands for. -/
def leadingPower (units : Nat) : Int :=
  (Nat.toDigits 10 (units * Nat.pow 10 330 / one)).length - 331

/-- The decimal whose last digit stands for `10 ^ exponent`, if one of the two next to the number
identifies it. -/
def identifying? (units : Nat) (exponent : Int) : Option Decimal :=
  let numerator := units * Nat.pow 10 (-exponent).toNat
  let denominator := one * Nat.pow 10 exponent.toNat
  let below := numerator / denominator
  match readsBack units below exponent, readsBack units (below + 1) exponent with
  | true, true => some ⟨divNearestEven numerator denominator, exponent⟩
  | true, false => some ⟨below, exponent⟩
  | false, true => some ⟨below + 1, exponent⟩
  | false, false => none

/-- The shortest decimal that identifies a positive number.  Seventeen digits are always enough; the
number's own digits stand behind them as the last resort. -/
def shortest (units : Nat) : Decimal :=
  let leading := leadingPower units
  ((List.range 17).findSome? fun (more : Nat) => identifying? units (leading - more)).getD
    ⟨units * Nat.pow 5 halvings, -halvings⟩

/-- The number as text. -/
def display : Floating → String
  | .finite negative units =>
    let body := if units = 0 then Decimal.display ⟨0, 0⟩ else (shortest units).display
    String.ofList (if negative then '-' :: body else body)
  | .infinite true => "-inf"
  | .infinite false => "inf"
  | .nan => "nan"

example : (ofScientific false 1 (-1)).display = "0.1" := by decide +kernel
example : (ofScientific true 0 0).display = "-0.0" := by decide +kernel
example : (ofScientific false 5 (-324)).display = "5e-324" := by decide +kernel
example : (ofScientific false 298023223876953125 (-25)).display = "2.9802322387695312e-08" := by
  decide +kernel
example : (ofScientific false 1 23).display = "1e+23" := by decide +kernel
example : (ofScientific true 17976931348623157 292).display = "-1.7976931348623157e+308" := by
  decide +kernel

end Rinha.Floating
