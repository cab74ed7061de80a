import Rinha.Text.Blank
import Rinha.Text.Digit

/-!
# Rinha.Text.Integer

Integers in text.  What is read:

1. blanks at the two ends are dropped;
2. one sign, `+` or `-`, may come first;
3. at least one digit follows, and between two digits one underscore may stand.

Digits of every decimal script count, also mixed ones.
-/

namespace Rinha.Text

/-- The number whose digits so far mean `value` and go on with the given characters; each underscore
has to be followed by a digit. -/
def readAfterDigit? (value : Nat) : List Char → Option Nat
  | [] => some value
  | '_' :: c :: cs => (digitValue? c).bind fun digit => readAfterDigit? (10 * value + digit) cs
  | c :: cs => (digitValue? c).bind fun digit => readAfterDigit? (10 * value + digit) cs

/-- The number that the characters write, which start with a digit. -/
def readNatural? : List Char → Option Nat
  | [] => none
  | c :: cs => (digitValue? c).bind fun digit => readAfterDigit? digit cs

/-- The integer that the characters write, sign first. -/
def readSigned? : List Char → Option Int
  | '-' :: cs => (readNatural? cs).map fun n => -n
  | '+' :: cs => (readNatural? cs).map fun n => n
  | cs => (readNatural? cs).map fun n => n

/-- The integer that a text writes. -/
def readInteger? (text : String) : Option Int :=
  readSigned? (trim text.toList)

example : readInteger? " -1_000 " = some (-1000) := by decide +kernel
example : readInteger? "+007" = some 7 := by decide +kernel
example : readInteger? "1__0" = none := by decide +kernel
example : readInteger? "_1" = none := by decide +kernel
example : readInteger? "1_" = none := by decide +kernel
example : readInteger? "- 1" = none := by decide +kernel
example : readInteger? "" = none := by decide +kernel

end Rinha.Text
