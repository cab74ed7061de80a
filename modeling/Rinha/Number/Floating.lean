import Rinha.Fault

/-!
# Rinha.Number.Floating

Floating-point numbers with 53 significant bits.  Every finite one is a whole number of units of
`2 ^ -1074`, and that number is what is held, so two numbers are equal just when they are held alike
(zero alone has two signs):

```
value = ± units / 2 ^ 1074
```

* `Floating.ofRatio` gives the number nearest to a quotient: a tie goes to the even one, and what
  rounds to `2 ^ 1024` is infinite;
* `Floating.ofScientific` reads a number with a power of ten;
* `Floating.toInt` drops the fraction, and `Floating.whole?` is for numbers that have none;
* `Floating.add` adds exactly and rounds once.
-/

namespace Rinha

/-- A floating-point number. -/
inductive Floating where
  | finite (negative : Bool) (units : Nat)
  | infinite (negative : Bool)
  /-- What stands for no number at all. -/
  | nan
deriving DecidableEq, Repr, Inhabited

namespace Floating

/-- How often one is halved to come to a unit. -/
def halvings : Nat := 1074

/-- How many units make one. -/
def one : Nat := Nat.pow 2 halvings

theorem one_pos : 0 < one := by
  decide +kernel

/-- The units of the least power of two that is too large. -/
def limit : Nat := Nat.pow 2 (halvings + 1024)

/-! ## rounding -/

/-- Divide to the nearest whole number; a half goes to the even neighbour. -/
def divNearestEven (numerator denominator : Nat) : Nat :=
  let quotient := numerator / denominator
  let twice := 2 * (numerator % denominator)
  if twice < denominator then quotient
  else if denominator < twice then quotient + 1
  else quotient + quotient % 2

/-- A quotient to the nearest number with at most 53 significant bits. -/
def roundTo53Bits (numerator denominator : Nat) : Nat :=
  let excess := (Nat.log2 (numerator / denominator) + 1) - 53
  divNearestEven numerator (denominator * Nat.pow 2 excess) * Nat.pow 2 excess

/-- The number nearest to a quotient. -/
def ofRatio (negative : Bool) (numerator denominator : Nat) : Floating :=
  let units := roundTo53Bits (numerator * one) denominator
  if units < limit then .finite negative units else .infinite negative

/-- The number nearest to `± digits × 10 ^ exponent`.  From `10 ^ 310` on all numbers are infinite
and below `10 ^ -330` all are zero, so that no huge power is worked out. -/
def ofScientific (negative : Bool) (digits : Nat) (exponent : Int) : Floating :=
  let magnitude := exponent + (Nat.toDigits 10 digits).length
  if digits = 0 ∨ magnitude < -330 then .finite negative 0
  else if 310 < magnitude then .infinite negative
  else ofRatio negative (digits * Nat.pow 10 exponent.toNat) (Nat.pow 10 (-exponent).toNat)

/-- The number nearest to an integer, unless that is infinite. -/
def ofInt? (n : Int) : Option Floating :=
  match ofRatio (decide (n < 0)) n.natAbs 1 with
  | .finite negative units => some (.finite negative units)
  | _ => none

/-! ## integers -/

/-- Both zeros count, whatever their sign. -/
def isZero : Floating → Bool
  | .finite _ units => units == 0
  | _ => false

/-- An integer with the sign beside it. -/
def signed (negative : Bool) (magnitude : Nat) : Int :=
  if negative then -(magnitude : Int) else magnitude

/-- The integer next to the number on the side of zero. -/
def toInt : Floating → Except Fault Int
  | .finite negative units => .ok (signed negative (units / one))
  | .infinite _ => .error .outOfRange
  | .nan => .error .notANumber

/-- The integer that a number without a fraction is. -/
def whole? : Floating → Option Int
  | .finite negative units => if units % one = 0 then some (signed negative (units / one)) else none
  | _ => none

/-! ## arithmetic -/

/-- The number with the other sign. -/
def neg : Floating → Floating
  | .finite negative units => .finite (!negative) units
  | .infinite negative => .infinite (!negative)
  | .nan => .nan

/-- The sum, rounded once. -/
def add : Floating → Floating → Floating
  | .finite s m, .finite t n =>
    let sum := signed s m + signed t n
    if sum = 0 then .finite (s && t) 0 else ofRatio (decide (sum < 0)) sum.natAbs one
  | .infinite s, .infinite t => if s = t then .infinite s else .nan
  | .infinite s, .finite _ _ | .finite _ _, .infinite s => .infinite s
  | .nan, _ | _, .nan => .nan

example : ofScientific false 1 23 = .finite false (99999999999999991611392 * one) := by
  decide +kernel
example : ofScientific false 9007199254740993 0 = ofScientific false 9007199254740992 0 := by
  decide +kernel
example : ofScientific true 5 (-324) = .finite true 1 := by decide +kernel
example : ofScientific false 17976931348623159 292 = .infinite false := by decide +kernel
example : (add (ofScientific false 1 (-1)) (ofScientific false 2 (-1)))
    = ofScientific false 30000000000000004 (-17) := by decide +kernel

end Floating

end Rinha
