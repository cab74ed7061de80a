import Rinha.Number.Floating

/-!
# Rinha.Number.Basic

Numbers of both kinds together: integers of any size and floating-point numbers.  They are compared
exactly, whatever their kinds.  A sum or a difference of two integers is exact; if one of the two is
floating, the other is turned into the nearest floating number first, which has to be finite.
-/

namespace Rinha

/-- An integer or a floating-point number. -/
inductive Number where
  | int (n : Int)
  | floating (x : Floating)
deriving DecidableEq, Repr, Inhabited

namespace Number

/-! ## order -/

/-- Where a number stands in the order: the infinities by the first part, all else by its units.
What is no number stands nowhere. -/
def rank? : Number → Option (Int × Int)
  | .int n => some (0, n * Floating.one)
  | .floating (.finite negative units) => some (0, Floating.signed negative units)
  | .floating (.infinite negative) => some (if negative then -1 else 1, 0)
  | .floating .nan => none

/-- Whether a number is less than another one.  What is no number is neither less nor greater than
any. -/
def lt (a b : Number) : Bool :=
  match a.rank?, b.rank? with
  | some (i, m), some (j, n) => decide (i < j ∨ (i = j ∧ m < n))
  | _, _ => false

/-- Integers are ordered as integers. -/
theorem lt_int (a b : Int) : lt (.int a) (.int b) = decide (a < b) := by
  have h : (0 : Int) < Floating.one := Int.natCast_pos.2 Floating.one_pos
  rw [lt, rank?, rank?]
  generalize (Floating.one : Int) = unit at h ⊢
  simp only [Int.lt_irrefl, true_and, false_or, Int.mul_lt_mul_right h]

/-! ## arithmetic -/

/-- The floating-point number nearest to a number. -/
def toFloating : Number → Except Fault Floating
  | .int n =>
    match Floating.ofInt? n with
    | some x => .ok x
    | none => .error .outOfRange
  | .floating x => .ok x

/-- The sum of two numbers. -/
def add : Number → Number → Except Fault Number
  | .int a, .int b => .ok (.int (a + b))
  | a, b => do return .floating ((← a.toFloating).add (← b.toFloating))

/-- The difference of two numbers. -/
def sub : Number → Number → Except Fault Number
  | .int a, .int b => .ok (.int (a - b))
  | a, b => do return .floating ((← a.toFloating).add (← b.toFloating).neg)

@[simp] theorem add_int (a b : Int) : add (.int a) (.int b) = .ok (.int (a + b)) := rfl

@[simp] theorem sub_int (a b : Int) : sub (.int a) (.int b) = .ok (.int (a - b)) := rfl

end Number

end Rinha
