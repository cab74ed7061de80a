import Rinha.Division
import Rinha.Text.Lower
import Rinha.Value.Basic

/-!
# Rinha.Operation

What the binary operators do.  Most of them lift a function on payloads to values: `Operation.lift`
takes out the left payload, then the right one, and refuses the first operand of another kind, by
its side and the operator's name.  Division checks both kinds in the same way and then the divisor;
equality has its own rule for kinds (`Value.equal`).

Both operands are values already, so `&&` and `||` do not spare the right one.
-/

namespace Rinha

/-- The side on which an operand stands. -/
inductive Side where
  | left | right
deriving DecidableEq, Repr

/-- The name of a side. -/
def Side.name : Side → String
  | left => "left"
  | right => "right"

/-- How errors refer to the operand on a side. -/
def Side.operandOf (side : Side) (op : String) : String :=
  s!"{side.name} operand of {op}"

/-- An operation on two values, and its name. -/
structure Operation (α : Type) where
  name : String
  run : Value → Value → Except Cause α

namespace Operation

/-- The label that an operation goes by. -/
def label {α : Type} (operation : Operation α) : String :=
  "rinha_" ++ Text.lower operation.name

/-- The operation that takes out both payloads, left one first, and applies the function. -/
def lift {α β : Type} (take : Value → Data → Except Cause α) (f : α → α → β) (name : String) :
    Operation β where
  name
  run lhs rhs := do
    let a ← take lhs (.text (Side.left.operandOf name))
    let b ← take rhs (.text (Side.right.operandOf name))
    return f a b

/-- An operation on ints that gives an int. -/
def arithmetic (f : Int → Int → Int) : String → Operation Value :=
  lift Value.toInt fun a b => .int (f a b)

/-- An operation on ints that gives a bool. -/
def comparison (f : Int → Int → Bool) : String → Operation Value :=
  lift Value.toInt fun a b => .bool (f a b)

/-- An operation on bools that gives a bool. -/
def logical (f : Bool → Bool → Bool) : String → Operation Value :=
  lift Value.toBool fun a b => .bool (f a b)

/-- An operation on strings that gives a string. -/
def textual (f : String → String → String) : String → Operation Value :=
  lift Value.toText fun a b => .string (f a b)

/-- The part of a division that is asked for, unless the divisor is zero.  Both kinds are checked
before the divisor is. -/
def divide (part : Int → Int → Int) (op : BinaryOp) (lhs rhs : Value) : Except Cause Value := do
  let dividend ← lhs.toInt (.text (Side.left.operandOf op.name))
  let divisor ← rhs.toInt (.text (Side.right.operandOf op.name))
  if divisor = 0 then throw (.divisionByZero (.text op.name))
  return .int (part dividend divisor)

end Operation

/-- What an operator does with two values. -/
def BinaryOp.apply (op : BinaryOp) (lhs rhs : Value) : Except Cause Value :=
  match op with
  | .concat => (Operation.textual (· ++ ·) op.name).run lhs rhs
  | .add => (Operation.arithmetic (· + ·) op.name).run lhs rhs
  | .sub => (Operation.arithmetic (· - ·) op.name).run lhs rhs
  | .mul => (Operation.arithmetic (· * ·) op.name).run lhs rhs
  | .div => Operation.divide Division.quotient op lhs rhs
  | .rem => Operation.divide Division.remainder op lhs rhs
  | .eq => (fun same => .bool same) <$> lhs.equal rhs
  | .neq => (fun same => .bool (!same)) <$> lhs.equal rhs
  | .lt => (Operation.comparison (fun a b => decide (a < b)) op.name).run lhs rhs
  | .gt => (Operation.comparison (fun a b => decide (b < a)) op.name).run lhs rhs
  | .lte => (Operation.comparison (fun a b => decide (a ≤ b)) op.name).run lhs rhs
  | .gte => (Operation.comparison (fun a b => decide (b ≤ a)) op.name).run lhs rhs
  | .and => (Operation.logical (· && ·) op.name).run lhs rhs
  | .or => (Operation.logical (· || ·) op.name).run lhs rhs

end Rinha
