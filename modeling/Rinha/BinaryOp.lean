import Rinha.Fault

/-!
# Rinha.BinaryOp

The fourteen binary operators and their names.  `BinaryOp.ofName?_eq_some_iff` says that reading a
name and giving it are inverse to each other, so exactly the fourteen names are read.
-/

namespace Rinha

/-- A binary operator, by what it does; its symbol in programs stands beside it. -/
inductive BinaryOp where
  | concat  -- `+` on strings
  | add     -- `+` on ints
  | sub     -- `-`
  | mul     -- `*`
  | div     -- `/`
  | rem     -- `%`
  | eq      -- `==`
  | neq     -- `!=`
  | lt      -- `<`
  | gt      -- `>`
  | lte     -- `<=`
  | gte     -- `>=`
  | and     -- `&&`
  | or      -- `||`
deriving DecidableEq, Repr, Inhabited

namespace BinaryOp

/-- All operators in the order in which they are listed. -/
def all : List BinaryOp :=
  [concat, add, sub, mul, div, rem, eq, neq, lt, gt, lte, gte, and, or]

/-- The name by which terms refer to an operator. -/
def name : BinaryOp → String
  | concat => "Concat"
  | add => "Add"
  | sub => "Sub"
  | mul => "Mul"
  | div => "Div"
  | rem => "Rem"
  | eq => "Eq"
  | neq => "Neq"
  | lt => "Lt"
  | gt => "Gt"
  | lte => "Lte"
  | gte => "Gte"
  | and => "And"
  | or => "Or"

/-- The operator of a name. -/
def ofName? (name : String) : Option BinaryOp :=
  all.find? fun op => op.name == name

theorem mem_all (op : BinaryOp) : op ∈ all := by
  cases op <;> decide

@[simp] theorem ofName?_name (op : BinaryOp) : ofName? op.name = some op := by
  cases op <;> decide

/-- Exactly the names of the operators are read. -/
theorem ofName?_eq_some_iff {name : String} {op : BinaryOp} :
    ofName? name = some op ↔ op.name = name := by
  constructor
  · intro h
    simpa using List.find?_some h
  · rintro rfl
    exact ofName?_name op

/-- The operator of a name; no other name will do. -/
def named (name : String) : Except Fault BinaryOp :=
  match ofName? name with
  | some op => .ok op
  | none => .error (.unknownOperator name)

@[simp] theorem named_name (op : BinaryOp) : named op.name = .ok op := by
  simp [named]

end BinaryOp

end Rinha
