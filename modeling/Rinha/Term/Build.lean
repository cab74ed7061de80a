import Rinha.Data.Coerce
import Rinha.BinaryOp
import Rinha.Term.Basic

/-!
# Rinha.Term.Build

Building syntax trees as data, in the form that `Term.ofData` reads.  A builder turns payloads into
the form of their kind, gives every node a location, and refuses an unknown operator; the subterms
it takes as they are.
-/

namespace Rinha.Build

/-! ## locations and names -/

/-- A stretch of a source text. -/
def location (start stop filename : Data) : Data :=
  .object [("start", start), ("end", stop), ("filename", filename)]

/-- The start of a file. -/
def startOf (filename : Data) : Data :=
  location (.int 0) (.int 0) filename

/-- The location where none is given. -/
def nowhere : Data :=
  startOf (.text "<memory>")

/-- The given location; null stands for none. -/
def placed (given : Option Data) : Data :=
  match given with
  | none | some .null => nowhere
  | some place => place

/-- A bare name, as lets and parameters have it. -/
def name (text : Data) (place : Option Data) : Data :=
  .object [("text", text), ("location", placed place)]

/-! ## terms -/

/-- A term of a kind with these fields. -/
def term (kind : TermKind) (fields : List (String × Data)) (place : Option Data) : Data :=
  .object (("kind", .text kind.name) :: fields ++ [("location", placed place)])

/-- A bool literal; any payload is true or false. -/
def bool (value : Data) (place : Option Data) : Data :=
  term .bool [("value", .bool value.toBool)] place

/-- An int literal.  The payload has to be a number, a truth value or a text that writes an
integer. -/
def int (value : Data) (place : Option Data) : Except Fault Data := do
  return term .int [("value", .int (← value.toInt))] place

/-- A string literal; any payload has a text. -/
def string (value : Data) (place : Option Data) : Data :=
  term .string [("value", .text value.toText)] place

/-- A variable by its name. -/
def var (text : Data) (place : Option Data) : Data :=
  term .var [("text", text)] place

/-- A function; its parameters are given by their names. -/
def function (parameters body : Data) (place : Option Data) : Except Fault Data := do
  let names ← parameters.items
  return term .function
    [("parameters", .list (names.map fun text => name text none)), ("value", body)] place

/-- A call.  The arguments are any data that has parts. -/
def call (callee arguments : Data) (place : Option Data) : Except Fault Data := do
  return term .call [("callee", callee), ("arguments", .list (← arguments.items))] place

/-- The operators that binary terms are built with, by their names in the order in which they are
listed; the symbols of programs stand beside them. -/
def operatorNames : List String :=
  [ "Concat",  -- `+`
    "Add",     -- `+`
    "Sub",     -- `-`
    "Mul",     -- `*`
    "Div",     -- `/`
    "Rem",     -- `%`
    "Eq",      -- `==`
    "Neq",     -- `!=`
    "Lt",      -- `<`
    "Gt",      -- `>`
    "Lte",     -- `<=`
    "Gte",     -- `>=`
    "And",     -- `&&`
    "Or" ]     -- `||`

/-- These are the names of the operators, each of them once. -/
theorem operatorNames_eq : operatorNames = BinaryOp.all.map BinaryOp.name := rfl

/-- A binary term.  The operator has to be one of the names that are listed. -/
def binary (op lhs rhs : Data) (place : Option Data) : Except Fault Data := do
  match op with
  | .text s => if s ∉ operatorNames then throw (.unknownOperator s)
  | other => throw (.unknownOperator other.display)
  return term .binary [("lhs", lhs), ("op", op), ("rhs", rhs)] place

theorem mem_operatorNames_iff {name : String} :
    name ∈ operatorNames ↔ ∃ op : BinaryOp, op.name = name := by
  simp [operatorNames_eq, BinaryOp.mem_all]

/-- A binary term can be built with every operator. -/
theorem binary_name (op : BinaryOp) (lhs rhs : Data) (place : Option Data) :
    binary (.text op.name) lhs rhs place
      = .ok (term .binary [("lhs", lhs), ("op", .text op.name), ("rhs", rhs)] place) := by
  have hmem : op.name ∈ operatorNames := mem_operatorNames_iff.mpr ⟨op, rfl⟩
  simp [binary, hmem, pure, Except.pure]

/-- It can be built with nothing else that is a text. -/
theorem binary_of_notMem {name : String} (h : name ∉ operatorNames) (lhs rhs : Data)
    (place : Option Data) :
    binary (.text name) lhs rhs place = .error (.unknownOperator name) := by
  simp [binary, h, throw, throwThe, MonadExceptOf.throw, bind, Except.bind]

/-- A let of a name in the term that comes next. -/
def letIn (text value next : Data) (place : Option Data) : Data :=
  term .letIn [("name", name text none), ("value", value), ("next", next)] place

/-- A condition with its two branches. -/
def ifElse (condition consequent alternative : Data) (place : Option Data) : Data :=
  term .ifElse
    [("condition", condition), ("then", consequent), ("otherwise", alternative)] place

/-- A print of the value of a term. -/
def print (value : Data) (place : Option Data) : Data :=
  term .print [("value", value)] place

/-! ## programs -/

/-- A root term under a name.  Without a location it is the start of the file of that name. -/
def program (expression name : Data) (place : Option Data) : Data :=
  let place :=
    match place with
    | none | some .null => startOf name
    | some place => place
  .object [("name", name), ("expression", expression), ("location", place)]

end Rinha.Build
