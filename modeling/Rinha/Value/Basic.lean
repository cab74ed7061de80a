import Rinha.Error
import Rinha.Term.Reading

/-!
# Rinha.Value.Basic

Values and environments.  A function value captures the environment that it is made in, so the two
types are one mutual family; an environment is a row of bindings, one for each name, in the order in
which the names were first bound.

* `Value.kind` and `Value.display` name and render a value;
* `Value.toBool`, `Value.toInt`, `Value.toText` and `Value.toClosure` take out what a value of one
  kind holds and refuse every other kind (`Value.toInt_eq_ok_iff` and its companions);
* `Value.equal` compares two bools, two ints or two strings, and nothing else.
-/

namespace Rinha

mutual

/-- A value. -/
inductive Value where
  | bool (b : Bool)
  | int (n : Int)
  | string (s : String)
  /-- A function: its parameters, its body, and the environment that it was made in. -/
  | closure (parameters : List Data) (body : Term) (env : Env)
  /-- A value of a kind that the language does not have. -/
  | foreign (kind : ForeignKind) (content : Data)

/-- The bindings that are visible to a term. -/
inductive Env where
  | empty
  | binding (name : Name) (value : Value) (rest : Env)

end

instance : Inhabited Value := ⟨.bool false⟩
instance : Inhabited Env := ⟨.empty⟩

/-- The parts of a function value. -/
structure Closure where
  parameters : List Data
  body : Term
  env : Env

namespace Value

/-! ## values from payloads -/

/-- The bool of a payload. -/
def boolOf (payload : Data) : Value :=
  .bool payload.toBool

/-- The int of a payload, if it is one. -/
def intOf (payload : Data) : Except Fault Value :=
  .int <$> payload.toInt

/-- The string of a payload. -/
def stringOf (payload : Data) : Value :=
  .string payload.toText

/-! ## kinds -/

/-- The name of a value's kind. -/
def kind : Value → Scalar
  | bool _ => .text ValueKind.bool.name
  | int _ => .text ValueKind.int.name
  | string _ => .text ValueKind.string.name
  | closure _ _ _ => .text ValueKind.closure.name
  | foreign kind _ => kind.name

/-- The error of a value where one of another kind is needed. -/
def mismatch (expected : ValueKind) (value : Value) (context : Data) : Cause :=
  .typeMismatch (.text expected.name) value.kind context

/-- The truth value of a bool; the context tells who asks, or is null. -/
def toBool (value : Value) (context : Data) : Except Cause Bool :=
  match value with
  | bool b => .ok b
  | other => .error (other.mismatch .bool context)

/-- The number of an int. -/
def toInt (value : Value) (context : Data) : Except Cause Int :=
  match value with
  | int n => .ok n
  | other => .error (other.mismatch .int context)

/-- The text of a string. -/
def toText (value : Value) (context : Data) : Except Cause String :=
  match value with
  | string s => .ok s
  | other => .error (other.mismatch .string context)

/-- The parts of a function. -/
def toClosure (value : Value) (context : Data) : Except Cause Closure :=
  match value with
  | closure parameters body env => .ok ⟨parameters, body, env⟩
  | other => .error (other.mismatch .closure context)

/-- The parts of a function that is called. -/
def asCallee (value : Value) : Except Cause Closure :=
  value.toClosure (.text "call")

theorem toBool_eq_ok_iff {value : Value} {context : Data} {b : Bool} :
    value.toBool context = .ok b ↔ value = .bool b := by
  cases value <;> simp [toBool]

theorem toInt_eq_ok_iff {value : Value} {context : Data} {n : Int} :
    value.toInt context = .ok n ↔ value = .int n := by
  cases value <;> simp [toInt]

theorem toText_eq_ok_iff {value : Value} {context : Data} {s : String} :
    value.toText context = .ok s ↔ value = .string s := by
  cases value <;> simp [toText]

theorem toClosure_eq_ok_iff {value : Value} {context : Data} {c : Closure} :
    value.toClosure context = .ok c ↔ value = .closure c.parameters c.body c.env := by
  obtain ⟨parameters, body, env⟩ := c
  cases value <;> simp [toClosure]

/-! ## equality -/

/-- Whether two values are equal.  Values of different kinds are not unequal but not comparable, and
so are two functions. -/
def equal : Value → Value → Except Cause Bool
  | bool a, bool b => .ok (a == b)
  | int a, int b => .ok (a == b)
  | string a, string b => .ok (a == b)
  | lhs, rhs => .error (.unsupportedOperation (.scalar lhs.kind) (.scalar rhs.kind))

/-! ## rendering -/

/-- A parameter as the rendering of a function shows it.  Only texts are joined. -/
def displayParameter : Data → Except Fault String
  | .text s => .ok s
  | _ => .error .wrongShape

/-- A value as diagnostics show it: an int by all its digits, however many (`Rinha.Data.Display`), a
string in double quotation marks as it is, a function by its parameters, a foreign value by its
kind. -/
def display : Value → Except Fault String
  | bool true => .ok "true"
  | bool false => .ok "false"
  | int n => .ok (toString n)
  | string s => .ok ("\"" ++ s ++ "\"")
  | closure parameters _ _ => do
    let names ← parameters.mapM displayParameter
    return "<fn(" ++ ", ".intercalate names ++ ")>"
  | foreign kind _ => .ok ("<" ++ kind.name.display ++ ">")

end Value

end Rinha
