import Rinha.Data.Coerce
import Rinha.Value.Kind

/-!
# Rinha.Error

Errors of evaluated programs.  An error is a cause and, once a term that was being evaluated has put
it there, a location:

* `Cause` says what went wrong, with the facts of the case, which are data; `Cause.name`,
  `Cause.message` and `Cause.details` are how it is told;
* `Error.stamp` gives an error the location of a term, unless it has one already.  On its way out an
  error meets the innermost term first, so that one's location stays.
-/

namespace Rinha

/-- What went wrong in an evaluation. -/
inductive Cause where
  /-- A variable that nothing binds. -/
  | unboundVariable (name : Data)
  /-- A value of one kind was needed and one of another was there; the context says what needed it,
  and is null if that is not told. -/
  | typeMismatch (expected actual : Scalar) (context : Data)
  /-- A comparison of two values that have no equality. -/
  | unsupportedOperation (lhs rhs : Data)
  /-- A call with too few arguments, by the first parameter that has none. -/
  | missingArgument (parameter : Data)
  /-- A zero divisor, by the operator's name. -/
  | divisionByZero (op : Data)
  /-- Calls nested deeper than the limit that was set. -/
  | stackExhausted (limit : Data)
  /-- Calls nested deeper than the machine can follow, by the greatest depth that was counted. -/
  | hostExhausted (deepest : Int)
  /-- Any other error, by its message. -/
  | general (message : Data)
deriving Inhabited

namespace Cause

/-- The name of the class of errors that a cause belongs to. -/
def name : Cause → String
  | unboundVariable _ => "UnboundVariable"
  | typeMismatch _ _ _ => "TypeMismatch"
  | unsupportedOperation _ _ => "UnsupportedOperation"
  | missingArgument _ => "MissingArgument"
  | divisionByZero _ => "DivisionByZero"
  | stackExhausted _ | hostExhausted _ => "StackExhausted"
  | general _ => "RinhaRuntimeError"

/-- The end of a message that tells the context, which is left out if it counts as false. -/
def inContext (context : Data) : String :=
  if context.toBool then " in " ++ context.display else ""

/-- Whether a divisor was needed for the quotient; if not, it was for the remainder. -/
def isQuotient : Data → Bool
  | .text op => op == BinaryOp.div.name
  | _ => false

/-- The text of a cause. -/
def text : Cause → String
  | unboundVariable name => s!"unknown variable {name.display}"
  | typeMismatch expected actual context =>
    "expected " ++ kindInWords expected ++ " received " ++ kindInWords actual ++ inContext context
  | unsupportedOperation lhs rhs =>
    s!"equality between {lhs.display} and {rhs.display} is not supported"
  | missingArgument parameter => s!"missing argument for parameter {parameter.display}"
  | divisionByZero op => if isQuotient op then "division by zero" else "remainder by zero"
  | stackExhausted limit => s!"stack exhausted after {limit.display} nested calls"
  | hostExhausted deepest => s!"stack exhausted after {deepest} nested calls"
  | general message => message.display

/-- The message of a cause: its text, or what was given as its message. -/
def message : Cause → Data
  | general message => message
  | cause => .text cause.text

/-- The facts of the case, by name. -/
def details : Cause → List (String × Data)
  | unboundVariable name => [("name", name)]
  | typeMismatch expected actual context =>
    [("expected", .scalar expected), ("actual", .scalar actual), ("context", context)]
  | unsupportedOperation lhs rhs => [("lhs_kind", lhs), ("rhs_kind", rhs)]
  | missingArgument parameter => [("parameter", parameter)]
  | divisionByZero op => [("op", op)]
  | stackExhausted limit => [("depth", limit)]
  | hostExhausted deepest => [("depth", .int deepest)]
  | general _ => []

end Cause

/-- A cause, and the place in the source text if one is known. -/
structure Error where
  cause : Cause
  location : Option Data := none
deriving Inhabited

namespace Error

/-- The error with a term's location, which counts only if the error has none yet. -/
def stamp (error : Error) (location : Option Data) : Error :=
  { error with location := error.location.or location }

@[simp] theorem cause_stamp (error : Error) (location : Option Data) :
    (error.stamp location).cause = error.cause := rfl

@[simp] theorem location_stamp (error : Error) (location : Option Data) :
    (error.stamp location).location = error.location.or location := rfl

/-- Of two stamps the first one counts. -/
@[simp] theorem stamp_stamp (error : Error) (inner outer : Option Data) :
    (error.stamp inner).stamp outer = error.stamp (inner.or outer) := by
  cases error; simp [stamp, Option.or_assoc]

/-- The error as data. -/
def toData (error : Error) : Data :=
  .object [("kind", .text error.cause.name), ("message", error.cause.message),
    ("location", error.location.getD .null), ("details", .object error.cause.details)]

end Error

end Rinha
