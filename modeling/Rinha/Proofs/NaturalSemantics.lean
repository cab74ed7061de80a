import Rinha.Proofs.OperatorRules
import Rinha.Value.Env

/-!
# Rinha.Proofs.NaturalSemantics

The natural semantics of the language: which outcome a term has in an environment, a value or an
error, and which lines are printed on the way to it.  It is given by rules (`Term.Yields`) that know
neither a context nor a limit, and a term that does not come to an end has no derivation.

1. A literal is its value, a variable what it is bound to, and a function captures the environment.
2. In a call the callee comes first and has to be a function; the arguments follow from left to
   right, in the environment of the call; the body is evaluated in the captured environment,
   extended by the parameters.  A parameter without an argument is an error, an argument without a
   parameter is none.
3. Both operands of a binary term are evaluated, and the rules of its operator apply.
4. A let binds the name in what comes next and not in the value itself; a condition has to be a bool
   and chooses one branch; a print has to be given a string, which is printed and is the result.
5. The first error ends everything, and nothing is printed after it.
-/

namespace Rinha

/-- An environment extended by parameters, each bound to its argument in order.  Arguments beyond
the parameters are dropped. -/
inductive Env.Extends : Env → List Data → List Value → Env → Prop where
  | nil {env arguments} : Extends env [] arguments env
  | cons {env : Env} {extended name value parameters arguments} :
    (env.bind name value).Extends parameters arguments extended →
      Extends env (.scalar name :: parameters) (value :: arguments) extended

namespace Term

mutual

/-- A term has an outcome in an environment, and prints lines before that. -/
inductive Yields : Env → Term → Except Cause Value → List String → Prop where
  | bool {env location b} : Yields env (.bool location (.ok b)) (.ok (.bool b)) []
  | int {env location n} : Yields env (.int location (.ok n)) (.ok (.int n)) []
  | string {env location s} : Yields env (.string location (.ok s)) (.ok (.string s)) []
  | var {env : Env} {location name value} :
    env.lookup? name = some value → Yields env (.var location (.ok name)) (.ok value) []
  | unbound {env : Env} {location name} :
    env.lookup? name = none →
      Yields env (.var location (.ok name)) (.error (.unboundVariable (.scalar name))) []
  | function {env location parameters body} :
    Yields env (.function location (.ok parameters) body) (.ok (.closure parameters body env)) []
  -- calls
  | calleeError {env location callee arguments cause lines} :
    Yields env callee (.error cause) lines →
      Yields env (.call location callee arguments) (.error cause) lines
  | noFunction {env location callee arguments value lines} :
    Yields env callee (.ok value) lines → value.kind ≠ .text ValueKind.closure.name →
      Yields env (.call location callee arguments)
        (.error (.typeMismatch (.text ValueKind.closure.name) value.kind (.text "call"))) lines
  | argumentError {env location callee arguments parameters body captured cause lines more} :
    Yields env callee (.ok (.closure parameters body captured)) lines →
      YieldsAll env arguments (.error cause) more →
      Yields env (.call location callee arguments) (.error cause) (lines ++ more)
  | missingArgument {env location callee arguments parameters body captured values parameter lines
      more} :
    Yields env callee (.ok (.closure parameters body captured)) lines →
      YieldsAll env arguments (.ok values) more → parameters[values.length]? = some parameter →
      Yields env (.call location callee arguments) (.error (.missingArgument parameter))
        (lines ++ more)
  | call {env location callee arguments parameters body captured values extended outcome lines more
      last} :
    Yields env callee (.ok (.closure parameters body captured)) lines →
      YieldsAll env arguments (.ok values) more → captured.Extends parameters values extended →
      Yields extended body outcome last →
      Yields env (.call location callee arguments) outcome (lines ++ (more ++ last))
  -- operators
  | lhsError {env location op lhs rhs cause lines} :
    Yields env lhs (.error cause) lines →
      Yields env (.binary location (.ok op) lhs rhs) (.error cause) lines
  | rhsError {env location op lhs rhs a cause lines more} :
    Yields env lhs (.ok a) lines → Yields env rhs (.error cause) more →
      Yields env (.binary location (.ok op) lhs rhs) (.error cause) (lines ++ more)
  | refused {env location} {op : BinaryOp} {lhs rhs a b cause lines more} :
    Yields env lhs (.ok a) lines → Yields env rhs (.ok b) more → op.Refuses a b cause →
      Yields env (.binary location (.ok op) lhs rhs) (.error cause) (lines ++ more)
  | binary {env location} {op : BinaryOp} {lhs rhs a b result lines more} :
    Yields env lhs (.ok a) lines → Yields env rhs (.ok b) more → op.Computes a b result →
      Yields env (.binary location (.ok op) lhs rhs) (.ok result) (lines ++ more)
  -- lets
  | valueError {env location name value next cause lines} :
    Yields env value (.error cause) lines →
      Yields env (.letIn location name value next) (.error cause) lines
  | letIn {env location name value next bound outcome lines more} :
    Yields env value (.ok bound) lines → Yields (env.bind name bound) next outcome more →
      Yields env (.letIn location (.ok name) value next) outcome (lines ++ more)
  -- conditions
  | conditionError {env location condition consequent alternative cause lines} :
    Yields env condition (.error cause) lines →
      Yields env (.ifElse location condition consequent alternative) (.error cause) lines
  | noBool {env location condition consequent alternative value lines} :
    Yields env condition (.ok value) lines → value.kind ≠ .text ValueKind.bool.name →
      Yields env (.ifElse location condition consequent alternative)
        (.error (.typeMismatch (.text ValueKind.bool.name) value.kind (.text "if condition")))
        lines
  | consequent {env location condition consequent alternative outcome lines more} :
    Yields env condition (.ok (.bool true)) lines → Yields env consequent outcome more →
      Yields env (.ifElse location condition consequent alternative) outcome (lines ++ more)
  | alternative {env location condition consequent alternative outcome lines more} :
    Yields env condition (.ok (.bool false)) lines → Yields env alternative outcome more →
      Yields env (.ifElse location condition consequent alternative) outcome (lines ++ more)
  -- prints
  | printedError {env location value cause lines} :
    Yields env value (.error cause) lines →
      Yields env (.print location value) (.error cause) lines
  | noString {env location value result lines} :
    Yields env value (.ok result) lines → result.kind ≠ .text ValueKind.string.name →
      Yields env (.print location value)
        (.error (.typeMismatch (.text ValueKind.string.name) result.kind (.text "print"))) lines
  | print {env location value s lines} :
    Yields env value (.ok (.string s)) lines →
      Yields env (.print location value) (.ok (.string s)) (lines ++ [s])

/-- Terms from left to right have their values, or the first of them that has an error has that. -/
inductive YieldsAll : Env → List Term → Except Cause (List Value) → List String → Prop where
  | nil {env} : YieldsAll env [] (.ok []) []
  | headError {env term rest cause lines} :
    Yields env term (.error cause) lines → YieldsAll env (term :: rest) (.error cause) lines
  | tailError {env term rest value cause lines more} :
    Yields env term (.ok value) lines → YieldsAll env rest (.error cause) more →
      YieldsAll env (term :: rest) (.error cause) (lines ++ more)
  | cons {env term rest value values lines more} :
    Yields env term (.ok value) lines → YieldsAll env rest (.ok values) more →
      YieldsAll env (term :: rest) (.ok (value :: values)) (lines ++ more)

end

end Term

end Rinha
