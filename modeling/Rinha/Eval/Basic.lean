import Rinha.Eval.Monad
import Rinha.Operation
import Rinha.Value.Env

/-!
# Rinha.Eval.Basic

The evaluator.  Evaluation is call by value and lexically scoped:

1. a call evaluates its callee, which has to be a function, then its arguments from left to right in
   the environment of the call, and last the body in the captured environment with the parameters
   bound; arguments beyond the parameters are evaluated and dropped;
2. both operands of a binary term are evaluated, left one first;
3. a let's name is not visible in its own value; a condition chooses exactly one branch;
4. printing yields the printed string; the first error ends everything.

Every term traces its kind before it does anything else, and puts its location on an error that
leaves it.

A body is no part of the call that runs it, so evaluation need not end.  The recursion is therefore
in two layers: `Term.evalWith` follows the term, by structural recursion, and hands bodies to its
argument `invoke`; `Term.evalIn` ties the knot for at most `limit` calls inside each other, and one
call more exhausts the machine.  `Term.eval` is that in a context, and `Term.evalRoot` tells the
exhaustion as an error at the root term.
-/

namespace Rinha

namespace Effects

variable {m : Type → Type} [Effects m]

/-- Evaluate a node: trace its kind, and stamp what fails in it with its location. -/
def node {α : Type} (kind : String) (location : Location) (action : m α) : m α := do
  trace s!"Evaluating: {kind}"
  stamp location action

/-- Print a string, which is also the result. -/
def printValue (value : Value) : m Value := do
  emit (← orFail (value.toText (.text "print")))
  return value

/-! ## calls -/

/-- What the trace says of a call. -/
def callMessage (callee : Value) (arguments : List Value) : Except Fault String := do
  let function ← callee.display
  let shown ← arguments.mapM Value.display
  return s!"Calling {function} with (" ++ ", ".intercalate shown ++ ")"

/-- The environment that the body of a function sees: the captured one with the parameters bound to
the arguments.  Too few arguments are an error by the first parameter that has none. -/
def callEnv (closure : Closure) (arguments : List Value) : m Env :=
  match closure.parameters.drop arguments.length with
  | parameter :: _ => fail (.missingArgument parameter)
  | [] => orFault (closure.env.bindAll closure.parameters arguments)

/-- Call a function with arguments that are evaluated already. -/
def apply (invoke : Term → Env → m Value) (callee : Value) (closure : Closure)
    (arguments : List Value) : m Value := do
  let env ← callEnv closure arguments
  traceWith (callMessage callee arguments)
  inCall (invoke closure.body env)

end Effects

namespace Term

open Effects

variable {m : Type → Type} [Effects m]

/-! ## terms

The arguments of a call are a list of terms, so evaluating a term and evaluating a list of terms are
one mutual recursion. -/

mutual

/-- Evaluate a term in an environment, with `invoke` to run the bodies of called functions. -/
def evalWith (invoke : Term → Env → m Value) : Term → Env → m Value
  | .hole cause, _ => fault cause
  | .unknown _ none, _ => fault (.missingField "kind")
  | .unknown location (some kind), _ =>
    node kind.display location (fault (.unknownKind kind.display))
  | .bool location value, _ => node TermKind.bool.name location do
    return .bool (← orFault value)
  | .int location value, _ => node TermKind.int.name location do
    return .int (← orFault value)
  | .string location value, _ => node TermKind.string.name location do
    return .string (← orFault value)
  | .var location name, env => node TermKind.var.name location do
    orFail (env.lookup (← orFault name))
  | .function location parameters body, env => node TermKind.function.name location do
    return .closure (← orFault parameters) body env
  | .call location callee arguments, env => node TermKind.call.name location do
    let callee ← evalWith invoke callee env
    let closure ← orFail callee.asCallee
    let arguments ← evalAllWith invoke arguments env
    apply invoke callee closure arguments
  | .binary location op lhs rhs, env => node TermKind.binary.name location do
    let op ← orFault op
    let lhs ← evalWith invoke lhs env
    let rhs ← evalWith invoke rhs env
    orFail (op.apply lhs rhs)
  | .letIn location name value next, env => node TermKind.letIn.name location do
    let value ← evalWith invoke value env
    let name ← orFault name
    evalWith invoke next (env.bind name value)
  | .ifElse location condition consequent alternative, env =>
    node TermKind.ifElse.name location do
      let condition ← evalWith invoke condition env
      if ← orFail (condition.toBool (.text "if condition")) then
        evalWith invoke consequent env
      else
        evalWith invoke alternative env
  | .print location value, env => node TermKind.print.name location do
    printValue (← evalWith invoke value env)

/-- Evaluate terms from left to right. -/
def evalAllWith (invoke : Term → Env → m Value) : List Term → Env → m (List Value)
  | [], _ => pure []
  | term :: rest, env => do
    let value ← evalWith invoke term env
    let values ← evalAllWith invoke rest env
    return value :: values

end

/-- Evaluate a term among the effects of `m`, with at most `limit` calls inside each other. -/
def evalIn (m : Type → Type) [Effects m] : (limit : Nat) → Term → Env → m Value
  | 0 => evalWith fun _ _ => exhaust
  | limit + 1 => evalWith (evalIn m limit)

/-- Evaluate a term in a context. -/
def eval (limit : Nat) (term : Term) (env : Env) : Eval Value :=
  evalIn Eval limit term env

/-- Evaluate a root term.  If the machine cannot follow its calls, that is an error at the root
term, wherever it happened. -/
def evalRoot (limit : Nat) (term : Term) (env : Env) : Eval Value := fun context =>
  match term.eval limit env context with
  | (.exhausted, after) => (.failed ⟨.hostExhausted after.deepest, term.location⟩, after)
  | result => result

theorem evalRoot_of_exhausted {limit : Nat} {term : Term} {env : Env} {context after : Context}
    (h : term.eval limit env context = (.exhausted, after)) :
    term.evalRoot limit env context
      = (.failed ⟨.hostExhausted after.deepest, term.location⟩, after) := by
  rw [evalRoot, h]

/-- A root term is evaluated like any other if the machine can follow it. -/
theorem evalRoot_of_ne_exhausted {limit : Nat} {term : Term} {env : Env} {context : Context}
    (h : (term.eval limit env context).1 ≠ .exhausted) :
    term.evalRoot limit env context = term.eval limit env context := by
  rcases hrun : term.eval limit env context with ⟨_ | _ | _ | _, after⟩ <;>
    simp_all [evalRoot]

/-- Nothing more happens at the root. -/
@[simp] theorem evalRoot_snd (limit : Nat) (term : Term) (env : Env) (context : Context) :
    (term.evalRoot limit env context).2 = (term.eval limit env context).2 := by
  rcases hrun : term.eval limit env context with ⟨_ | _ | _ | _, after⟩ <;>
    rw [evalRoot, hrun]

/-- At the root the exhaustion of the machine is an error. -/
theorem evalRoot_fst_ne_exhausted (limit : Nat) (term : Term) (env : Env) (context : Context) :
    (term.evalRoot limit env context).1 ≠ .exhausted := by
  rcases hrun : term.eval limit env context with ⟨_ | _ | _ | _, after⟩ <;>
    simp [evalRoot, hrun]

/-- How a root run ends depends on how the run ends, and on how deep it got. -/
theorem evalRoot_fst_congr {limit : Nat} {term : Term} {env : Env} {one other : Context}
    (houtcome : (term.eval limit env one).1 = (term.eval limit env other).1)
    (hdeepest : (term.eval limit env one).2.deepest = (term.eval limit env other).2.deepest) :
    (term.evalRoot limit env one).1 = (term.evalRoot limit env other).1 := by
  by_cases hone : (term.eval limit env one).1 = .exhausted
  · have hother : (term.eval limit env other).1 = .exhausted := houtcome ▸ hone
    rw [evalRoot_of_exhausted (Prod.ext hone rfl), evalRoot_of_exhausted (Prod.ext hother rfl),
      hdeepest]
  · have hother : (term.eval limit env other).1 ≠ .exhausted := houtcome ▸ hone
    rw [evalRoot_of_ne_exhausted hone, evalRoot_of_ne_exhausted hother, houtcome]

end Term

end Rinha
