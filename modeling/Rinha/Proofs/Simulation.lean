import Rinha.Eval.Basic

/-!
# Rinha.Proofs.Simulation

The fundamental lemma of the evaluator.  The evaluator knows its computations only by the operations
of `Effects`, so two of its runs are related as soon as the operations are: a `Simulation` is a
relation between the computations of two monads that each operation keeps, and then

* `Simulation.evalWith` — evaluating a term in both monads gives related computations, if calling
  the bodies of functions does;
* `Simulation.evalIn` — the same at every limit, if the relation also survives a call and the
  exhaustion of the machine.

What every run of one monad does is the case in which both monads are the same and the relation
looks at one side only.
-/

namespace Rinha

open Effects

/-- A relation between computations that all operations but the call keep. -/
structure Simulation (m n : Type → Type) [Effects m] [Effects n] where
  rel : {α : Type} → m α → n α → Prop
  pure {α : Type} (result : α) : rel (pure result : m α) (pure result : n α)
  bind {α β : Type} {x : m α} {y : n α} {f : α → m β} {g : α → n β} :
    rel x y → (∀ result, rel (f result) (g result)) → rel (x >>= f) (y >>= g)
  fail {α : Type} (cause : Cause) : rel (fail cause : m α) (fail cause : n α)
  fault {α : Type} (cause : Fault) : rel (fault cause : m α) (fault cause : n α)
  emit (line : String) : rel (emit line : m Unit) (emit line : n Unit)
  trace (message : String) : rel (trace message : m Unit) (trace message : n Unit)
  traceWith (message : Except Fault String) :
    rel (traceWith message : m Unit) (traceWith message : n Unit)
  stamp {α : Type} {x : m α} {y : n α} (location : Option Data) :
    rel x y → rel (stamp location x) (stamp location y)

namespace Simulation

variable {m n : Type → Type} [Effects m] [Effects n] (S : Simulation m n)

/-! ## parts of one node -/

theorem orFail {α : Type} (result : Except Cause α) :
    S.rel (orFail result : m α) (orFail result : n α) := by
  cases result with
  | ok result => exact S.pure result
  | error cause => exact S.fail cause

theorem orFault {α : Type} (result : Except Fault α) :
    S.rel (orFault result : m α) (orFault result : n α) := by
  cases result with
  | ok result => exact S.pure result
  | error cause => exact S.fault cause

theorem node {α : Type} (kind : String) (location : Location) {x : m α} {y : n α}
    (h : S.rel x y) : S.rel (node kind location x) (node kind location y) :=
  S.bind (S.trace _) fun _ => S.stamp location h

theorem printValue (value : Value) :
    S.rel (printValue value : m Value) (printValue value : n Value) :=
  S.bind (S.orFail _) fun _ => S.bind (S.emit _) fun _ => S.pure value

theorem callEnv (closure : Closure) (arguments : List Value) :
    S.rel (callEnv closure arguments : m Env) (callEnv closure arguments : n Env) := by
  unfold Effects.callEnv
  split
  · exact S.fail _
  · exact S.orFault _

/-! ## terms -/

variable {invoke : Term → Env → m Value} {invoke' : Term → Env → n Value}

theorem apply (h : ∀ body env, S.rel (inCall (invoke body env)) (inCall (invoke' body env)))
    (callee : Value) (closure : Closure) (arguments : List Value) :
    S.rel (apply invoke callee closure arguments) (apply invoke' callee closure arguments) :=
  S.bind (S.callEnv closure arguments) fun env =>
    S.bind (S.traceWith _) fun _ => h closure.body env

theorem evalAllWith {terms : List Term} {env : Env}
    (h : ∀ term ∈ terms, S.rel (term.evalWith invoke env) (term.evalWith invoke' env)) :
    S.rel (Term.evalAllWith invoke terms env) (Term.evalAllWith invoke' terms env) := by
  induction terms with
  | nil => exact S.pure []
  | cons term rest ih =>
    rw [List.forall_mem_cons] at h
    exact S.bind h.1 fun _ => S.bind (ih h.2) fun _ => S.pure _

/-- Evaluating a term gives related computations, if calling the bodies of functions does. -/
theorem evalWith (h : ∀ body env, S.rel (inCall (invoke body env)) (inCall (invoke' body env)))
    (term : Term) (env : Env) :
    S.rel (term.evalWith invoke env) (term.evalWith invoke' env) := by
  induction term generalizing env with
  | hole cause => exact S.fault cause
  | unknown location kind =>
    cases kind with
    | none => exact S.fault _
    | some kind => exact S.node _ location (S.fault _)
  | bool location value => exact S.node _ location (S.bind (S.orFault value) fun _ => S.pure _)
  | int location value => exact S.node _ location (S.bind (S.orFault value) fun _ => S.pure _)
  | string location value =>
    exact S.node _ location (S.bind (S.orFault value) fun _ => S.pure _)
  | var location name => exact S.node _ location (S.bind (S.orFault name) fun _ => S.orFail _)
  | function location parameters body =>
    exact S.node _ location (S.bind (S.orFault parameters) fun _ => S.pure _)
  | call location callee arguments ihcallee iharguments =>
    refine S.node _ location (S.bind (ihcallee env) fun callee => ?_)
    refine S.bind (S.orFail callee.asCallee) fun closure => ?_
    refine S.bind (S.evalAllWith fun argument hmem => iharguments argument hmem env) ?_
    exact fun values => S.apply h callee closure values
  | binary location op lhs rhs ihlhs ihrhs =>
    refine S.node _ location (S.bind (S.orFault op) fun op => ?_)
    exact S.bind (ihlhs env) fun a => S.bind (ihrhs env) fun b => S.orFail (op.apply a b)
  | letIn location name value next ihvalue ihnext =>
    refine S.node _ location (S.bind (ihvalue env) fun value => ?_)
    exact S.bind (S.orFault name) fun name => ihnext (env.bind name value)
  | ifElse location condition consequent alternative ihcondition ihconsequent ihalternative =>
    refine S.node _ location (S.bind (ihcondition env) fun value => ?_)
    refine S.bind (S.orFail _) fun chosen => ?_
    cases chosen with
    | true => exact ihconsequent env
    | false => exact ihalternative env
  | print location value ihvalue =>
    exact S.node _ location (S.bind (ihvalue env) fun value => S.printValue value)

/-- Evaluating a term gives related computations at every limit. -/
theorem evalIn
    (hcall : ∀ {α : Type} {x : m α} {y : n α}, S.rel x y → S.rel (inCall x) (inCall y))
    (hexhaust : S.rel (exhaust : m Value) (exhaust : n Value))
    (limit : Nat) (term : Term) (env : Env) :
    S.rel (term.evalIn m limit env) (term.evalIn n limit env) := by
  induction limit generalizing term env with
  | zero => exact S.evalWith (fun _ _ => hcall hexhaust) term env
  | succ limit ih => exact S.evalWith (fun body env => hcall (ih body env)) term env

end Simulation

end Rinha
