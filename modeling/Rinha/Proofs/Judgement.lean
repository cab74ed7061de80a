import Rinha.Eval.Basic
import Rinha.Proofs.OperatorRules

/-!
# Rinha.Proofs.Judgement

Judgements that evaluation keeps.  A `Judgement` holds of terms in environments, of values, and of
the ways in which a run may end without a value.  It is one if it is closed under what the evaluator
does:

1. the parts of a term that is judged are judged in the same environment, and what follows a let is
   judged once the name is bound to a judged value;
2. a function that is made in a judged place is a judged value, and its body is judged wherever its
   parameters are bound to judged arguments;
3. what goes wrong in a judged place is one of the causes or one of the faults of the judgement.

Two runs of one term that go side by side are then related, in two monads or in one, if each
operation of `Effects` keeps the relation on judged values (`Judgement.Simulation.evalIn`).
-/

namespace Rinha

open Effects

/-! ## what an evaluation is made of -/

/-- A term is evaluated as a part of another one, in the same environment. -/
inductive Term.Embeds : Term → Term → Prop where
  | callee {location callee arguments} : Embeds (.call location callee arguments) callee
  | argument {location callee arguments argument} :
    argument ∈ arguments → Embeds (.call location callee arguments) argument
  | lhs {location op lhs rhs} : Embeds (.binary location op lhs rhs) lhs
  | rhs {location op lhs rhs} : Embeds (.binary location op lhs rhs) rhs
  | value {location name value next} : Embeds (.letIn location name value next) value
  | condition {location condition consequent alternative} :
    Embeds (.ifElse location condition consequent alternative) condition
  | consequent {location condition consequent alternative} :
    Embeds (.ifElse location condition consequent alternative) consequent
  | alternative {location condition consequent alternative} :
    Embeds (.ifElse location condition consequent alternative) alternative
  | printed {location value} : Embeds (.print location value) value

/-- A fault that a term has in itself. -/
inductive Term.Malformed : Term → Fault → Prop where
  | hole {fault} : Malformed (.hole fault) fault
  | noKind {location} : Malformed (.unknown location none) (.missingField "kind")
  | unknown {location kind} :
    Malformed (.unknown location (some kind)) (.unknownKind kind.display)
  | bool {location fault} : Malformed (.bool location (.error fault)) fault
  | int {location fault} : Malformed (.int location (.error fault)) fault
  | string {location fault} : Malformed (.string location (.error fault)) fault
  | var {location fault} : Malformed (.var location (.error fault)) fault
  | function {location fault body} : Malformed (.function location (.error fault) body) fault
  | binary {location fault lhs rhs} : Malformed (.binary location (.error fault) lhs rhs) fault
  | letIn {location fault value next} :
    Malformed (.letIn location (.error fault) value next) fault

/-- A cause that lies in the values that an operation or a call is given. -/
inductive Cause.OfValues : Cause → Prop where
  | typeMismatch {expected actual context} : OfValues (.typeMismatch expected actual context)
  | unsupportedOperation {lhs rhs} : OfValues (.unsupportedOperation lhs rhs)
  | missingArgument {parameter} : OfValues (.missingArgument parameter)
  | divisionByZero {op} : OfValues (.divisionByZero op)

theorem BinaryOp.Refuses.ofValues {op : BinaryOp} {lhs rhs : Value} {cause : Cause}
    (h : op.Refuses lhs rhs cause) : cause.OfValues := by
  cases h with
  | mismatch _ hmismatch => cases hmismatch <;> exact .typeMismatch
  | zero _ => exact .divisionByZero
  | incomparable _ _ => exact .unsupportedOperation

/-! ## judgements -/

/-- What evaluation keeps: of terms in environments, of values, and of ways to end without one. -/
structure Judgement where
  term : Term → Env → Prop
  value : Value → Prop
  cause : Cause → Prop
  fault : Fault → Prop
  bool (b : Bool) : value (.bool b)
  int (n : Int) : value (.int n)
  string (s : String) : value (.string s)
  part {whole inner : Term} {env : Env} : term whole env → whole.Embeds inner → term inner env
  next {location : Location} {name : Name} {bound next : Term} {env : Env} {result : Value} :
    term (.letIn location (.ok name) bound next) env → value result →
      term next (env.bind name result)
  found {location : Location} {name : Name} {env : Env} {result : Value} :
    term (.var location (.ok name)) env → env.lookup name = .ok result → value result
  function {location : Location} {parameters : List Data} {body : Term} {env : Env} :
    term (.function location (.ok parameters) body) env → value (.closure parameters body env)
  body {parameters : List Data} {body : Term} {captured env : Env} {arguments : List Value} :
    value (.closure parameters body captured) → (∀ argument ∈ arguments, value argument) →
      parameters.length ≤ arguments.length → captured.bindAll parameters arguments = .ok env →
      term body env
  ofValues {error : Cause} : error.OfValues → cause error
  unbound {location : Location} {name : Name} {env : Env} {error : Cause} :
    term (.var location (.ok name)) env → env.lookup name = .error error → cause error
  malformed {whole : Term} {env : Env} {error : Fault} :
    term whole env → whole.Malformed error → fault error
  unbindable {parameters : List Data} {body : Term} {captured : Env} {arguments : List Value}
    {error : Fault} :
    value (.closure parameters body captured) → (∀ argument ∈ arguments, value argument) →
      captured.bindAll parameters arguments = .error error → fault error
  untold {callee : Value} {arguments : List Value} {error : Fault} :
    value callee → (∀ argument ∈ arguments, value argument) →
      callMessage callee arguments = .error error → fault error

namespace Judgement

/-- Operators give nothing but bools, ints and strings. -/
theorem computed (J : Judgement) {op : BinaryOp} {lhs rhs result : Value}
    (h : op.Computes lhs rhs result) : J.value result := by
  cases h with
  | concat => exact J.string _
  | add | sub | mul => exact J.int _
  | div _ | rem _ => exact J.int _
  | lt | gt | lte | gte | and | or => exact J.bool _
  | eq _ | neq _ => exact J.bool _

/-- A relation between computations, by what their results satisfy, that all operations but the call
keep in judged places. -/
structure Simulation (J : Judgement) (m n : Type → Type) [Effects m] [Effects n] where
  rel : {α : Type} → (α → Prop) → m α → n α → Prop
  pure {α : Type} {P : α → Prop} {result : α} :
    P result → rel P (pure result : m α) (pure result : n α)
  bind {α β : Type} {P : α → Prop} {Q : β → Prop} {x : m α} {y : n α} {f : α → m β}
    {g : α → n β} :
    rel P x y → (∀ result, P result → rel Q (f result) (g result)) → rel Q (x >>= f) (y >>= g)
  fail {α : Type} {P : α → Prop} {cause : Cause} :
    J.cause cause → rel P (fail cause : m α) (fail cause : n α)
  fault {α : Type} {P : α → Prop} {cause : Fault} :
    J.fault cause → rel P (Effects.fault cause : m α) (Effects.fault cause : n α)
  emit (line : String) : rel (fun _ => True) (emit line : m Unit) (emit line : n Unit)
  trace (message : String) : rel (fun _ => True) (trace message : m Unit) (trace message : n Unit)
  traceCall {callee : Value} {arguments : List Value} :
    J.value callee → (∀ argument ∈ arguments, J.value argument) →
      rel (fun _ => True) (traceWith (callMessage callee arguments) : m Unit)
        (traceWith (callMessage callee arguments) : n Unit)
  stamp {α : Type} {P : α → Prop} {x : m α} {y : n α} (location : Option Data) :
    rel P x y → rel P (stamp location x) (stamp location y)

namespace Simulation

variable {J : Judgement} {m n : Type → Type} [Effects m] [Effects n] (S : J.Simulation m n)

/-! ## parts of one node -/

theorem orFail {α : Type} {P : α → Prop} {x : Except Cause α}
    (hok : ∀ result, x = .ok result → P result)
    (herror : ∀ cause, x = .error cause → J.cause cause) :
    S.rel P (orFail x : m α) (orFail x : n α) := by
  cases x with
  | ok result => exact S.pure (hok result rfl)
  | error cause => exact S.fail (herror cause rfl)

theorem orFault {α : Type} {P : α → Prop} {x : Except Fault α}
    (hok : ∀ result, x = .ok result → P result)
    (herror : ∀ fault, x = .error fault → J.fault fault) :
    S.rel P (orFault x : m α) (orFault x : n α) := by
  cases x with
  | ok result => exact S.pure (hok result rfl)
  | error cause => exact S.fault (herror cause rfl)

theorem node {α : Type} {P : α → Prop} (kind : String) (location : Location) {x : m α} {y : n α}
    (h : S.rel P x y) : S.rel P (node kind location x) (node kind location y) :=
  S.bind (S.trace _) fun _ _ => S.stamp location h

/-- A field of a judged term that is there or a fault. -/
theorem field {α : Type} {whole : Term} {env : Env} (hterm : J.term whole env)
    {payload : Except Fault α} (hfault : ∀ fault, payload = .error fault → whole.Malformed fault) :
    S.rel (fun result => payload = .ok result) (Effects.orFault payload : m α)
      (Effects.orFault payload : n α) :=
  S.orFault (fun _ hresult => hresult) fun fault h => J.malformed hterm (hfault fault h)

/-- A literal whose payload is there or a fault. -/
theorem literal {α : Type} {whole : Term} {env : Env} (hterm : J.term whole env) (kind : String)
    (location : Location) {payload : Except Fault α} {make : α → Value}
    (hvalue : ∀ result, J.value (make result))
    (hfault : ∀ fault, payload = .error fault → whole.Malformed fault) :
    S.rel J.value
      (Effects.node kind location (do return make (← Effects.orFault payload)) : m Value)
      (Effects.node kind location (do return make (← Effects.orFault payload)) : n Value) := by
  exact S.node kind location (S.bind (S.field hterm hfault) fun result _ => S.pure (hvalue result))

theorem printValue {value : Value} (h : J.value value) :
    S.rel J.value (printValue value : m Value) (printValue value : n Value) := by
  have htext : S.rel (fun _ => True) (Effects.orFail (value.toText (.text "print")) : m String)
      (Effects.orFail (value.toText (.text "print")) : n String) := by
    apply S.orFail (fun _ _ => trivial)
    intro cause hcause
    obtain ⟨-, rfl⟩ := Value.toText_eq_error_iff.mp hcause
    exact J.ofValues .typeMismatch
  exact S.bind htext fun line _ => S.bind (S.emit line) fun _ _ => S.pure h

/-! ## calls -/

variable {invoke : Term → Env → m Value} {invoke' : Term → Env → n Value}

theorem callEnv {closure : Closure} {arguments : List Value}
    (hclosure : J.value (.closure closure.parameters closure.body closure.env))
    (harguments : ∀ argument ∈ arguments, J.value argument) :
    S.rel (J.term closure.body) (callEnv closure arguments : m Env)
      (callEnv closure arguments : n Env) := by
  unfold Effects.callEnv
  split
  · exact S.fail (J.ofValues .missingArgument)
  · next hdrop =>
    have hle : closure.parameters.length ≤ arguments.length := List.drop_eq_nil_iff.mp hdrop
    exact S.orFault (fun _ henv => J.body hclosure harguments hle henv)
      fun _ hfault => J.unbindable hclosure harguments hfault

theorem apply
    (h : ∀ {body env}, J.term body env →
      S.rel J.value (inCall (invoke body env)) (inCall (invoke' body env)))
    {callee : Value} {closure : Closure} {arguments : List Value} (hcallee : J.value callee)
    (hclosure : callee.asCallee = .ok closure)
    (harguments : ∀ argument ∈ arguments, J.value argument) :
    S.rel J.value (apply invoke callee closure arguments)
      (apply invoke' callee closure arguments) := by
  have hfunction : J.value (.closure closure.parameters closure.body closure.env) := by
    rwa [← Value.toClosure_eq_ok_iff.mp hclosure]
  exact S.bind (S.callEnv hfunction harguments) fun env henv =>
    S.bind (S.traceCall hcallee harguments) fun _ _ => h henv

theorem evalAllWith {terms : List Term} {env : Env}
    (h : ∀ term ∈ terms, S.rel J.value (term.evalWith invoke env) (term.evalWith invoke' env)) :
    S.rel (fun values => ∀ value ∈ values, J.value value) (Term.evalAllWith invoke terms env)
      (Term.evalAllWith invoke' terms env) := by
  induction terms with
  | nil => exact S.pure (by simp)
  | cons term rest ih =>
    rw [List.forall_mem_cons] at h
    exact S.bind h.1 fun value hvalue => S.bind (ih h.2) fun values hvalues =>
      S.pure (List.forall_mem_cons.mpr ⟨hvalue, hvalues⟩)

/-! ## terms -/

/-- Evaluating a judged term gives related computations with judged results, if calling judged
bodies does. -/
theorem evalWith
    (h : ∀ {body env}, J.term body env →
      S.rel J.value (inCall (invoke body env)) (inCall (invoke' body env)))
    {term : Term} {env : Env} (hterm : J.term term env) :
    S.rel J.value (term.evalWith invoke env) (term.evalWith invoke' env) := by
  induction term generalizing env with
  | hole cause => exact S.fault (J.malformed hterm .hole)
  | unknown location kind =>
    cases kind with
    | none => exact S.fault (J.malformed hterm .noKind)
    | some kind => exact S.node _ location (S.fault (J.malformed hterm .unknown))
  | bool location value =>
    exact S.literal hterm _ location J.bool fun _ hfault => hfault ▸ .bool
  | int location value =>
    exact S.literal hterm _ location J.int fun _ hfault => hfault ▸ .int
  | string location value =>
    exact S.literal hterm _ location J.string fun _ hfault => hfault ▸ .string
  | var location name =>
    have hname := S.field hterm fun _ (hfault : name = .error _) => hfault ▸ .var
    apply S.node _ location (S.bind hname _)
    rintro name rfl
    exact S.orFail (fun _ => J.found hterm) fun _ => J.unbound hterm
  | function location parameters body =>
    have hparameters := S.field hterm fun _ (hfault : parameters = .error _) => hfault ▸ .function
    apply S.node _ location (S.bind hparameters _)
    rintro parameters rfl
    exact S.pure (J.function hterm)
  | call location callee arguments ihcallee iharguments =>
    apply S.node _ location (S.bind (ihcallee (J.part hterm .callee)) _)
    intro function hfunction
    have hclosure : S.rel (fun closure => function.asCallee = .ok closure)
        (Effects.orFail function.asCallee : m Closure)
        (Effects.orFail function.asCallee : n Closure) := by
      apply S.orFail (fun _ hresult => hresult)
      intro cause hcause
      obtain ⟨-, rfl⟩ := Value.toClosure_eq_error_iff.mp hcause
      exact J.ofValues .typeMismatch
    have harguments := S.evalAllWith fun argument hmem =>
      iharguments argument hmem (J.part hterm (.argument hmem))
    exact S.bind hclosure fun closure hcallee =>
      S.bind harguments fun values hvalues => S.apply h hfunction hcallee hvalues
  | binary location op lhs rhs ihlhs ihrhs =>
    have hop := S.field hterm fun _ (hfault : op = .error _) => hfault ▸ .binary
    have hresult (op : BinaryOp) (a b : Value) :
        S.rel J.value (Effects.orFail (op.apply a b) : m Value)
          (Effects.orFail (op.apply a b) : n Value) :=
      S.orFail (fun _ hvalue => J.computed (BinaryOp.computes_of_apply_eq_ok hvalue))
        fun _ hcause => J.ofValues (BinaryOp.apply_eq_error_iff.mp hcause).ofValues
    exact S.node _ location (S.bind hop fun op _ =>
      S.bind (ihlhs (J.part hterm .lhs)) fun a _ =>
        S.bind (ihrhs (J.part hterm .rhs)) fun b _ => hresult op a b)
  | letIn location name value next ihvalue ihnext =>
    have hname := S.field hterm fun _ (hfault : name = .error _) => hfault ▸ .letIn
    apply S.node _ location (S.bind (ihvalue (J.part hterm .value)) _)
    intro result hresult
    apply S.bind hname
    rintro name rfl
    exact ihnext (J.next hterm hresult)
  | ifElse location condition consequent alternative ihcondition ihconsequent ihalternative =>
    apply S.node _ location (S.bind (ihcondition (J.part hterm .condition)) _)
    intro value _
    have hchosen : S.rel (fun _ => True)
        (Effects.orFail (value.toBool (.text "if condition")) : m Bool)
        (Effects.orFail (value.toBool (.text "if condition")) : n Bool) := by
      apply S.orFail (fun _ _ => trivial)
      intro cause hcause
      obtain ⟨-, rfl⟩ := Value.toBool_eq_error_iff.mp hcause
      exact J.ofValues .typeMismatch
    apply S.bind hchosen
    intro chosen _
    cases chosen with
    | true => exact ihconsequent (J.part hterm .consequent)
    | false => exact ihalternative (J.part hterm .alternative)
  | print location value ihvalue =>
    exact S.node _ location (S.bind (ihvalue (J.part hterm .printed)) fun value hvalue =>
      S.printValue hvalue)

/-- Evaluating a judged term gives related computations with judged results at every limit, if the
relation also survives a call and the exhaustion of the machine. -/
theorem evalIn
    (hcall : ∀ {x : m Value} {y : n Value}, S.rel J.value x y →
      S.rel J.value (inCall x) (inCall y))
    (hexhaust : S.rel J.value (exhaust : m Value) (exhaust : n Value))
    (limit : Nat) {term : Term} {env : Env} (hterm : J.term term env) :
    S.rel J.value (term.evalIn m limit env) (term.evalIn n limit env) := by
  induction limit generalizing term env with
  | zero => exact S.evalWith (fun _ => hcall hexhaust) hterm
  | succ limit ih => exact S.evalWith (fun hbody => hcall (ih hbody)) hterm

end Simulation

end Judgement

end Rinha
