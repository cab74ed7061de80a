import Rinha.Proofs.Unlocated

/-!
# Rinha.Proofs.LocationFree

Locations are for diagnostics only.  Programs that differ in nothing but locations do the same in
every context, and end with results or errors that differ in nothing but locations
(`Term.SameButLocations`).

Both programs are compared with the one that has no locations at all: a term and its like without
locations do the same (`Term.unlocates_evalWith`, by induction on the term; `Term.unlocates_eval`,
by induction on the limit), and two runs that compare with the same third one compare with each
other (`Eval.Related.join`).
-/

namespace Rinha

open Effects

/-! ## what a call takes out of a function -/

/-- The parts of a function without the locations in them. -/
def Closure.unlocated (closure : Closure) : Closure :=
  ⟨closure.parameters, closure.body.unlocated, closure.env.unlocated⟩

theorem Value.asCallee_unlocated (value : Value) :
    value.unlocated.asCallee = Closure.unlocated <$> value.asCallee := by
  cases value <;> rfl

theorem Env.lookup_unlocated (env : Env) (name : Name) :
    env.unlocated.lookup name = Value.unlocated <$> env.lookup name := by
  rw [lookup, lookup, lookup?_unlocated]
  cases env.lookup? name <;> rfl

namespace Term

/-! ## a term and its like without locations -/

/-- Runs that end in errors of the same cause, or the second one in what `f` makes of the result of
the first, which is to take its locations away. -/
abbrev Unlocates {α β : Type} (f : α → β) : Eval α → Eval β → Prop :=
  Eval.Related (fun e e' => e.cause = e'.cause) fun a b => f a = b

theorem unlocates_node {α β : Type} {f : α → β} (kind : String)
    {location location' : Location} {x : Eval α} {y : Eval β} (h : Unlocates f x y) :
    Unlocates f (node kind location x) (node kind location' y) :=
  .node kind (fun _ _ he => he) h

/-- What cannot be read is as unreadable without locations. -/
theorem unlocates_orFault_bind {α β γ : Type} {f : α → β} (x : Except Fault γ)
    {next : γ → Eval α} {next' : γ → Eval β}
    (h : ∀ result, Unlocates f (next result) (next' result)) :
    Unlocates f (orFault x >>= next) (orFault x >>= next') := by
  cases x with
  | error cause => exact .fault cause
  | ok result => exact h result

/-- What is refused is refused for the same cause without locations. -/
theorem unlocates_orFail_bind {α β γ : Type} {f : α → β} (x : Except Cause γ)
    {next : γ → Eval α} {next' : γ → Eval β}
    (h : ∀ result, Unlocates f (next result) (next' result)) :
    Unlocates f (orFail x >>= next) (orFail x >>= next') := by
  cases x with
  | error cause => exact .fail rfl
  | ok result => exact h result

/-- A partial operation that commutes with `f` fails for the same cause, or its results are related
by `f`. -/
theorem unlocates_orFail_map {α β : Type} (f : α → β) (x : Except Cause α) :
    Unlocates f (orFail x) (orFail (f <$> x)) :=
  .orFail ((ExceptRel.map_right f x).mono fun _ _ hcause => hcause)

theorem unlocates_callEnv (closure : Closure) (arguments : List Value) :
    Unlocates Env.unlocated (callEnv closure arguments)
      (callEnv closure.unlocated (arguments.map Value.unlocated)) := by
  unfold callEnv
  simp only [List.length_map, Closure.unlocated, Env.bindAll_unlocated]
  cases closure.parameters.drop arguments.length with
  | cons parameter rest => exact .fail rfl
  | nil => exact .orFault (.map_right Env.unlocated _)

variable {invoke : Term → Env → Eval Value}

theorem unlocates_apply
    (hinvoke : ∀ body env, Unlocates Value.unlocated (inCall (invoke body env))
      (inCall (invoke body.unlocated env.unlocated)))
    (callee : Value) (closure : Closure) (arguments : List Value) :
    Unlocates Value.unlocated (apply invoke callee closure arguments)
      (apply invoke callee.unlocated closure.unlocated (arguments.map Value.unlocated)) := by
  have hmessage : callMessage callee arguments
      = callMessage callee.unlocated (arguments.map Value.unlocated) :=
    callMessage_eq callee.alike_unlocated
      (List.forall₂_map_right_iff.mpr
        (List.forall₂_same.mpr fun value _ => value.alike_unlocated))
  refine .bind (unlocates_callEnv closure arguments) fun env env' henv => ?_
  rw [← hmessage, ← henv]
  exact .bind (.traceWith _) fun _ _ _ => hinvoke closure.body env

theorem unlocates_evalAllWith {terms : List Term} {env : Env}
    (h : ∀ term ∈ terms, Unlocates Value.unlocated (term.evalWith invoke env)
      (term.unlocated.evalWith invoke env.unlocated)) :
    Unlocates (List.map Value.unlocated) (evalAllWith invoke terms env)
      (evalAllWith invoke (unlocatedAll terms) env.unlocated) := by
  induction terms with
  | nil => exact .pure rfl
  | cons term rest ih =>
    rw [List.forall_mem_cons] at h
    refine .bind h.1 fun value value' hvalue => .bind (ih h.2) fun values values' hvalues => ?_
    exact .pure (by rw [List.map_cons, hvalue, hvalues])

/-- A term does the same without its locations, if the bodies of functions do. -/
theorem unlocates_evalWith
    (hinvoke : ∀ body env, Unlocates Value.unlocated (inCall (invoke body env))
      (inCall (invoke body.unlocated env.unlocated)))
    (term : Term) (env : Env) :
    Unlocates Value.unlocated (term.evalWith invoke env)
      (term.unlocated.evalWith invoke env.unlocated) := by
  induction term generalizing env with
  | hole cause => exact .fault cause
  | unknown location kind =>
    cases kind with
    | none => exact .fault _
    | some kind => exact unlocates_node _ (.fault _)
  | bool location value | int location value | string location value =>
    exact unlocates_node _ (unlocates_orFault_bind value fun _ => .pure rfl)
  | var location name =>
    refine unlocates_node _ (unlocates_orFault_bind name fun name => ?_)
    rw [Env.lookup_unlocated]
    exact unlocates_orFail_map Value.unlocated _
  | function location parameters body =>
    exact unlocates_node _ (unlocates_orFault_bind parameters fun _ => .pure rfl)
  | call location callee arguments ihcallee iharguments =>
    have harguments : Unlocates (List.map Value.unlocated) (evalAllWith invoke arguments env)
        (evalAllWith invoke (unlocatedAll arguments) env.unlocated) :=
      unlocates_evalAllWith fun argument hmem => iharguments argument hmem env
    refine unlocates_node _ (.bind (ihcallee env) fun function function' hfunction => ?_)
    rw [← hfunction, Value.asCallee_unlocated]
    refine .bind (unlocates_orFail_map _ _) fun closure closure' hclosure => ?_
    refine .bind harguments fun values values' hvalues => ?_
    rw [← hclosure, ← hvalues]
    exact unlocates_apply hinvoke function closure values
  | binary location op lhs rhs ihlhs ihrhs =>
    refine unlocates_node _ (unlocates_orFault_bind op fun op => ?_)
    refine .bind (ihlhs env) fun a a' ha => .bind (ihrhs env) fun b b' hb => ?_
    rw [← ha, ← hb, ← a.alike_unlocated.akin.apply_eq b.alike_unlocated.akin op]
    cases hresult : op.apply a b with
    | error cause => exact .fail rfl
    | ok result => exact .pure (BinaryOp.computes_of_apply_eq_ok hresult).unlocated_eq
  | letIn location name value next ihvalue ihnext =>
    refine unlocates_node _ (.bind (ihvalue env) fun value value' hvalue => ?_)
    refine unlocates_orFault_bind name fun name => ?_
    rw [← hvalue, ← Env.unlocated_bind]
    exact ihnext (env.bind name value)
  | ifElse location condition consequent alternative ihcondition ihconsequent ihalternative =>
    refine unlocates_node _ (.bind (ihcondition env) fun value value' hvalue => ?_)
    rw [← hvalue, ← value.alike_unlocated.akin.toBool_eq]
    refine unlocates_orFail_bind _ fun chosen => ?_
    cases chosen with
    | true => exact ihconsequent env
    | false => exact ihalternative env
  | print location value ihvalue =>
    refine unlocates_node _ (.bind (ihvalue env) fun value value' hvalue => ?_)
    rw [← hvalue]
    refine .printValue (fun _ => ?_) value.alike_unlocated ?_ <;> rfl

theorem unlocates_eval (limit : Nat) (term : Term) (env : Env) :
    Unlocates Value.unlocated (term.eval limit env)
      (term.unlocated.eval limit env.unlocated) := by
  induction limit generalizing term env with
  | zero => exact unlocates_evalWith (fun _ _ => .inCall (fun _ => rfl) .exhaust) term env
  | succ limit ih =>
    exact unlocates_evalWith (fun body env => .inCall (fun _ => rfl) (ih body env)) term env

/-! ## two terms -/

/-- Runs that differ in nothing but locations: in every context they leave the same context behind,
with the same lines printed, the same trace and the same depths, and they end in values that are the
same without locations, in errors of the same cause, or in the same fault. -/
abbrev SameButLocations : Eval Value → Eval Value → Prop :=
  Eval.Related (fun e e' => e.cause = e'.cause) fun value value' =>
    value.unlocated = value'.unlocated

theorem same_eval (limit : Nat) {term term' : Term} {env env' : Env}
    (hterm : term.unlocated = term'.unlocated) (henv : env.unlocated = env'.unlocated) :
    SameButLocations (term.eval limit env) (term'.eval limit env') := by
  have hone := unlocates_eval limit term env
  have hother := unlocates_eval limit term' env'
  rw [← hterm, ← henv] at hother
  exact hone.join hother (fun _ _ _ he he' => he.trans he'.symm)
    fun _ _ _ hvalue hvalue' => hvalue.trans hvalue'.symm

/-- Locations are for diagnostics only.

* Data that is the same without the locations of terms, of let names and of parameters is read as
  terms that are the same without locations.
* Such terms, in environments whose functions are the same without locations, do the same in every
  context, whether they are evaluated as roots or not, and end in the same way: locations are all
  that the values or the errors differ in. -/
theorem run_same_but_locations (limit : Nat) :
    (∀ data data' : Data, data.unlocated .term = data'.unlocated .term →
      (ofData data).unlocated = (ofData data').unlocated) ∧
    ∀ (term term' : Term) (env env' : Env), term.unlocated = term'.unlocated →
      env.unlocated = env'.unlocated →
      SameButLocations (term.eval limit env) (term'.eval limit env') ∧
        SameButLocations (term.evalRoot limit env) (term'.evalRoot limit env') := by
  constructor
  · intro data data' h
    rw [← ofData_unlocated, ← ofData_unlocated, h]
  · intro term term' env env' hterm henv
    have hrun := same_eval limit hterm henv
    exact ⟨hrun, hrun.evalRoot fun _ => rfl⟩

/-- A call with its location of a function whose body has one, and the same without any: the body
looks up a name that nothing binds, so one run ends in an error with a location and the other in one
without. -/
theorem run_same_but_locations_call :
    let place : String × Data := ("location", .object [("start", .int 3)])
    let printed : Data := .object [("kind", .text "Print"), place,
      ("value", .object [("kind", .text "String"), ("value", .text "hi")])]
    let bare : Data := .object [("kind", .text "Print"),
      ("value", .object [("kind", .text "String"), ("location", .null), ("value", .text "hi")])]
    let call (argument : Data) (fields : List (String × Data)) : Data :=
      .object ([("kind", .text "Call"), ("arguments", .list [argument]),
        ("callee", .object [("kind", .text "Var"), ("text", .text "f")])] ++ fields)
    let function (location : Location) : Value :=
      .closure [.text "x"] (.var location (.ok (.text "y"))) .empty
    let env (location : Location) := Env.empty.bind (.text "f") (function location)
    let data := call printed [place]
    let data' := call bare []
    data.unlocated .term = data'.unlocated .term ∧
      (env (some place.2)).unlocated = (env none).unlocated ∧
      SameButLocations ((ofData data).eval 1 (env (some place.2)))
        ((ofData data').eval 1 (env none)) ∧
      SameButLocations ((ofData data).evalRoot 1 (env (some place.2)))
        ((ofData data').evalRoot 1 (env none)) := by
  intro place printed bare call function env data data'
  have hdata : data.unlocated .term = data'.unlocated .term := rfl
  have henv : (env (some place.2)).unlocated = (env none).unlocated := rfl
  obtain ⟨hread, hrun⟩ := run_same_but_locations 1
  obtain ⟨heval, hroot⟩ := hrun _ _ _ _ (hread data data' hdata) henv
  exact ⟨hdata, henv, heval, hroot⟩

end Term

end Rinha
