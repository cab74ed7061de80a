import Rinha.Proofs.TermShape
import Rinha.Proofs.Tracing

/-!
# Rinha.Proofs.LetAsCall

A let does what the call of a function with one parameter does:

```
let x = value; next        (fn (x) => next)(value)
```

The one evaluates `next` at the depth of the let, the other one call deeper.  Where calls are not
limited and nothing is traced, the depth makes no difference to a run, and neither does the limit of
the machine unless it is exhausted (`Logged.Concurs`, `Term.concurs_evalIn`).  So both print the
same lines and end in the same way, and nothing but the greatest depth tells them apart
(`Eval.SameButDeepest`).
-/

namespace Rinha

open Effects

/-! ## contexts in which the depth makes no difference -/

/-- A context in which calls are not limited and nothing is traced. -/
structure Context.Quiet (context : Context) : Prop where
  maxDepth : context.maxDepth = none
  debug : context.debug = false

namespace Context

theorem Quiet.after {context : Context} (h : context.Quiet) (events : List Event) :
    (context.after events).Quiet :=
  ⟨by rw [maxDepth_after, h.maxDepth], by rw [debug_after, h.debug]⟩

theorem Quiet.enter {context : Context} (h : context.Quiet) : context.enter.Quiet :=
  ⟨h.maxDepth, h.debug⟩

/-- Where nothing is traced, events that print the same lines and lead to the same depth differ in
nothing but the greatest depth. -/
theorem after_eq_of_printedLines {context : Context} (hdebug : context.debug = false)
    {events more : List Event} (hlines : printedLines events = printedLines more)
    (hdepth : (context.after events).depth = (context.after more).depth) :
    context.after more
      = { context.after events with deepest := (context.after more).deepest } := by
  have hstreams : (context.after events).streams = (context.after more).streams := by
    obtain ⟨text, htext⟩ := context.streams_after events
    obtain ⟨text', htext'⟩ := context.streams_after more
    have htrace := trace_after_of_not_debug hdebug events
    have htrace' := trace_after_of_not_debug hdebug more
    rw [htext] at htrace
    rw [htext'] at htrace'
    dsimp only at htrace htrace'
    rw [htext, htext', hlines, htrace, htrace']
  obtain ⟨hsink, hdebug', hmax⟩ := context.settings_after events
  obtain ⟨hsink', hdebug'', hmax'⟩ := context.settings_after more
  rw [← hsink'] at hsink
  rw [← hdebug''] at hdebug'
  rw [← hmax'] at hmax
  dsimp only
  rw [hsink, hdebug', hmax, hdepth, hstreams]

end Context

/-- Two computations that end in the same way and print the same lines in all quiet contexts,
whatever the depths are, unless one of them is exhausted. -/
def Logged.Concurs {α : Type} (x y : Logged α) : Prop :=
  ∀ one other : Context, one.Quiet → other.Quiet →
    (x one).1 = .exhausted ∨ (y other).1 = .exhausted ∨
      (x one).1 = (y other).1 ∧ printedLines (x one).2 = printedLines (y other).2

namespace Logged.Concurs

variable {α β : Type} {x y : Logged α}

/-- A computation that does the same in all contexts, beside what is traced. -/
theorem of_eq (h : ∀ one other, (x one).1 = (y other).1 ∧
    printedLines (x one).2 = printedLines (y other).2) : x.Concurs y :=
  fun one other _ _ => .inr (.inr (h one other))

theorem symm (h : x.Concurs y) : y.Concurs x := by
  intro one other hone hother
  obtain hexhausted | hexhausted | ⟨houtcome, hlines⟩ := h other one hother hone
  · exact .inr (.inl hexhausted)
  · exact .inl hexhausted
  · exact .inr (.inr ⟨houtcome.symm, hlines.symm⟩)

theorem exhaust (y : Logged α) : Logged.Concurs Effects.exhaust y :=
  fun _ _ _ _ => .inl rfl

theorem bind {f g : α → Logged β} (h : x.Concurs y)
    (hfg : ∀ result, (f result).Concurs (g result)) :
    Logged.Concurs (x >>= f) (y >>= g) := by
  intro one other hone hother
  have hxy := h one other hone hother
  cases hx : x one with
  | mk outcome events =>
    cases hy : y other with
    | mk outcome' events' =>
      rw [hx, hy] at hxy
      obtain rfl | rfl | ⟨rfl, hlines⟩ := hxy
      · rw [Logged.bind_exhausted hx]
        exact .inl rfl
      · rw [Logged.bind_exhausted hy]
        exact .inr (.inl rfl)
      · cases outcome with
        | done result =>
          rw [Logged.bind_done hx, Logged.bind_done hy, printedLines_append, printedLines_append]
          obtain hexhausted | hexhausted | ⟨houtcome, hmore⟩ :=
            hfg result _ _ (hone.after events) (hother.after events')
          · exact .inl hexhausted
          · exact .inr (.inl hexhausted)
          · exact .inr (.inr ⟨houtcome, congrArg₂ _ hlines hmore⟩)
        | failed error =>
          rw [Logged.bind_failed hx, Logged.bind_failed hy]
          exact .inr (.inr ⟨rfl, hlines⟩)
        | faulted fault =>
          rw [Logged.bind_faulted hx, Logged.bind_faulted hy]
          exact .inr (.inr ⟨rfl, hlines⟩)
        | exhausted =>
          rw [Logged.bind_exhausted hx]
          exact .inl rfl

/-- A step that only gives a result makes no difference. -/
theorem silent_bind {first : Logged β} {result : β} {next : β → Logged α}
    (hfirst : ∀ context, context.Quiet →
      (first context).1 = .done result ∧ printedLines (first context).2 = [])
    (h : x.Concurs (next result)) : x.Concurs (first >>= next) := by
  intro one other hone hother
  obtain ⟨hdone, hlines⟩ := hfirst other hother
  have hrun : first other = (.done result, (first other).2) := Prod.ext hdone rfl
  rw [Logged.bind_done hrun, printedLines_append, hlines, List.nil_append]
  exact h one _ hone (hother.after _)

theorem stamp (location : Option Data) (h : x.Concurs y) :
    Logged.Concurs (Effects.stamp location x) (Effects.stamp location y) := by
  intro one other hone hother
  rw [Logged.stamp_apply, Logged.stamp_apply]
  obtain hexhausted | hexhausted | ⟨houtcome, hlines⟩ := h one other hone hother
  · exact .inl (by rw [hexhausted]; rfl)
  · exact .inr (.inl (by rw [hexhausted]; rfl))
  · exact .inr (.inr ⟨by rw [houtcome], hlines⟩)

/-- Running a computation one call deeper makes no difference. -/
theorem inCall_right (h : x.Concurs y) : x.Concurs (Effects.inCall y) := by
  intro one other hone hother
  rw [Logged.inCall_entered (Context.passed?_unlimited hother.maxDepth _), printedLines_enclosed]
  exact h one other.enter hone hother.enter

theorem inCall (h : x.Concurs y) : Logged.Concurs (Effects.inCall x) (Effects.inCall y) :=
  h.symm.inCall_right.symm.inCall_right

theorem traceWith_silent {context : Context} (h : context.Quiet) (message : Except Fault String) :
    ((Effects.traceWith message : Logged Unit) context).1 = .done () ∧
      printedLines ((Effects.traceWith message : Logged Unit) context).2 = [] := by
  have hrun : (Effects.traceWith message : Logged Unit) context = (.done (), []) := by
    show Logged.traceWith message context = _
    unfold Logged.traceWith
    rw [h.debug]
    rfl
  rw [hrun]
  exact ⟨rfl, rfl⟩

theorem node (kind kind' : String) (location : Location) (h : x.Concurs y) :
    Logged.Concurs (Effects.node kind location x) (Effects.node kind' location y) :=
  bind (of_eq fun _ _ => ⟨rfl, rfl⟩) fun _ => h.stamp location

/-- Every operation concurs with itself. -/
def simulation : Simulation Logged Logged where
  rel := Logged.Concurs
  pure _ := of_eq fun _ _ => ⟨rfl, rfl⟩
  bind := bind
  fail _ := of_eq fun _ _ => ⟨rfl, rfl⟩
  fault _ := of_eq fun _ _ => ⟨rfl, rfl⟩
  emit _ := of_eq fun _ _ => ⟨rfl, rfl⟩
  trace _ := of_eq fun _ _ => ⟨rfl, rfl⟩
  traceWith message := fun _ _ hone hother => by
    obtain ⟨hdone, hlines⟩ := traceWith_silent hone message
    obtain ⟨hdone', hlines'⟩ := traceWith_silent hother message
    exact .inr (.inr ⟨hdone.trans hdone'.symm, hlines.trans hlines'.symm⟩)
  stamp := stamp

end Logged.Concurs

namespace Term

/-- What runs the bodies of functions on a machine that can follow so many calls. -/
def bodyIn (m : Type → Type) [Effects m] : (limit : Nat) → Term → Env → m Value
  | 0 => fun _ _ => exhaust
  | limit + 1 => evalIn m limit

theorem evalIn_eq_evalWith (m : Type → Type) [Effects m] (limit : Nat) (term : Term) (env : Env) :
    term.evalIn m limit env = term.evalWith (bodyIn m limit) env := by
  cases limit <;> rfl

/-- What concurs with running a body on every machine does so with running it in a call. -/
theorem concurs_bodyIn {x : Logged Value} {body : Term} {env : Env}
    (h : ∀ limit, x.Concurs (body.evalIn Logged limit env)) (limit : Nat) :
    x.Concurs (bodyIn Logged limit body env) := by
  cases limit with
  | zero => exact (Logged.Concurs.exhaust x).symm
  | succ limit => exact h limit

/-- Neither the depth nor the limit of the machine makes a difference to a run, unless the machine
is exhausted. -/
theorem concurs_evalIn (limit more : Nat) (term : Term) (env : Env) :
    (term.evalIn Logged limit env).Concurs (term.evalIn Logged more env) := by
  induction limit generalizing more term env with
  | zero =>
    rw [evalIn_eq_evalWith, evalIn_eq_evalWith]
    exact Logged.Concurs.simulation.evalWith (fun _ _ => .inCall (.exhaust _)) term env
  | succ limit ih =>
    rw [evalIn_eq_evalWith, evalIn_eq_evalWith]
    refine Logged.Concurs.simulation.evalWith (fun body env => .inCall ?_) term env
    exact concurs_bodyIn (fun more => ih more body env) more

/-! ## the let and the call -/

/-- The environment in which the body of a function with one parameter is run. -/
theorem callEnv_single {m : Type → Type} [Effects m] (name : Name) (body : Term) (env : Env)
    (value : Value) :
    (callEnv ⟨[.scalar name], body, env⟩ [value] : m Env) = pure (env.bind name value) := rfl

/-- Evaluating a single argument. -/
theorem evalAllWith_singleton {m : Type → Type} [Effects m] [LawfulMonad m]
    (invoke : Term → Env → m Value) (term : Term) (env : Env) :
    evalAllWith invoke [term] env = do return [← term.evalWith invoke env] := by
  simp only [evalAllWith, pure_bind]

/-- A let and the call of a function with one parameter, each on its own machine. -/
theorem letIn_concurs_call (limit more : Nat) (location place : Location) (name : Name)
    (value next : Term) (env : Env) :
    Logged.Concurs ((letIn location (.ok name) value next).evalIn Logged limit env)
      ((call location (function place (.ok [.scalar name]) next) [value]).evalIn Logged more
        env) := by
  have hvalue := concurs_evalIn limit more value env
  rw [evalIn_eq_evalWith, evalIn_eq_evalWith] at hvalue
  have hnext (env : Env) : Logged.Concurs (next.evalWith (bodyIn Logged limit) env)
      (inCall (bodyIn Logged more next env)) := by
    rw [← evalIn_eq_evalWith]
    exact .inCall_right (concurs_bodyIn (fun more => concurs_evalIn limit more next env) more)
  rw [evalIn_eq_evalWith, evalIn_eq_evalWith, evalWith, evalWith]
  refine .node _ _ location ?_
  -- The function has its value before the argument is evaluated.
  refine .silent_bind (fun _ _ => ⟨rfl, rfl⟩) ?_
  simp only [Value.asCallee, Value.toClosure, orFail_ok, pure_bind, evalAllWith_singleton,
    bind_assoc]
  refine .bind hvalue fun value => ?_
  rw [orFault_ok, pure_bind, apply, callEnv_single, pure_bind]
  exact .silent_bind (fun _ hquiet => Logged.Concurs.traceWith_silent hquiet _) (hnext _)

end Term

/-! ## their data -/

namespace Data

/-- Data in the shape of a let of a name. -/
structure IsLet (data : Data) (name : String) (value next : Data) : Prop where
  kind : data.HasKind .letIn
  binder : ∃ binder, data.field? "name" = some binder ∧ binder.Gives name
  value : data.field? "value" = some value
  next : data.field? "next" = some next

/-- Data in the shape of a function with one parameter. -/
structure IsFunctionOf (data : Data) (name : String) (body : Data) : Prop where
  kind : data.HasKind .function
  parameter : ∃ parameter, data.field? "parameters" = some (.list [parameter]) ∧
    parameter.Gives name
  body : data.field? "value" = some body

/-- Data in the shape of a call of a function with one parameter. -/
structure IsCallOf (data : Data) (name : String) (value next : Data) : Prop where
  kind : data.HasKind .call
  callee : ∃ callee, data.field? "callee" = some callee ∧ callee.IsFunctionOf name next
  argument : data.field? "arguments" = some (.list [value])

end Data

namespace Term

variable {data value next : Data} {name : String}

theorem ofData_of_isLet (h : data.IsLet name value next) :
    ofData data
      = .letIn (locationOf data) (.ok (.text name)) (ofData value) (ofData next) := by
  obtain ⟨binder, hbinder, hname⟩ := h.binder
  exact ofData_letIn h.kind hbinder hname h.value h.next

theorem ofData_of_isFunctionOf (h : data.IsFunctionOf name next) :
    ofData data = .function (locationOf data) (.ok [.text name]) (ofData next) := by
  obtain ⟨parameter, hparameter, hname⟩ := h.parameter
  exact ofData_function h.kind hparameter (.cons hname .nil) h.body

theorem ofData_of_isCallOf (h : data.IsCallOf name value next) :
    ∃ place, ofData data
      = .call (locationOf data) (.function place (.ok [.text name]) (ofData next))
          [ofData value] := by
  obtain ⟨callee, hcallee, hfunction⟩ := h.callee
  refine ⟨locationOf callee, ?_⟩
  rw [ofData_call h.kind hcallee h.argument, ofData_of_isFunctionOf hfunction]
  rfl

end Term

/-! ## their runs -/

/-- Two runs that end in the same way and leave contexts behind that nothing but the greatest depth
tells apart. -/
structure Eval.SameButDeepest {α : Type} (one other : Outcome α × Context) : Prop where
  outcome_eq : one.1 = other.1
  context_eq : other.2 = { one.2 with deepest := other.2.deepest }

namespace Term

/-- Runs that concur in a quiet context come back to the depth that they began at, so they leave the
same context behind but for the greatest depth. -/
theorem sameButDeepest_of_concurs {limit more : Nat} {term term' : Term} {env env' : Env}
    (h : Logged.Concurs (term.evalIn Logged limit env) (term'.evalIn Logged more env'))
    {context : Context} (hquiet : context.Quiet)
    (hne : (term.eval limit env context).1 ≠ .exhausted)
    (hne' : (term'.eval more env' context).1 ≠ .exhausted) :
    Eval.SameButDeepest (term.eval limit env context) (term'.eval more env' context) := by
  have hdepth := (term.balanced_eval limit env context).depth_eq
  have hdepth' := (term'.balanced_eval more env' context).depth_eq
  rw [eval_eq_logged] at hne hne' hdepth hdepth' ⊢
  rw [eval_eq_logged]
  obtain hexhausted | hexhausted | ⟨houtcome, hlines⟩ := h context context hquiet hquiet
  · exact absurd hexhausted hne
  · exact absurd hexhausted hne'
  · exact ⟨houtcome,
      Context.after_eq_of_printedLines hquiet.debug hlines (hdepth.trans hdepth'.symm)⟩

/-- A let does what the call of a function with one parameter does.  If the two stand at the same
location, calls are not limited, nothing is traced and neither run exhausts its machine, then both
end with the same value, the same error or the same fault, and print the same lines; nothing but the
greatest depth differs. -/
theorem let_agrees_with_call {data data' value next : Data} {name : String}
    (hlet : data.IsLet name value next) (hcall : data'.IsCallOf name value next)
    (hlocation : locationOf data = locationOf data') (limit more : Nat) (env : Env)
    {context : Context} (hquiet : context.Quiet)
    (hne : ((ofData data).eval limit env context).1 ≠ .exhausted)
    (hne' : ((ofData data').eval more env context).1 ≠ .exhausted) :
    Eval.SameButDeepest ((ofData data).eval limit env context)
        ((ofData data').eval more env context) ∧
      Eval.SameButDeepest ((ofData data).evalRoot limit env context)
        ((ofData data').evalRoot more env context) := by
  rw [evalRoot_of_ne_exhausted hne, evalRoot_of_ne_exhausted hne', and_self]
  have hconcurs : Logged.Concurs ((ofData data).evalIn Logged limit env)
      ((ofData data').evalIn Logged more env) := by
    obtain ⟨place, hread⟩ := ofData_of_isCallOf hcall
    rw [ofData_of_isLet hlet, hread, hlocation]
    exact letIn_concurs_call limit more _ place (.text name) _ _ env
  exact sameButDeepest_of_concurs hconcurs hquiet hne hne'

/-- A let of a printed line in a function that captures it, and the like call: both print the line
and give a function with the same captured environment, and only the call goes one deeper. -/
theorem let_agrees_with_call_capture :
    let place : String × Data := ("location", .object [("start", .int 3)])
    let name : Data := .object [("text", .text "x")]
    let value : Data := .object [("kind", .text "Print"),
      ("value", .object [("kind", .text "String"), ("value", .text "a")])]
    let next : Data := .object [("kind", .text "Function"), ("parameters", .list []),
      ("value", .object [("kind", .text "Var"), ("text", .text "x")])]
    let data : Data :=
      .object [("kind", .text "Let"), ("name", name), ("value", value), ("next", next), place]
    let data' : Data := .object [("kind", .text "Call"),
      ("callee", .object [("kind", .text "Function"), ("parameters", .list [name]),
        ("value", next)]),
      ("arguments", .list [value]), place]
    let context := Context.new .collector false none
    let one := (ofData data).evalRoot 0 .empty context
    let other := (ofData data').evalRoot 1 .empty context
    Eval.SameButDeepest one other ∧
      one.1 = .done (.closure [] (.var none (.ok (.text "x")))
        (Env.empty.bind (.text "x") (.string "a"))) ∧
      one.2.streams.collected = ["a"] ∧ one.2.deepest = 0 ∧ other.2.deepest = 1 := by
  intro place name value next data data' context one other
  have hlet : data.IsLet "x" value next := ⟨rfl, ⟨name, rfl, rfl⟩, rfl, rfl⟩
  have hcall : data'.IsCallOf "x" value next :=
    ⟨rfl, ⟨_, rfl, rfl, ⟨name, rfl, rfl⟩, rfl⟩, rfl⟩
  have hquiet : context.Quiet := ⟨rfl, rfl⟩
  have hruns := let_agrees_with_call hlet hcall rfl 0 1 .empty hquiet nofun nofun
  exact ⟨hruns.2, rfl, rfl, rfl, rfl⟩

end Term

end Rinha
