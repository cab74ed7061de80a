import Rinha.Proofs.LetAsCall
import Mathlib.Data.Set.List

/-!
# Rinha.Proofs.CallEnvironment

What the body of a called function sees.  Once the callee has a function and the arguments have
their values, the body is run in the captured environment with the parameters bound
(`Env.ExtendedBy`):

* a parameter has the argument at its last position, however often and wherever it is listed;
* every other name is what was captured, bound or unbound.

Neither the environment of the call nor the arguments beyond the parameters come in
(`Env.extendedBy_bindAll`, `Env.bindAll_take`).  With too few arguments there is no such
environment, and the call ends after the last of them, naming the first parameter that has none.

A traced call is told before the body is run, and that shows all the arguments.  Decimals being
unbounded (`Rinha.Data.Display`), what cannot be shown is only a function with a parameter that is
no text (`Value.Unshowable`), so with such an argument a traced call ends there.
-/

namespace Rinha

open Effects

/-! ## rows with a fault in them

Both the parameters of a function and the arguments of a call are shown one after the other. -/

/-- A row in which something ends in the one fault there is, and nothing in another. -/
theorem mapM_eq_error {α β ε : Type} {f : α → Except ε β} {fault : ε} {row : List α}
    (hrow : ∀ a ∈ row, (∃ b, f a = .ok b) ∨ f a = .error fault)
    (hfault : ∃ a ∈ row, f a = .error fault) : row.mapM f = .error fault := by
  induction row with
  | nil => simp at hfault
  | cons a row ih =>
    rw [List.forall_mem_cons] at hrow
    rw [List.mapM_cons]
    obtain ⟨b, hb⟩ | ha := hrow.1
    · obtain ⟨a', hmem, ha'⟩ := hfault
      obtain rfl | hmem := List.mem_cons.mp hmem
      · rw [hb] at ha'
        cases ha'
      · rw [hb, ih hrow.2 ⟨a', hmem, ha'⟩]
        rfl
    · rw [ha]
      rfl

/-! ## values that cannot be shown -/

namespace Value

/-- A function with a parameter that is no text. -/
def Unshowable (value : Value) : Prop :=
  ∃ parameters body env, value = closure parameters body env ∧
    ∃ parameter ∈ parameters, ∀ s, parameter ≠ .text s

theorem displayParameter_cases (parameter : Data) :
    (∃ s, parameter = .text s ∧ displayParameter parameter = .ok s) ∨
      (∀ s, parameter ≠ .text s) ∧ displayParameter parameter = .error .wrongShape := by
  by_cases htext : ∃ s, parameter = .text s
  · obtain ⟨s, rfl⟩ := htext
    exact .inl ⟨s, rfl, rfl⟩
  · rw [not_exists] at htext
    refine .inr ⟨htext, ?_⟩
    unfold displayParameter
    split
    · next s => exact absurd rfl (htext s)
    · rfl

theorem display_of_unshowable {value : Value} (h : value.Unshowable) :
    value.display = .error .wrongShape := by
  obtain ⟨parameters, body, env, rfl, parameter, hmem, htext⟩ := h
  have hnames : parameters.mapM displayParameter = .error .wrongShape := by
    refine mapM_eq_error (fun p _ => ?_) ⟨parameter, hmem, ?_⟩
    · exact (displayParameter_cases p).imp (fun ⟨s, _, hs⟩ => ⟨s, hs⟩) And.right
    · obtain ⟨s, hs, -⟩ | ⟨-, hshown⟩ := displayParameter_cases parameter
      · exact absurd hs (htext s)
      · exact hshown
  rw [display, hnames]
  rfl

theorem display_of_not_unshowable {value : Value} (h : ¬ value.Unshowable) :
    ∃ text, value.display = .ok text := by
  refine display_of_texts fun parameters body env heq => ?_
  have htexts : parameters ∈ Set.range (List.map Data.text) := by
    rw [Set.range_list_map]
    intro parameter hmem
    by_contra hno
    exact h ⟨_, _, _, heq, parameter, hmem, fun s hs => hno ⟨s, hs.symm⟩⟩
  obtain ⟨names, hnames⟩ := htexts
  exact ⟨names, hnames.symm⟩

/-- A call of a function with texts for parameters can be told if and only if its arguments can be
shown. -/
theorem callMessage_cases (parameters : List String) (body : Term) (env : Env)
    (values : List Value) :
    (∀ value ∈ values, ¬ value.Unshowable) ∧
        (∃ message, callMessage (closure (parameters.map .text) body env) values = .ok message) ∨
      (∃ value ∈ values, value.Unshowable) ∧
        callMessage (closure (parameters.map .text) body env) values = .error .wrongShape := by
  by_cases hshown : ∃ value ∈ values, value.Unshowable
  · refine .inr ⟨hshown, ?_⟩
    obtain ⟨text, htext⟩ := display_closure_texts parameters body env
    obtain ⟨value, hmem, hvalue⟩ := hshown
    have hvalues : values.mapM display = .error .wrongShape := by
      refine mapM_eq_error (fun value _ => ?_) ⟨value, hmem, display_of_unshowable hvalue⟩
      by_cases hvalue : value.Unshowable
      · exact .inr (display_of_unshowable hvalue)
      · exact .inl (display_of_not_unshowable hvalue)
    rw [callMessage, htext, hvalues]
    rfl
  · have hall (value : Value) (hmem : value ∈ values) : ¬ value.Unshowable :=
      fun hvalue => hshown ⟨value, hmem, hvalue⟩
    exact .inl ⟨hall, callMessage_of_display (display_closure_texts parameters body env)
      fun value hmem => display_of_not_unshowable (hall value hmem)⟩

end Value

/-! ## binding parameters -/

/-- The bindings that a function captured, with parameters bound on top of them. -/
structure Env.ExtendedBy (captured : Env) (parameters : List String) (values : List Value)
    (extended : Env) : Prop where
  /-- A parameter has the argument at the last of its positions. -/
  parameter {i : Nat} {name : String} :
    parameters[i]? = some name → (∀ j, i < j → parameters[j]? ≠ some name) →
      ∃ value, values[i]? = some value ∧ extended.lookup? (.text name) = some value
  /-- Every other name is as it was captured. -/
  other {name : Name} :
    (∀ parameter ∈ parameters, sameName (.text parameter) name = false) →
      extended.lookup? name = captured.lookup? name

namespace Env

/-- Arguments beyond the parameters are not bound. -/
theorem bindAll_take (env : Env) (names : List Data) (values : List Value) :
    env.bindAll names (values.take names.length) = env.bindAll names values := by
  induction names generalizing env values with
  | nil => rfl
  | cons name names ih =>
    cases values with
    | nil => rfl
    | cons value values =>
      rw [List.length_cons, List.take_succ_cons, bindAll, bindAll]
      simp only [ih]

/-- Binding a parameter before the others leaves it to them to bind its name again. -/
theorem ExtendedBy.cons {captured extended : Env} {parameter : String} {parameters : List String}
    {value : Value} {values : List Value}
    (h : (captured.bind (.text parameter) value).ExtendedBy parameters values extended) :
    captured.ExtendedBy (parameter :: parameters) (value :: values) extended where
  parameter := by
    intro i name hname hlast
    cases i with
    | zero =>
      rw [List.getElem?_cons_zero, Option.some.injEq] at hname
      subst hname
      refine ⟨value, rfl, ?_⟩
      rw [h.other, lookup?_bind_self]
      intro later hmem
      obtain ⟨j, hj⟩ := List.mem_iff_getElem?.mp hmem
      rw [sameName_text, decide_eq_false_iff_not]
      rintro rfl
      exact hlast (j + 1) (Nat.succ_pos j) hj
    | succ i => exact h.parameter hname fun j hij => hlast (j + 1) (Nat.succ_lt_succ hij)
  other := by
    intro name hname
    rw [List.forall_mem_cons] at hname
    rw [h.other hname.2, lookup?_bind, hname.1]
    rfl

/-- Parameters that all have arguments can be bound. -/
theorem extendedBy_bindAll (captured : Env) {parameters : List String} {values : List Value}
    (hle : parameters.length ≤ values.length) :
    ∃ extended, captured.bindAll (parameters.map .text) values = .ok extended ∧
      captured.ExtendedBy parameters values extended := by
  induction parameters generalizing captured values with
  | nil => exact ⟨captured, rfl, ⟨nofun, fun _ => rfl⟩⟩
  | cons parameter parameters ih =>
    cases values with
    | nil => cases hle
    | cons value values =>
      obtain ⟨extended, hbind, hextended⟩ :=
        ih (captured.bind (.text parameter) value) (Nat.le_of_succ_le_succ hle)
      exact ⟨extended, hbind, hextended.cons⟩

end Env

/-! ## contexts between calls -/

/-- A context that is at the depth of another one and under its settings. -/
structure Context.Resumes (before after : Context) : Prop where
  depth_eq : after.depth = before.depth
  maxDepth_eq : after.maxDepth = before.maxDepth
  debug_eq : after.debug = before.debug

namespace Context.Resumes

variable {before context after : Context}

theorem trans (h : before.Resumes context) (hafter : context.Resumes after) :
    before.Resumes after :=
  ⟨hafter.depth_eq.trans h.depth_eq, hafter.maxDepth_eq.trans h.maxDepth_eq,
    hafter.debug_eq.trans h.debug_eq⟩

theorem trace (context : Context) (message : String) : context.Resumes (context.trace message) := by
  obtain ⟨-, hdebug, hmax⟩ := context.settings_apply (.traced message)
  exact ⟨context.depth_trace message, hmax, hdebug⟩

theorem eval {limit : Nat} {term : Term} {env : Env} {value : Value}
    (h : term.eval limit env context = (.done value, after)) : context.Resumes after := by
  have hbalanced := term.balanced_eval limit env context
  rw [h] at hbalanced
  exact ⟨hbalanced.depth_eq, hbalanced.maxDepth_eq, hbalanced.debug_eq⟩

end Context.Resumes

/-! ## calls -/

theorem Eval.stamp_apply {α : Type} (location : Option Data) (action : Eval α)
    (context : Context) :
    Eval.stamp location action context
      = ((action context).1.stamp location, (action context).2) := by
  unfold Eval.stamp
  rcases action context with ⟨_ | _ | _ | _, after⟩ <;> rfl

/-- What is told is traced, if the context is traced at all. -/
theorem Eval.traceWith_of_told {told : Except Fault String} {message : String} {context : Context}
    (h : context.debug = true → told = .ok message) :
    (Effects.traceWith told : Eval Unit) context = (.done (), context.trace message) := by
  show Eval.traceWith told context = _
  unfold Eval.traceWith
  cases hdebug : context.debug with
  | true => rw [h hdebug]; rfl
  | false => rw [Context.trace_of_not_debug hdebug]; rfl

namespace Term

/-- Terms have values one after the other, each in the context that the one before it leaves
behind. -/
inductive EvaluateTo (limit : Nat) (env : Env) :
    Context → List Term → List Value → Context → Prop where
  | nil {context : Context} : EvaluateTo limit env context [] [] context
  | cons {context next after : Context} {term : Term} {terms : List Term} {value : Value}
      {values : List Value} :
    term.eval limit env context = (.done value, next) →
      EvaluateTo limit env next terms values after →
      EvaluateTo limit env context (term :: terms) (value :: values) after

namespace EvaluateTo

variable {limit : Nat} {env : Env} {context after : Context} {terms : List Term}
  {values : List Value}

theorem resumes (h : EvaluateTo limit env context terms values after) : context.Resumes after := by
  induction h with
  | nil => exact ⟨rfl, rfl, rfl⟩
  | cons hterm _ ih => exact (Context.Resumes.eval hterm).trans ih

theorem evalAllWith (h : EvaluateTo limit env context terms values after) :
    evalAllWith (bodyIn Eval limit) terms env context = (.done values, after) := by
  induction h with
  | nil => rfl
  | @cons context next after term terms value values hterm _ ih =>
    rw [eval, evalIn_eq_evalWith] at hterm
    rw [Term.evalAllWith, Eval.bind_done hterm, Eval.bind_done ih]
    rfl

end EvaluateTo

/-- A call runs the body in an environment, one call deeper, unless the limit of calls forbids
it.  Whatever fails in there without a location has that of the call. -/
structure RunsBody (limit : Nat) (location : Location) (body : Term) (extended : Env)
    (ready : Context) (run : Outcome Value × Context) : Prop where
  entered : ready.Admits (ready.depth + 1) →
    run = ((bodyIn Eval limit body extended ready.enter).1.stamp location,
      (bodyIn Eval limit body extended ready.enter).2.leave)
  refused {bound : Data} : ready.passed? (ready.depth + 1) = .ok (some bound) →
    run = (.failed ⟨.stackExhausted bound, location⟩, ready)
  uncounted {fault : Fault} : ready.passed? (ready.depth + 1) = .error fault →
    run = (.faulted fault, ready)

section call

variable {limit : Nat} {env captured extended : Env} {context called after ready : Context}
  {location : Location} {callee body : Term} {arguments : List Term} {parameters : List String}
  {values : List Value}

/-- A call is left to its function and its arguments, once they are there. -/
theorem eval_call
    (hcallee : callee.eval limit env (context.trace "Evaluating: Call")
      = (.done (.closure (parameters.map .text) body captured), called))
    (harguments : EvaluateTo limit env called arguments values after) {action : Eval Value}
    (haction : apply (bodyIn Eval limit) (.closure (parameters.map .text) body captured)
      ⟨parameters.map .text, body, captured⟩ values after = action ready) :
    (call location callee arguments).eval limit env context
      = Eval.stamp location action ready := by
  rw [eval, evalIn_eq_evalWith] at hcallee
  have hinner := Eval.bind_done hcallee fun function => do
    let closure ← orFail function.asCallee
    let values ← evalAllWith (bodyIn Eval limit) arguments env
    apply (bodyIn Eval limit) function closure values
  have happlied := Eval.bind_done harguments.evalAllWith
    (apply (bodyIn Eval limit) (.closure (parameters.map .text) body captured)
      ⟨parameters.map .text, body, captured⟩)
  rw [eval, evalIn_eq_evalWith, evalWith]
  refine (Eval.stamp_apply location _ (context.trace "Evaluating: Call")).trans ?_
  rw [hinner, Eval.stamp_apply, ← haction, ← happlied]
  rfl

/-- The first parameter without an argument is missing. -/
theorem callEnv_missing (hlt : values.length < parameters.length) :
    (callEnv ⟨parameters.map .text, body, captured⟩ values : Eval Env)
      = fail (.missingArgument (.text parameters[values.length])) := by
  have hdrop := List.drop_eq_getElem_cons (l := parameters.map Data.text) (i := values.length)
    (by rwa [List.length_map])
  rw [callEnv, hdrop, List.getElem_map]

theorem callEnv_bound (hle : parameters.length ≤ values.length)
    (hbind : captured.bindAll (parameters.map .text) values = .ok extended) :
    (callEnv ⟨parameters.map .text, body, captured⟩ values : Eval Env) = pure extended := by
  have hdrop : (parameters.map Data.text).drop values.length = [] :=
    List.drop_of_length_le (by rwa [List.length_map])
  rw [callEnv, hdrop, hbind]
  rfl

/-- With too few arguments there is nothing to call. -/
theorem apply_missing (hlt : values.length < parameters.length) :
    apply (bodyIn Eval limit) (.closure (parameters.map .text) body captured)
        ⟨parameters.map .text, body, captured⟩ values after
      = (fail (.missingArgument (.text parameters[values.length])) : Eval Value) after := by
  rw [apply, callEnv_missing hlt]
  rfl

/-- With its environment there, a call is told and then the body is run. -/
theorem apply_told {message : String} (hle : parameters.length ≤ values.length)
    (hbind : captured.bindAll (parameters.map .text) values = .ok extended)
    (htold : after.debug = true →
      callMessage (.closure (parameters.map .text) body captured) values = .ok message) :
    apply (bodyIn Eval limit) (.closure (parameters.map .text) body captured)
        ⟨parameters.map .text, body, captured⟩ values after
      = (inCall (bodyIn Eval limit body extended) : Eval Value) (after.trace message) := by
  rw [apply, callEnv_bound hle hbind, pure_bind]
  exact Eval.bind_done (Eval.traceWith_of_told htold) _

/-- A traced call that cannot be told ends there. -/
theorem apply_untold {cause : Fault} (hle : parameters.length ≤ values.length)
    (hbind : captured.bindAll (parameters.map .text) values = .ok extended)
    (hdebug : after.debug = true)
    (huntold : callMessage (.closure (parameters.map .text) body captured) values
      = .error cause) :
    apply (bodyIn Eval limit) (.closure (parameters.map .text) body captured)
        ⟨parameters.map .text, body, captured⟩ values after
      = (fault cause : Eval Value) after := by
  rw [apply, callEnv_bound hle hbind, pure_bind, huntold]
  refine Eval.bind_faulted ?_ _
  show Eval.traceWith _ after = _
  rw [Eval.traceWith, if_pos hdebug]
  rfl

theorem runsBody_inCall (limit : Nat) (location : Location) (body : Term) (extended : Env)
    (ready : Context) :
    RunsBody limit location body extended ready
      (Eval.stamp location (inCall (bodyIn Eval limit body extended)) ready) where
  entered h := by rw [Eval.stamp_apply, Eval.inCall_entered h]
  refused h := by rw [Eval.stamp_apply, Eval.inCall_refused h]; rfl
  uncounted h := by rw [Eval.stamp_apply, Eval.inCall_faulted h]; rfl

/-- A call of a function with texts for parameters, once the callee has the function and the
arguments have their values.

* With too few arguments it ends there, by the first parameter that has none, and at the depth at
  which it began.
* Otherwise the body is run, if the call can be counted in: in the captured environment, where each
  parameter has the argument at its last position.  Arguments beyond the parameters and the
  environment of the call are of no account.
* But if the call is traced and one of its arguments cannot be shown, it ends in a fault before
  that.  All ints can be shown here, decimals being unbounded. -/
theorem call_extends_captured
    (hcallee : callee.eval limit env (context.trace "Evaluating: Call")
      = (.done (.closure (parameters.map .text) body captured), called))
    (harguments : EvaluateTo limit env called arguments values after) (location : Location) :
    let run := (call location callee arguments).eval limit env context
    context.Resumes after ∧
      (∀ hlt : values.length < parameters.length,
        run = (.failed ⟨.missingArgument (.text parameters[values.length]), location⟩, after)) ∧
      (parameters.length ≤ values.length →
        (context.debug = false ∨ (∀ value ∈ values, ¬ value.Unshowable) →
          ∃ extended message,
            captured.bindAll (parameters.map .text) (values.take parameters.length)
              = .ok extended ∧
            captured.ExtendedBy parameters values extended ∧
            (context.debug = true →
              callMessage (.closure (parameters.map .text) body captured) values = .ok message) ∧
            RunsBody limit location body extended (after.trace message) run) ∧
        (context.debug = true → (∃ value ∈ values, value.Unshowable) →
          run = (.faulted .wrongShape, after))) := by
  intro run
  have hresumes : context.Resumes after :=
    ((Context.Resumes.trace context _).trans (.eval hcallee)).trans harguments.resumes
  refine ⟨hresumes, fun hlt => ?_, fun hle => ?_⟩
  · exact eval_call hcallee harguments (apply_missing hlt)
  · obtain ⟨extended, hbind, hextended⟩ := captured.extendedBy_bindAll hle
    have htaken : captured.bindAll (parameters.map .text) (values.take parameters.length)
        = .ok extended := by
      rw [← hbind, ← captured.bindAll_take _ values, List.length_map]
    have hmessage := Value.callMessage_cases parameters body captured values
    refine ⟨fun hshown => ?_, fun hdebug hunshowable => ?_⟩
    · have htold : ∃ message, context.debug = true →
          callMessage (.closure (parameters.map .text) body captured) values = .ok message := by
        obtain hdebug | hshown := hshown
        · exact ⟨"", fun htraced => absurd (hdebug.symm.trans htraced) Bool.false_ne_true⟩
        · obtain ⟨-, message, hmessage⟩ | ⟨⟨value, hmem, hvalue⟩, -⟩ := hmessage
          · exact ⟨message, fun _ => hmessage⟩
          · exact absurd hvalue (hshown value hmem)
      obtain ⟨message, htold⟩ := htold
      refine ⟨extended, message, htaken, hextended, htold, ?_⟩
      have hrun : run = _ := eval_call hcallee harguments
        (apply_told hle hbind (hresumes.debug_eq ▸ htold))
      rw [hrun]
      exact runsBody_inCall limit location body extended _
    · obtain ⟨hshown, -⟩ | ⟨-, huntold⟩ := hmessage
      · obtain ⟨value, hmem, hvalue⟩ := hunshowable
        exact absurd hvalue (hshown value hmem)
      · exact eval_call hcallee harguments
          (apply_untold hle hbind (hresumes.debug_eq.trans hdebug) huntold)

end call

/-- A function with a parameter twice, called where its parameter and what it captured are bound to
other values: with one argument more than it has parameters, and with too few. -/
theorem call_extends_captured_twice :
    let var (name : String) : Term := .var none (.ok (.text name))
    let parameters := ["a", "b", "a"]
    let body : Term := .binary none (.ok .add) (var "a") (var "k")
    let captured := (Env.empty.bind (.text "k") (.int 10)).bind (.text "b") (.int 20)
    let function : Value := .closure (parameters.map .text) body captured
    let env := ((Env.empty.bind (.text "f") function).bind (.text "k") (.int 30)).bind
      (.text "a") (.int 40)
    let context := Context.new .collector false none
    let printed : Term := .print none (.string none (.ok "x"))
    let arguments : List Term :=
      [.int none (.ok 1), .int none (.ok 2), var "k", .int none (.ok 4)]
    let place : Location := some (.int 7)
    (var "f").eval 1 env (context.trace "Evaluating: Call") = (.done function, context) ∧
      EvaluateTo 1 env context arguments [.int 1, .int 2, .int 30, .int 4] context ∧
      EvaluateTo 1 env context [printed] [.string "x"] (context.emit "x") ∧
      ((call place (var "f") arguments).eval 1 env context).1 = .done (.int 40) ∧
      (call place (var "f") [printed]).eval 1 env context
        = (.failed ⟨.missingArgument (.text "b"), place⟩, context.emit "x") := by
  intro var parameters body captured function env context printed arguments place
  have hcallee : (var "f").eval 1 env (context.trace "Evaluating: Call")
      = (.done (.closure (parameters.map .text) body captured), context) := rfl
  have hall : EvaluateTo 1 env context arguments [.int 1, .int 2, .int 30, .int 4] context :=
    .cons rfl (.cons rfl (.cons rfl (.cons rfl .nil)))
  have hfew : EvaluateTo 1 env context [printed] [.string "x"] (context.emit "x") :=
    .cons rfl .nil
  obtain ⟨-, -, henough⟩ := call_extends_captured hcallee hall place
  obtain ⟨extended, message, hbind, -, -, hbody⟩ := (henough (by decide)).1 (.inl rfl)
  obtain ⟨-, hmissing, -⟩ := call_extends_captured hcallee hfew place
  cases hbind
  exact ⟨hcallee, hall, hfew, congrArg Prod.fst (hbody.entered rfl), hmissing (by decide)⟩

/-- What can be shown is of account.  The traced call of a function without parameters does not run
the body if it has an argument that cannot be shown. -/
theorem call_unshowable_not_run :
    ¬ ∀ (limit : Nat) (env captured : Env) (context called after : Context) (location : Location)
        (callee body : Term) (arguments : List Term) (parameters : List String)
        (values : List Value),
      callee.eval limit env (context.trace "Evaluating: Call")
          = (.done (.closure (parameters.map .text) body captured), called) →
        EvaluateTo limit env called arguments values after →
        parameters.length ≤ values.length →
        ∃ extended ready, captured.ExtendedBy parameters values extended ∧
          context.Resumes ready ∧
          RunsBody limit location body extended ready
            ((call location callee arguments).eval limit env context) := by
  intro h
  have hrun := h 1 .empty .empty (.new .collector true none) _ _ none
    (.function none (.ok []) (.int none (.ok 1))) (.int none (.ok 1))
    [.function none (.ok [.int 5]) (.int none (.ok 2))] []
    [.closure [.int 5] (.int none (.ok 2)) .empty] rfl (.cons rfl .nil) (Nat.zero_le _)
  obtain ⟨extended, ready, -, hresumes, hbody⟩ := hrun
  have hentered := hbody.entered (Context.passed?_unlimited hresumes.maxDepth_eq _)
  cases congrArg Prod.fst hentered

end Term

end Rinha
