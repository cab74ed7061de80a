import Rinha.Proofs.FreeNames
import Rinha.Proofs.Related

/-!
# Rinha.Proofs.LexicalScope

Lexical scope.  A run depends on its environment only by the free names of its term.

Two environments that agree on those may still give different values, since a function captures all
of its environment.  So agreement is a relation that looks into captured environments
(`Value.Agrees`, `Env.AgreeOn`): functions agree if they have the same parameters and the same body
and their environments agree on the free names of the body beyond the parameters, and other values
agree if they are equal.  Everything that a program can do with a value depends on it only up to
agreement:

* `Value.Agrees.alike` — values that agree are the same to everything but a call;
* `Env.AgreeOn.bindAll` — the environments of the calls of two functions that agree;
* `Term.agree_call` — calls, which see nothing else of the environment that they are made in.
-/

namespace Rinha

open Effects

/-- Two values that no program can tell apart by what is captured in them. -/
inductive Value.Agrees : Value → Value → Prop where
  | bool {b : Bool} : Agrees (.bool b) (.bool b)
  | int {n : Int} : Agrees (.int n) (.int n)
  | string {s : String} : Agrees (.string s) (.string s)
  | foreign {kind : ForeignKind} {content : Data} :
    Agrees (.foreign kind content) (.foreign kind content)
  | closure {parameters : List Data} {body : Term} {env env' : Env} :
    (∀ name ∈ Term.beyond parameters body.free,
      Option.Rel Value.Agrees (env.lookup? name) (env'.lookup? name)) →
      Agrees (.closure parameters body env) (.closure parameters body env')

/-- Two environments in which each of some names is unbound in both, or bound to values that
agree. -/
def Env.AgreeOn (names : List Name) (env env' : Env) : Prop :=
  ∀ name ∈ names, Option.Rel Value.Agrees (env.lookup? name) (env'.lookup? name)

mutual

/-- Every value agrees with itself. -/
theorem Value.Agrees.refl (value : Value) : value.Agrees value := by
  match value with
  | .bool b => exact .bool
  | .int n => exact .int
  | .string s => exact .string
  | .foreign kind content => exact .foreign
  | .closure parameters body env => exact .closure fun name _ => env.lookup?_agrees name

theorem Env.lookup?_agrees (env : Env) (name : Name) :
    Option.Rel Value.Agrees (env.lookup? name) (env.lookup? name) := by
  match env with
  | .empty => exact .none
  | .binding bound value rest =>
    rw [Env.lookup?]
    split
    · exact .some (Value.Agrees.refl value)
    · exact rest.lookup?_agrees name

end

/-! ## environments -/

namespace Env.AgreeOn

variable {names others : List Name} {env env' : Env}

theorem mono (h : AgreeOn names env env') (hsubset : ∀ name ∈ others, name ∈ names) :
    AgreeOn others env env' :=
  fun name hmem => h name (hsubset name hmem)

theorem left (h : AgreeOn (names ++ others) env env') : AgreeOn names env env' :=
  h.mono fun _ hmem => List.mem_append_left _ hmem

theorem right (h : AgreeOn (names ++ others) env env') : AgreeOn others env env' :=
  h.mono fun _ hmem => List.mem_append_right _ hmem

/-- A binding makes no difference to the names that it does not bind. -/
theorem of_not_bound (env : Env) {name : Name} (value : Value)
    (h : ∀ other ∈ names, sameName name other = false) :
    AgreeOn names env (env.bind name value) := by
  intro other hmem
  rw [lookup?_bind, h other hmem]
  exact env.lookup?_agrees other

/-- Environments that agree but for one name agree on it as well once it is bound. -/
theorem bind {parameters : List Data} {name : Name} {value value' : Value}
    (h : AgreeOn (Term.beyond (.scalar name :: parameters) names) env env')
    (hvalue : value.Agrees value') :
    AgreeOn (Term.beyond parameters names) (env.bind name value) (env'.bind name value') := by
  intro other hmem
  obtain ⟨hnames, hbeyond⟩ := Term.mem_beyond.mp hmem
  rw [lookup?_bind, lookup?_bind]
  cases hsame : sameName name other with
  | true => exact .some hvalue
  | false => exact h other (Term.mem_beyond.mpr ⟨hnames, List.forall_mem_cons.mpr ⟨hsame, hbeyond⟩⟩)

/-- Parameters that all have arguments can be bound in both environments or in neither, and then
the environments agree on the parameters as well. -/
theorem bindAll {parameters : List Data} {arguments arguments' : List Value}
    (h : AgreeOn (Term.beyond parameters names) env env')
    (harguments : List.Forall₂ Value.Agrees arguments arguments')
    (hle : parameters.length ≤ arguments.length) :
    ExceptRel Eq (AgreeOn names) (env.bindAll parameters arguments)
      (env'.bindAll parameters arguments') := by
  induction parameters generalizing env env' arguments arguments' with
  | nil =>
    rw [Term.beyond_nil] at h
    exact .ok h
  | cons parameter parameters ih =>
    cases harguments with
    | nil => cases hle
    | cons hvalue hrest =>
      cases parameter with
      | scalar name => exact ih (h.bind hvalue) hrest (Nat.le_of_succ_le_succ hle)
      | list items => exact .error rfl
      | object fields => exact .error rfl

theorem lookup {name : Name} (h : AgreeOn [name] env env') :
    ExceptRel Eq Value.Agrees (env.lookup name) (env'.lookup name) :=
  .lookup (h name List.mem_cons_self) rfl

end Env.AgreeOn

/-! ## what programs can do with values -/

theorem Value.Agrees.alike {value value' : Value} (h : value.Agrees value') :
    value.Alike value' := by
  cases h with
  | closure => exact .closure
  | _ => exact .refl _

/-- The parts of two functions that agree. -/
structure Closure.Agrees (closure closure' : Closure) : Prop where
  parameters_eq : closure.parameters = closure'.parameters
  body_eq : closure.body = closure'.body
  env : Env.AgreeOn (Term.beyond closure.parameters closure.body.free) closure.env closure'.env

theorem Value.Agrees.asCallee {value value' : Value} (h : value.Agrees value') :
    ExceptRel Eq Closure.Agrees value.asCallee value'.asCallee := by
  cases h with
  | closure henv => exact .ok ⟨rfl, rfl, henv⟩
  | _ => exact .error rfl

/-! ## runs -/

namespace Term

variable {invoke : Term → Env → Eval Value}

/-- Runs that agree: the same errors at the same places, and results related by `V`. -/
abbrev Agree {α β : Type} (V : α → β → Prop) : Eval α → Eval β → Prop :=
  Eval.Related Eq V

theorem agree_callEnv {closure closure' : Closure} {arguments arguments' : List Value}
    (h : closure.Agrees closure') (harguments : List.Forall₂ Value.Agrees arguments arguments') :
    Agree (Env.AgreeOn closure.body.free) (callEnv closure arguments)
      (callEnv closure' arguments') := by
  unfold callEnv
  rw [← h.parameters_eq, ← harguments.length_eq]
  split
  · exact .fail rfl
  · next hdrop =>
    exact .orFault (h.env.bindAll harguments (List.drop_eq_nil_iff.mp hdrop))

theorem agree_apply
    (hinvoke : ∀ body {env env' : Env}, env.AgreeOn body.free env' →
      Agree Value.Agrees (inCall (invoke body env)) (inCall (invoke body env')))
    {callee callee' : Value} {closure closure' : Closure} {arguments arguments' : List Value}
    (hcallee : callee.Agrees callee') (hclosure : closure.Agrees closure')
    (harguments : List.Forall₂ Value.Agrees arguments arguments') :
    Agree Value.Agrees (apply invoke callee closure arguments)
      (apply invoke callee' closure' arguments') := by
  refine .bind (agree_callEnv hclosure harguments) fun env env' henv => ?_
  rw [← callMessage_eq hcallee.alike (harguments.imp fun _ _ h => h.alike), ← hclosure.body_eq]
  exact .bind (.traceWith _) fun _ _ _ => hinvoke closure.body henv

theorem agree_node {α β : Type} {V : α → β → Prop} (kind : String) (location : Location)
    {x : Eval α} {y : Eval β} (h : Agree V x y) :
    Agree V (node kind location x) (node kind location y) :=
  .node kind (fun _ _ he => by rw [he]) h

theorem agree_orFail {α β : Type} {V : α → β → Prop} {x : Except Cause α} {y : Except Cause β}
    (h : ExceptRel Eq V x y) : Agree V (orFail x) (orFail y) :=
  .orFail (h.mono fun _ _ hcause => by rw [hcause])

theorem agree_evalAllWith {terms : List Term} {env env' : Env}
    (h : ∀ term ∈ terms,
      Agree Value.Agrees (term.evalWith invoke env) (term.evalWith invoke env')) :
    Agree (List.Forall₂ Value.Agrees) (evalAllWith invoke terms env)
      (evalAllWith invoke terms env') :=
  .evalAllWith (List.forall₂_same.mpr h)

/-- A call depends on the environment that it is made in only by its callee and its arguments. -/
theorem agree_call
    (hinvoke : ∀ body {env env' : Env}, env.AgreeOn body.free env' →
      Agree Value.Agrees (inCall (invoke body env)) (inCall (invoke body env')))
    {location : Location} {callee : Term} {arguments : List Term} {env env' : Env}
    (hcallee : Agree Value.Agrees (callee.evalWith invoke env) (callee.evalWith invoke env'))
    (harguments : ∀ argument ∈ arguments,
      Agree Value.Agrees (argument.evalWith invoke env) (argument.evalWith invoke env')) :
    Agree Value.Agrees ((call location callee arguments).evalWith invoke env)
      ((call location callee arguments).evalWith invoke env') := by
  refine agree_node _ location (.bind hcallee fun function function' hfunction => ?_)
  refine .bind (agree_orFail hfunction.asCallee) fun closure closure' hclosure => ?_
  refine .bind (agree_evalAllWith harguments) fun values values' hvalues => ?_
  exact agree_apply hinvoke hfunction hclosure hvalues

/-- A term does the same in environments that agree on its free names, if the bodies of functions
do. -/
theorem agree_evalWith
    (hinvoke : ∀ body {env env' : Env}, env.AgreeOn body.free env' →
      Agree Value.Agrees (inCall (invoke body env)) (inCall (invoke body env')))
    (term : Term) {env env' : Env} (h : env.AgreeOn term.free env') :
    Agree Value.Agrees (term.evalWith invoke env) (term.evalWith invoke env') := by
  induction term generalizing env env' with
  | hole cause => exact .fault cause
  | unknown location kind =>
    cases kind with
    | none => exact .fault _
    | some kind => exact agree_node _ location (.fault _)
  | bool location value =>
    refine agree_node _ location ?_
    cases value with
    | error cause => exact .fault cause
    | ok b => exact .pure .bool
  | int location value =>
    refine agree_node _ location ?_
    cases value with
    | error cause => exact .fault cause
    | ok n => exact .pure .int
  | string location value =>
    refine agree_node _ location ?_
    cases value with
    | error cause => exact .fault cause
    | ok s => exact .pure .string
  | var location name =>
    refine agree_node _ location ?_
    cases name with
    | error cause => exact .fault cause
    | ok name => exact agree_orFail h.lookup
  | function location parameters body =>
    refine agree_node _ location ?_
    cases parameters with
    | error cause => exact .fault cause
    | ok parameters => exact .pure (.closure h)
  | call location callee arguments ihcallee iharguments =>
    rw [free] at h
    refine agree_call hinvoke (ihcallee h.left) fun argument hmem => iharguments argument hmem ?_
    exact h.right.mono fun name hname => mem_freeAll.mpr ⟨argument, hmem, hname⟩
  | binary location op lhs rhs ihlhs ihrhs =>
    rw [free] at h
    refine agree_node _ location ?_
    cases op with
    | error cause => exact .fault cause
    | ok op =>
      rw [orFault_ok, pure_bind, pure_bind]
      refine .bind (ihlhs h.left) fun a a' ha => .bind (ihrhs h.right) fun b b' hb => ?_
      rw [← ha.alike.akin.apply_eq hb.alike.akin op]
      cases op.apply a b with
      | error cause => exact .fail rfl
      | ok value => exact .pure (.refl value)
  | letIn location name value next ihvalue ihnext =>
    refine agree_node _ location ?_
    cases name with
    | error cause =>
      rw [free] at h
      exact .bind (ihvalue h) fun _ _ _ => .fault cause
    | ok name =>
      rw [free] at h
      refine .bind (ihvalue h.left) fun value value' hvalue => ihnext ?_
      rw [← beyond_nil next.free]
      exact h.right.bind hvalue
  | ifElse location condition consequent alternative ihcondition ihconsequent ihalternative =>
    rw [free] at h
    refine agree_node _ location (.bind (ihcondition h.left) fun value value' hvalue => ?_)
    rw [← hvalue.alike.akin.toBool_eq]
    cases value.toBool (.text "if condition") with
    | error cause => exact .fail rfl
    | ok chosen =>
      cases chosen with
      | true => exact ihconsequent h.right.left
      | false => exact ihalternative h.right.right
  | print location value ihvalue =>
    refine agree_node _ location (.bind (ihvalue h) fun value value' hvalue => ?_)
    exact .printValue (fun _ => rfl) hvalue.alike hvalue

theorem agree_eval (limit : Nat) (term : Term) {env env' : Env} (h : env.AgreeOn term.free env') :
    Agree Value.Agrees (term.eval limit env) (term.eval limit env') := by
  induction limit generalizing term env env' with
  | zero => exact agree_evalWith (fun _ _ _ _ => .inCall (fun _ => rfl) .exhaust) term h
  | succ limit ih =>
    exact agree_evalWith (fun body _ _ henv => .inCall (fun _ => rfl) (ih body henv)) term h

theorem agree_eval_call (limit : Nat) (location : Location) {callee : Term}
    {arguments : List Term} {env env' : Env}
    (hcallee : Agree Value.Agrees (callee.eval limit env) (callee.eval limit env'))
    (harguments : ∀ argument ∈ arguments,
      Agree Value.Agrees (argument.eval limit env) (argument.eval limit env')) :
    Agree Value.Agrees ((call location callee arguments).eval limit env)
      ((call location callee arguments).eval limit env') := by
  cases limit with
  | zero => exact agree_call (fun _ _ _ _ => .inCall (fun _ => rfl) .exhaust) hcallee harguments
  | succ limit =>
    exact agree_call (fun body _ _ henv => .inCall (fun _ => rfl) (agree_eval limit body henv))
      hcallee harguments

/-- Runs that agree still do at the root. -/
theorem Agree.evalRoot {limit : Nat} {term : Term} {env env' : Env}
    (h : Agree Value.Agrees (term.eval limit env) (term.eval limit env')) :
    Agree Value.Agrees (term.evalRoot limit env) (term.evalRoot limit env') :=
  Eval.Related.evalRoot (fun _ => rfl) h

/-- Runs are lexically scoped.

* In two environments that agree on the free names of a term it does the same in every context, and
  gives values that agree or the same error at the same location.
* So a binding of a name that is not free in the term has no influence at all.
* And a call depends on the environment that it is made in only by what its callee and its arguments
  do there: whatever else is bound there, the body of the called function sees nothing of it. -/
theorem run_agrees_of_free (limit : Nat) (term : Term) (env : Env) :
    (∀ env', env.AgreeOn term.free env' →
      Agree Value.Agrees (term.eval limit env) (term.eval limit env') ∧
        Agree Value.Agrees (term.evalRoot limit env) (term.evalRoot limit env')) ∧
    (∀ name value, (∀ other ∈ term.free, Env.sameName name other = false) →
      Agree Value.Agrees (term.eval limit env) (term.eval limit (env.bind name value)) ∧
        Agree Value.Agrees (term.evalRoot limit env)
          (term.evalRoot limit (env.bind name value))) ∧
    ∀ location callee arguments env', term = .call location callee arguments →
      Agree Value.Agrees (callee.eval limit env) (callee.eval limit env') →
      (∀ argument ∈ arguments,
        Agree Value.Agrees (argument.eval limit env) (argument.eval limit env')) →
      Agree Value.Agrees (term.eval limit env) (term.eval limit env') ∧
        Agree Value.Agrees (term.evalRoot limit env) (term.evalRoot limit env') := by
  refine ⟨fun env' h => ?_, fun name value hname => ?_, ?_⟩
  · have hrun := agree_eval limit term h
    exact ⟨hrun, hrun.evalRoot⟩
  · have hrun := agree_eval limit term (.of_not_bound env value hname)
    exact ⟨hrun, hrun.evalRoot⟩
  · rintro location callee arguments env' rfl hcallee harguments
    have hrun := agree_eval_call limit location hcallee harguments
    exact ⟨hrun, hrun.evalRoot⟩

/-- A call of a function that adds what is bound to `k` where it was made: whatever else it
captured, and whatever `k` is where it is called, is all the same. -/
theorem run_agrees_of_free_call :
    let body : Term :=
      .binary none (.ok .add) (.var none (.ok (.text "x"))) (.var none (.ok (.text "k")))
    let captured := Env.empty.bind (.text "k") (.int 1)
    let adder (env : Env) : Value := .closure [.text "x"] body env
    let env := Env.empty.bind (.text "f") (adder captured)
    let env' := Env.empty.bind (.text "f") (adder (captured.bind (.text "z") (.int 2)))
    let inner := env.bind (.text "k") (.int 5)
    let callee : Term := .var none (.ok (.text "f"))
    let argument : Term := .int none (.ok 3)
    let added : Term := .call none callee [argument]
    env.AgreeOn added.free env' ∧
      Agree Value.Agrees (added.eval 1 env) (added.eval 1 env') ∧
      (∀ other ∈ added.free, Env.sameName (.text "k") other = false) ∧
      Agree Value.Agrees (added.eval 1 env) (added.eval 1 inner) ∧
      Agree Value.Agrees (callee.eval 1 env) (callee.eval 1 inner) ∧
      (∀ term ∈ [argument], Agree Value.Agrees (term.eval 1 env) (term.eval 1 inner)) ∧
      Agree Value.Agrees (added.evalRoot 1 env) (added.evalRoot 1 inner) := by
  intro body captured adder env env' inner callee argument added
  have henv : env.AgreeOn added.free env' := by
    intro name hmem
    have hname : name = .text "f" := List.mem_singleton.mp hmem
    subst hname
    refine .some (.closure fun name hmem => ?_)
    have hbody : Term.beyond [.text "x"] body.free = [.text "k"] := by decide
    rw [hbody] at hmem
    obtain rfl := List.mem_singleton.mp hmem
    exact .some .int
  have hname : ∀ other ∈ added.free, Env.sameName (.text "k") other = false := by decide
  have hcallee : Agree Value.Agrees (callee.eval 1 env) (callee.eval 1 inner) :=
    agree_eval 1 callee (.of_not_bound env (.int 5) hname)
  have hargument (term : Term) (hmem : term ∈ [argument]) :
      Agree Value.Agrees (term.eval 1 env) (term.eval 1 inner) := by
    obtain rfl := List.mem_singleton.mp hmem
    have hnone : ∀ other ∈ argument.free, Env.sameName (.text "k") other = false := by decide
    exact agree_eval 1 argument (.of_not_bound env (.int 5) hnone)
  obtain ⟨hfree, hbound, hcall⟩ := run_agrees_of_free 1 added env
  exact ⟨henv, (hfree env' henv).1, hname, (hbound _ _ hname).1, hcallee, hargument,
    (hcall none callee [argument] inner rfl hcallee hargument).2⟩

end Term

end Rinha
