import Rinha.Proofs.Logged
import Rinha.Proofs.OperatorRules
import Rinha.Proofs.Related

/-!
# Rinha.Proofs.Correspondence

Programs that correspond place by place, under other names.  A `Correspondence` says which terms may
stand in the place of which, and what becomes of names; related terms are the same construct at the
same location, with related parts (`Term.Matched`).  Values and environments that programs make are
then related in the same way (`Value.Matched`, `Env.Matched`): functions have related bodies and
captured environments, and everything that holds no term is the same but for its names.

A correspondence may also excuse faults: a term in whose place anything may stand has to end in one
of them.  So either the first of two runs ends in an excused fault, or both do the same and end in
the same way up to the correspondence (`Correspondence.evalIn`, `Correspondence.evalRoot`).
-/

namespace Rinha

open Effects

/-! ## other names -/

section

variable (rename : Name → Name)

/-- Data under its other name, if it can be a name. -/
def Data.renamed : Data → Data
  | .scalar name => .scalar (rename name)
  | .list items => .list items
  | .object fields => .object fields

/-- A cause that tells a name, with that under its other name. -/
def Cause.renamed : Cause → Cause
  | .unboundVariable name => .unboundVariable (name.renamed rename)
  | .missingArgument parameter => .missingArgument (parameter.renamed rename)
  | .typeMismatch expected actual context => .typeMismatch expected actual context
  | .unsupportedOperation lhs rhs => .unsupportedOperation lhs rhs
  | .divisionByZero op => .divisionByZero op
  | .stackExhausted limit => .stackExhausted limit
  | .hostExhausted deepest => .hostExhausted deepest
  | .general message => .general message

/-- An error with the name that it tells under its other name. -/
def Error.renamed (error : Error) : Error :=
  { error with cause := error.cause.renamed rename }

theorem Error.renamed_stamp (error : Error) (location : Option Data) :
    (error.stamp location).renamed rename = (error.renamed rename).stamp location := rfl

/-- What an operator refuses it refuses by no name. -/
theorem BinaryOp.Refuses.renamed_eq {op : BinaryOp} {lhs rhs : Value} {cause : Cause}
    (h : op.Refuses lhs rhs cause) : cause.renamed rename = cause := by
  cases h with
  | mismatch _ h => cases h <;> rfl
  | zero _ => rfl
  | incomparable _ _ => rfl

end

@[simp] theorem Data.renamed_id (data : Data) : data.renamed id = data := by
  cases data <;> rfl

@[simp] theorem Data.map_renamed_id : List.map (Data.renamed id) = id :=
  funext (List.map_id'' Data.renamed_id)

@[simp] theorem Cause.renamed_id (cause : Cause) : cause.renamed id = cause := by
  cases cause <;> simp [Cause.renamed]

@[simp] theorem Error.renamed_id (error : Error) : error.renamed id = error := by
  simp [Error.renamed]

/-! ## related terms, values and environments -/

section

variable (rename : Name → Name) (R : Term → Term → Prop)

/-- Two terms of the same construct at the same location, with related subterms and the same other
parts but for names. -/
inductive Term.Matched : Term → Term → Prop where
  | hole {cause : Fault} : Matched (.hole cause) (.hole cause)
  | unknown {location : Location} {kind : Option Data} :
    Matched (.unknown location kind) (.unknown location kind)
  | bool {location : Location} {value : Except Fault Bool} :
    Matched (.bool location value) (.bool location value)
  | int {location : Location} {value : Except Fault Int} :
    Matched (.int location value) (.int location value)
  | string {location : Location} {value : Except Fault String} :
    Matched (.string location value) (.string location value)
  | var {location : Location} {name : Except Fault Name} :
    Matched (.var location name) (.var location (rename <$> name))
  | function {location : Location} {parameters : Except Fault (List Data)} {body body' : Term} :
    R body body' →
      Matched (.function location parameters body)
        (.function location (List.map (Data.renamed rename) <$> parameters) body')
  | call {location : Location} {callee callee' : Term} {arguments arguments' : List Term} :
    R callee callee' → List.Forall₂ R arguments arguments' →
      Matched (.call location callee arguments) (.call location callee' arguments')
  | binary {location : Location} {op : Except Fault BinaryOp} {lhs lhs' rhs rhs' : Term} :
    R lhs lhs' → R rhs rhs' → Matched (.binary location op lhs rhs) (.binary location op lhs' rhs')
  | letIn {location : Location} {name : Except Fault Name} {value value' next next' : Term} :
    R value value' → R next next' →
      Matched (.letIn location name value next) (.letIn location (rename <$> name) value' next')
  | ifElse {location : Location}
      {condition condition' consequent consequent' alternative alternative' : Term} :
    R condition condition' → R consequent consequent' → R alternative alternative' →
      Matched (.ifElse location condition consequent alternative)
        (.ifElse location condition' consequent' alternative')
  | print {location : Location} {value value' : Term} :
    R value value' → Matched (.print location value) (.print location value')

mutual

/-- Two values that are the same but for names and for what stands in the place of bodies. -/
inductive Value.Matched : Value → Value → Prop where
  | bool {b : Bool} : Value.Matched (.bool b) (.bool b)
  | int {n : Int} : Value.Matched (.int n) (.int n)
  | string {s : String} : Value.Matched (.string s) (.string s)
  | foreign {kind : ForeignKind} {content : Data} :
    Value.Matched (.foreign kind content) (.foreign kind content)
  | closure {parameters : List Data} {body body' : Term} {env env' : Env} :
    R body body' → Env.Matched env env' →
      Value.Matched (.closure parameters body env)
        (.closure (parameters.map (Data.renamed rename)) body' env')

/-- Two environments with the same bindings in the same order, but for names and for what stands in
the place of bodies. -/
inductive Env.Matched : Env → Env → Prop where
  | empty : Env.Matched .empty .empty
  | binding {name : Name} {value value' : Value} {rest rest' : Env} :
    Value.Matched value value' → Env.Matched rest rest' →
      Env.Matched (.binding name value rest) (.binding (rename name) value' rest')

end

end

variable {rename : Name → Name} {R : Term → Term → Prop}

theorem Outcome.Rel.stamp {E : Error → Error → Prop} {α β : Type} {V : α → β → Prop}
    {one : Outcome α} {other : Outcome β} (location : Option Data)
    (hE : ∀ e e', E e e' → E (e.stamp location) (e'.stamp location))
    (h : Outcome.Rel E V one other) :
    Outcome.Rel E V (one.stamp location) (other.stamp location) := by
  cases h with
  | done hab => exact .done hab
  | failed he => exact .failed (hE _ _ he)
  | faulted => exact .faulted
  | exhausted => exact .exhausted

theorem Term.Matched.location_eq {term term' : Term} (h : term.Matched rename R term') :
    term.location = term'.location := by
  cases h <;> rfl

namespace Value.Matched

variable {value value' : Value}

theorem akin (h : value.Matched rename R value') : value.Akin value' := by
  cases h with
  | closure => exact .closure
  | _ => exact .refl _

/-- Where names stay, a rendering does not tell the values apart. -/
theorem alike (h : value.Matched id R value') : value.Alike value' := by
  cases h with
  | closure =>
    rw [Data.map_renamed_id]
    exact .closure
  | _ => exact .refl _

/-- What an operator computes holds no term. -/
theorem of_computes {op : BinaryOp} {lhs rhs result : Value} (h : op.Computes lhs rhs result) :
    result.Matched rename R result := by
  cases h <;> constructor

end Value.Matched

/-- The parts of two functions that are matched. -/
structure Closure.Matched (rename : Name → Name) (R : Term → Term → Prop)
    (closure closure' : Closure) : Prop where
  parameters_eq : closure'.parameters = closure.parameters.map (Data.renamed rename)
  body : R closure.body closure'.body
  env : closure.env.Matched rename R closure'.env

theorem Value.Matched.asCallee {value value' : Value} (h : value.Matched rename R value') :
    ExceptRel (fun cause cause' => cause.renamed rename = cause') (Closure.Matched rename R)
      value.asCallee value'.asCallee := by
  cases h with
  | closure hbody henv => exact .ok ⟨rfl, hbody, henv⟩
  | _ => exact .error rfl

/-! ## looking up and binding -/

namespace Env.Matched

variable {env env' : Env} (hrename : ∀ a b, sameName (rename a) (rename b) = sameName a b)

include hrename

theorem lookup? (h : env.Matched rename R env') (name : Name) :
    Option.Rel (Value.Matched rename R) (env.lookup? name) (env'.lookup? (rename name)) := by
  induction env generalizing env' with
  | empty =>
    cases h with
    | empty => exact .none
  | binding bound value rest ih =>
    cases h with
    | binding hvalue hrest =>
      rw [Env.lookup?, Env.lookup?, hrename]
      split
      · exact .some hvalue
      · exact ih hrest

/-- A name is looked up in one environment as its other name is in the other. -/
theorem lookup (h : env.Matched rename R env') (name : Name) :
    ExceptRel (fun cause cause' => cause.renamed rename = cause') (Value.Matched rename R)
      (env.lookup name) (env'.lookup (rename name)) :=
  .lookup (lookup? hrename h name) rfl

theorem bind (h : env.Matched rename R env') (name : Name) {value value' : Value}
    (hvalue : value.Matched rename R value') :
    (env.bind name value).Matched rename R (env'.bind (rename name) value') := by
  induction env generalizing env' with
  | empty =>
    cases h with
    | empty => exact .binding hvalue .empty
  | binding bound old rest ih =>
    cases h with
    | binding hold hrest =>
      rw [Env.bind, Env.bind, hrename]
      split
      · exact .binding hvalue hrest
      · exact .binding hold (ih hrest)

theorem bindAll (h : env.Matched rename R env') (parameters : List Data)
    {arguments arguments' : List Value}
    (harguments : List.Forall₂ (Value.Matched rename R) arguments arguments') :
    ExceptRel Eq (Env.Matched rename R) (env.bindAll parameters arguments)
      (env'.bindAll (parameters.map (Data.renamed rename)) arguments') := by
  induction harguments generalizing env env' parameters with
  | nil => cases parameters <;> exact .ok h
  | cons hvalue _ ih =>
    cases parameters with
    | nil => exact .ok h
    | cons parameter parameters =>
      cases parameter with
      | scalar name => exact ih (bind hrename h name hvalue) parameters
      | list items => exact .error rfl
      | object fields => exact .error rfl

end Env.Matched

/-! ## correspondences -/

/-- A correspondence of programs. -/
structure Correspondence where
  /-- What becomes of a name. -/
  rename : Name → Name
  /-- Which terms may stand in the place of which. -/
  term : Term → Term → Prop
  /-- The faults after which the second run may be any. -/
  excused : Fault → Prop
  sameName_rename (a b : Name) : Env.sameName (rename a) (rename b) = Env.sameName a b
  /-- A term that any other may stand in the place of ends in an excused fault. -/
  matched {one other : Term} : term one other →
    (∃ location kind, one = .unknown location (some kind) ∧
      excused (.unknownKind kind.display)) ∨ one.Matched rename term other

namespace Correspondence

variable (C : Correspondence)

/-- Values that correspond. -/
abbrev value : Value → Value → Prop :=
  Value.Matched C.rename C.term

/-- Environments that correspond. -/
abbrev env : Env → Env → Prop :=
  Env.Matched C.rename C.term

/-- Causes that correspond. -/
abbrev cause (cause cause' : Cause) : Prop :=
  cause.renamed C.rename = cause'

/-- Errors that correspond. -/
abbrev error (error error' : Error) : Prop :=
  error.renamed C.rename = error'

/-- Contexts in which other names make no difference: names are told in a trace only. -/
def Admits (context : Context) : Prop :=
  context.debug = true → C.rename = id

/-- What is left behind by two computations of which the first one ends in an excused fault, or that
both do the same and end in the same way. -/
def Ends {α β σ : Type} (V : α → β → Prop) (one : Outcome α × σ) (other : Outcome β × σ) : Prop :=
  (∃ fault, C.excused fault ∧ one.1 = .faulted fault) ∨
    (Outcome.Rel C.error V one.1 other.1 ∧ one.2 = other.2)

/-- Two computations that correspond in all contexts that are admitted. -/
def Runs {α β : Type} (V : α → β → Prop) (x : Logged α) (y : Logged β) : Prop :=
  ∀ context, C.Admits context → C.Ends V (x context) (y context)

variable {C}

theorem Admits.after {context : Context} (h : C.Admits context) (events : List Event) :
    C.Admits (context.after events) := by
  rwa [Admits, Context.debug_after]

namespace Runs

variable {α β γ δ : Type} {V : α → β → Prop} {W : γ → δ → Prop}

theorem pure {a : α} {b : β} (h : V a b) : C.Runs V (Pure.pure a) (Pure.pure b) :=
  fun _ _ => .inr ⟨.done h, rfl⟩

theorem fail {cause cause' : Cause} (h : C.cause cause cause') :
    C.Runs V (Effects.fail cause) (Effects.fail cause') :=
  fun _ _ => .inr ⟨.failed (by rw [← h]; rfl), rfl⟩

theorem fault (cause : Fault) : C.Runs V (Effects.fault cause) (Effects.fault cause) :=
  fun _ _ => .inr ⟨.faulted, rfl⟩

theorem exhaust : C.Runs V Effects.exhaust Effects.exhaust :=
  fun _ _ => .inr ⟨.exhausted, rfl⟩

theorem emit (line : String) : C.Runs Eq (Effects.emit line) (Effects.emit line) :=
  fun _ _ => .inr ⟨.done rfl, rfl⟩

theorem trace (message : String) : C.Runs Eq (Effects.trace message) (Effects.trace message) :=
  fun _ _ => .inr ⟨.done rfl, rfl⟩

theorem bind {x : Logged α} {y : Logged β} {f : α → Logged γ} {g : β → Logged δ}
    (h : C.Runs V x y) (hfg : ∀ a b, V a b → C.Runs W (f a) (g b)) :
    C.Runs W (x >>= f) (y >>= g) := by
  intro context hadmits
  have hxy := h context hadmits
  cases hx : x context with
  | mk outcome events =>
    cases hy : y context with
    | mk outcome' events' =>
      rw [hx, hy] at hxy
      obtain ⟨fault, hexcused, rfl⟩ | ⟨houtcome, rfl⟩ := hxy
      · rw [Logged.bind_faulted hx]
        exact .inl ⟨fault, hexcused, rfl⟩
      · cases houtcome with
        | done hab =>
          rw [Logged.bind_done hx, Logged.bind_done hy]
          obtain hexcused | ⟨hrest, hevents⟩ := hfg _ _ hab _ (hadmits.after events)
          · exact .inl hexcused
          · exact .inr ⟨hrest, congrArg (events ++ ·) hevents⟩
        | failed he =>
          rw [Logged.bind_failed hx, Logged.bind_failed hy]
          exact .inr ⟨.failed he, rfl⟩
        | faulted =>
          rw [Logged.bind_faulted hx, Logged.bind_faulted hy]
          exact .inr ⟨.faulted, rfl⟩
        | exhausted =>
          rw [Logged.bind_exhausted hx, Logged.bind_exhausted hy]
          exact .inr ⟨.exhausted, rfl⟩

theorem stamp {x : Logged α} {y : Logged β} (location : Option Data) (h : C.Runs V x y) :
    C.Runs V (Effects.stamp location x) (Effects.stamp location y) := by
  intro context hadmits
  rw [Logged.stamp_apply, Logged.stamp_apply]
  obtain ⟨fault, hexcused, hfault⟩ | ⟨houtcome, hevents⟩ := h context hadmits
  · exact .inl ⟨fault, hexcused, by rw [hfault]; rfl⟩
  · exact .inr ⟨houtcome.stamp location fun e _ he => he ▸ e.renamed_stamp C.rename location, hevents⟩

theorem inCall {x : Logged α} {y : Logged β} (h : C.Runs V x y) :
    C.Runs V (Effects.inCall x) (Effects.inCall y) := by
  intro context hadmits
  obtain ⟨fault, hcall⟩ | ⟨limit, hcall⟩ | hcall := Logged.inCall_cases context
  · rw [hcall, hcall]
    exact .inr ⟨.faulted, rfl⟩
  · rw [hcall, hcall]
    exact .inr ⟨.failed rfl, rfl⟩
  · rw [hcall, hcall]
    obtain hexcused | ⟨houtcome, hevents⟩ := h context.enter hadmits
    · exact .inl hexcused
    · exact .inr ⟨houtcome, by rw [hevents]⟩

theorem node {x : Logged α} {y : Logged β} (kind : String) (location : Location)
    (h : C.Runs V x y) : C.Runs V (Effects.node kind location x) (Effects.node kind location y) :=
  bind (trace _) fun _ _ _ => h.stamp location

theorem orFail {x : Except Cause α} {y : Except Cause β} (h : ExceptRel C.cause V x y) :
    C.Runs V (Effects.orFail x) (Effects.orFail y) := by
  cases h with
  | ok hab => exact pure hab
  | error hcause => exact fail hcause

theorem orFault {x : Except Fault α} {y : Except Fault β} (h : ExceptRel Eq V x y) :
    C.Runs V (Effects.orFault x) (Effects.orFault y) := by
  cases h with
  | ok hab => exact pure hab
  | error hfault => rw [hfault]; exact fault _

/-- What can be read is the same, or as unreadable. -/
theorem orFault_same (x : Except Fault α) : C.Runs Eq (Effects.orFault x) (Effects.orFault x) := by
  cases x with
  | ok result => exact pure rfl
  | error cause => exact fault cause

/-! ### terms -/

theorem printValue {value value' : Value} (h : C.value value value') :
    C.Runs C.value (Effects.printValue value) (Effects.printValue value') := by
  unfold Effects.printValue
  rw [← h.akin.toText_eq]
  cases htext : value.toText (.text "print") with
  | error cause =>
    obtain ⟨-, rfl⟩ := Value.toText_eq_error_iff.mp htext
    exact fail rfl
  | ok line =>
    rw [orFail_ok, pure_bind, pure_bind]
    exact bind (emit line) fun _ _ _ => pure h

/-- What is traced of a call tells names, so it is the same only where names stay. -/
theorem traceWith {callee callee' : Value} {arguments arguments' : List Value}
    (hcallee : C.value callee callee') (harguments : List.Forall₂ C.value arguments arguments') :
    C.Runs Eq (Effects.traceWith (callMessage callee arguments))
      (Effects.traceWith (callMessage callee' arguments')) := by
  intro context hadmits
  show C.Ends Eq (Logged.traceWith _ context) (Logged.traceWith _ context)
  unfold Logged.traceWith
  cases hdebug : context.debug with
  | false =>
    -- The messages may differ, or be faults, but neither is worked out.
    exact .inr ⟨.done rfl, rfl⟩
  | true =>
    have hid : C.rename = id := hadmits hdebug
    have hmessage : callMessage callee arguments = callMessage callee' arguments' := by
      unfold value at hcallee harguments
      rw [hid] at hcallee harguments
      exact callMessage_eq hcallee.alike (harguments.imp fun _ _ h => h.alike)
    rw [hmessage, if_pos rfl]
    cases callMessage callee' arguments' with
    | ok message => exact .inr ⟨.done rfl, rfl⟩
    | error cause => exact .inr ⟨.faulted, rfl⟩

theorem callEnv {closure closure' : Closure} {arguments arguments' : List Value}
    (h : closure.Matched C.rename C.term closure')
    (harguments : List.Forall₂ C.value arguments arguments') :
    C.Runs C.env (Effects.callEnv closure arguments) (Effects.callEnv closure' arguments') := by
  unfold Effects.callEnv
  rw [h.parameters_eq, ← harguments.length_eq, ← List.map_drop]
  cases closure.parameters.drop arguments.length with
  | nil => exact orFault (h.env.bindAll C.sameName_rename closure.parameters harguments)
  | cons parameter rest => exact fail rfl

variable {invoke invoke' : Term → Env → Logged Value}

theorem apply
    (hinvoke : ∀ {body body' env env'}, C.term body body' → C.env env env' →
      C.Runs C.value (Effects.inCall (invoke body env)) (Effects.inCall (invoke' body' env')))
    {callee callee' : Value} {closure closure' : Closure} {arguments arguments' : List Value}
    (hcallee : C.value callee callee') (hclosure : closure.Matched C.rename C.term closure')
    (harguments : List.Forall₂ C.value arguments arguments') :
    C.Runs C.value (Effects.apply invoke callee closure arguments)
      (Effects.apply invoke' callee' closure' arguments') :=
  bind (callEnv hclosure harguments) fun _ _ henv =>
    bind (traceWith hcallee harguments) fun _ _ _ => hinvoke hclosure.body henv

theorem evalAllWith {terms terms' : List Term} (h : List.Forall₂ C.term terms terms')
    {env env' : Env} (hterms : ∀ term ∈ terms, ∀ {term'}, C.term term term' →
      C.Runs C.value (term.evalWith invoke env) (term'.evalWith invoke' env')) :
    C.Runs (List.Forall₂ C.value) (Term.evalAllWith invoke terms env)
      (Term.evalAllWith invoke' terms' env') := by
  induction h with
  | nil => exact pure .nil
  | cons hterm _ ih =>
    rw [List.forall_mem_cons] at hterms
    exact bind (hterms.1 hterm) fun _ _ hvalue =>
      bind (ih hterms.2) fun _ _ hvalues => pure (.cons hvalue hvalues)

end Runs

/-- A term in whose place another construct may stand is one of no known kind. -/
theorem matched_of_ne {one other : Term} (h : C.term one other)
    (hne : ∀ location kind, one ≠ .unknown location (some kind)) :
    one.Matched C.rename C.term other := by
  obtain ⟨location, kind, rfl, -⟩ | hmatched := C.matched h
  · exact absurd rfl (hne location kind)
  · exact hmatched

/-- Terms that correspond, evaluated in environments that correspond, give computations that
correspond, if the bodies of functions do.  Both terms are taken apart along the first one, until
there is one in whose place anything may stand. -/
theorem evalWith {invoke invoke' : Term → Env → Logged Value}
    (hinvoke : ∀ {body body' env env'}, C.term body body' → C.env env env' →
      C.Runs C.value (Effects.inCall (invoke body env)) (Effects.inCall (invoke' body' env')))
    {term term' : Term} (h : C.term term term') {env env' : Env} (henv : C.env env env') :
    C.Runs C.value (term.evalWith invoke env) (term'.evalWith invoke' env') := by
  induction term generalizing term' env env' with
  | hole cause =>
    cases matched_of_ne h nofun with
    | hole => exact .fault cause
  | unknown location kind =>
    -- Here, and only here, another construct may stand on the other side.
    obtain ⟨_, kind, ⟨⟩, hexcused⟩ | hmatched := C.matched h
    · exact fun _ _ => .inl ⟨_, hexcused, rfl⟩
    · cases hmatched with
      | unknown =>
        cases kind with
        | none => exact .fault _
        | some kind => exact .node _ location (.fault _)
  | bool location value =>
    cases matched_of_ne h nofun with
    | bool => exact .node _ location (.bind (.orFault_same value) fun _ _ hb => .pure (hb ▸ .bool))
  | int location value =>
    cases matched_of_ne h nofun with
    | int => exact .node _ location (.bind (.orFault_same value) fun _ _ hn => .pure (hn ▸ .int))
  | string location value =>
    cases matched_of_ne h nofun with
    | string =>
      exact .node _ location (.bind (.orFault_same value) fun _ _ hs => .pure (hs ▸ .string))
  | var location name =>
    cases matched_of_ne h nofun with
    | var =>
      refine .node _ location (.bind (.orFault (.map_right C.rename name)) fun name _ hname => ?_)
      rw [← hname]
      exact .orFail (henv.lookup C.sameName_rename name)
  | function location parameters body =>
    cases matched_of_ne h nofun with
    | function hbody =>
      refine .node _ location (.bind (.orFault (.map_right _ parameters)) fun _ _ hnames => ?_)
      rw [← hnames]
      exact .pure (.closure hbody henv)
  | call location callee arguments ihcallee iharguments =>
    cases matched_of_ne h nofun with
    | call hcallee harguments =>
      refine .node _ location (.bind (ihcallee hcallee henv) fun callee callee' hvalue => ?_)
      refine .bind (.orFail hvalue.asCallee) fun closure closure' hclosure => ?_
      have hall := Runs.evalAllWith harguments fun argument hmem _ hargument =>
        iharguments argument hmem hargument henv
      exact .bind hall fun _ _ => .apply hinvoke hvalue hclosure
  | binary location op lhs rhs ihlhs ihrhs =>
    cases matched_of_ne h nofun with
    | binary hlhs hrhs =>
      refine .node _ location (.bind (.orFault_same op) fun op _ hop => ?_)
      refine .bind (ihlhs hlhs henv) fun a a' ha => .bind (ihrhs hrhs henv) fun b b' hb => ?_
      rw [← hop, ← ha.akin.apply_eq hb.akin op]
      refine .orFail ?_
      cases hresult : op.apply a b with
      | ok result => exact .ok (.of_computes (BinaryOp.computes_of_apply_eq_ok hresult))
      | error cause =>
        exact .error ((BinaryOp.apply_eq_error_iff.mp hresult).renamed_eq C.rename)
  | letIn location name value next ihvalue ihnext =>
    cases matched_of_ne h nofun with
    | letIn hvalue hnext =>
      refine .node _ location (.bind (ihvalue hvalue henv) fun value value' hvalue => ?_)
      refine .bind (.orFault (.map_right C.rename name)) fun name _ hname => ?_
      rw [← hname]
      exact ihnext hnext (henv.bind C.sameName_rename name hvalue)
  | ifElse location condition consequent alternative ihcondition ihconsequent ihalternative =>
    cases matched_of_ne h nofun with
    | ifElse hcondition hconsequent halternative =>
      refine .node _ location (.bind (ihcondition hcondition henv) fun value value' hvalue => ?_)
      rw [← hvalue.akin.toBool_eq]
      cases hchosen : value.toBool (.text "if condition") with
      | error cause =>
        obtain ⟨-, rfl⟩ := Value.toBool_eq_error_iff.mp hchosen
        exact .fail rfl
      | ok chosen =>
        rw [orFail_ok, pure_bind, pure_bind]
        cases chosen with
        | true => exact ihconsequent hconsequent henv
        | false => exact ihalternative halternative henv
  | print location value ihvalue =>
    cases matched_of_ne h nofun with
    | print hvalue => exact .node _ location (.bind (ihvalue hvalue henv) fun _ _ => .printValue)

/-- Programs that correspond give computations that correspond, on every machine. -/
theorem evalIn (limit : Nat) {term term' : Term} (h : C.term term term') {env env' : Env}
    (henv : C.env env env') :
    C.Runs C.value (term.evalIn Logged limit env) (term'.evalIn Logged limit env') := by
  induction limit generalizing term term' env env' with
  | zero => exact evalWith (fun _ _ => .inCall .exhaust) h henv
  | succ limit ih => exact evalWith (fun hbody henv => .inCall (ih hbody henv)) h henv

/-! ## runs in a context -/

section

variable (limit : Nat) {term term' : Term} {env env' : Env} {context : Context}

theorem ends_eval (h : C.term term term') (henv : C.env env env') (hadmits : C.Admits context) :
    C.Ends C.value (term.eval limit env context) (term'.eval limit env' context) := by
  rw [Term.eval_eq_logged, Term.eval_eq_logged]
  obtain hexcused | ⟨houtcome, hevents⟩ := evalIn limit h henv context hadmits
  · exact .inl hexcused
  · exact .inr ⟨houtcome, by rw [hevents]⟩

/-- Programs that correspond also do so at the root: one that exhausts the machine begins with a
known construct, so the other one has its location. -/
theorem ends_evalRoot (h : C.term term term') (henv : C.env env env')
    (hadmits : C.Admits context) :
    C.Ends C.value (term.evalRoot limit env context) (term'.evalRoot limit env' context) := by
  obtain ⟨location, kind, rfl, hexcused⟩ | hmatched := C.matched h
  · exact .inl ⟨_, hexcused, by cases limit <;> rfl⟩
  · obtain ⟨fault, hexcused, hfault⟩ | ⟨houtcome, hafter⟩ := ends_eval limit h henv hadmits
    · have hne : (term.eval limit env context).1 ≠ .exhausted := by simp [hfault]
      exact .inl ⟨fault, hexcused, by rw [Term.evalRoot_of_ne_exhausted hne, hfault]⟩
    · refine .inr ⟨Eval.Related.evalRoot_fst (fun deepest => ?_) houtcome hafter, ?_⟩
      · rw [hmatched.location_eq]
        rfl
      · rw [Term.evalRoot_snd, Term.evalRoot_snd, hafter]

end

end Correspondence

end Rinha
