import Rinha.Proofs.Framed
import Rinha.Proofs.OperatorRules

/-!
# Rinha.Proofs.ErrorLocation

Where an error is located.  When an error arises, the terms that are being evaluated form a way: the
root term, a part of it, a part of that or the body of a function that it calls, and so on down to
the term whose own operation fails (`Term.Leads`).

* `Term.failsBy_evalIn` — the locations that a framed run tells of a failure are those of such a
  way;
* `Term.error_location_innermost` — and the error that leaves a term has the location of the last
  term on the way that has one.
-/

namespace Rinha

open Effects

namespace Term

/-! ## ways to a failure -/

/-- One term is evaluated inside another: as a part of it, or as the body of a function that it
calls. -/
inductive Opens : Term → Term → Prop where
  | callee {location callee arguments} : Opens (.call location callee arguments) callee
  | argument {location callee arguments argument} :
    argument ∈ arguments → Opens (.call location callee arguments) argument
  | body {location callee arguments body} : Opens (.call location callee arguments) body
  | lhs {location op lhs rhs} : Opens (.binary location op lhs rhs) lhs
  | rhs {location op lhs rhs} : Opens (.binary location op lhs rhs) rhs
  | value {location name value next} : Opens (.letIn location name value next) value
  | next {location name value next} : Opens (.letIn location name value next) next
  | condition {location condition consequent alternative} :
    Opens (.ifElse location condition consequent alternative) condition
  | consequent {location condition consequent alternative} :
    Opens (.ifElse location condition consequent alternative) consequent
  | alternative {location condition consequent alternative} :
    Opens (.ifElse location condition consequent alternative) alternative
  | printed {location value} : Opens (.print location value) value

/-- The operation of a term itself can fail with a cause. -/
inductive Raises : Term → Cause → Prop where
  | unbound {location name} :
    Raises (.var location (.ok name)) (.unboundVariable (.scalar name))
  | noFunction {location callee arguments} {value : Value} :
    value.kind ≠ .text ValueKind.closure.name →
      Raises (.call location callee arguments) (value.mismatch .closure (.text "call"))
  | missingArgument {location callee arguments parameter} :
    Raises (.call location callee arguments) (.missingArgument parameter)
  | tooDeep {location callee arguments limit} :
    Raises (.call location callee arguments) (.stackExhausted limit)
  | refused {location lhs rhs cause} {op : BinaryOp} {a b : Value} :
    op.Refuses a b cause → Raises (.binary location (.ok op) lhs rhs) cause
  | noBool {location condition consequent alternative} {value : Value} :
    value.kind ≠ .text ValueKind.bool.name →
      Raises (.ifElse location condition consequent alternative)
        (value.mismatch .bool (.text "if condition"))
  | noString {location printed} {value : Value} :
    value.kind ≠ .text ValueKind.string.name →
      Raises (.print location printed) (value.mismatch .string (.text "print"))

/-- The terms on the way from a term down to the one whose own operation fails, outermost first. -/
inductive Leads : Term → Cause → List Term → Prop where
  | here {term cause} : term.Raises cause → Leads term cause [term]
  | into {term inner cause path} :
    term.Opens inner → inner.Leads cause path → Leads term cause (term :: path)

/-- The locations of the terms on a way, innermost first. -/
def locations (path : List Term) : List Location :=
  (path.map location).reverse

theorem locations_cons (term : Term) (path : List Term) :
    locations (term :: path) = locations path ++ [term.location] := by
  simp [locations]

/-- A way leads down from a term, and these are its locations. -/
def Follows (term : Term) (cause : Cause) (inner : List Location) : Prop :=
  ∃ path, term.Leads cause path ∧ inner = locations path

/-- A way leads down from a term, and these are its locations but for that of the term itself. -/
def FollowsInside (term : Term) (cause : Cause) (inner : List Location) : Prop :=
  (term.Raises cause ∧ inner = []) ∨ ∃ part, term.Opens part ∧ part.Follows cause inner

theorem FollowsInside.append {term : Term} {cause : Cause} {inner : List Location}
    (h : term.FollowsInside cause inner) : term.Follows cause (inner ++ [term.location]) := by
  obtain ⟨hraises, rfl⟩ | ⟨part, hopens, path, hpath, rfl⟩ := h
  · exact ⟨[term], .here hraises, rfl⟩
  · exact ⟨term :: path, .into hopens hpath, (locations_cons term path).symm⟩

end Term

/-! ## failures of framed computations -/

/-- A computation whose failures tell the locations that they are given, behind others that satisfy
a condition. -/
def Framed.FailsBy {α : Type} (P : Cause → List Location → Prop) (action : Framed α) : Prop :=
  ∀ outer context failure, (action outer context).1 = .done (.error failure) →
    ∃ inner, failure.active = inner ++ outer ∧ P failure.cause inner

namespace Framed.FailsBy

variable {α β : Type} {P Q : Cause → List Location → Prop}

theorem mono {x : Framed α} (h : x.FailsBy P) (hPQ : ∀ cause inner, P cause inner → Q cause inner) :
    x.FailsBy Q := by
  intro outer context failure hfails
  obtain ⟨inner, hactive, hinner⟩ := h outer context failure hfails
  exact ⟨inner, hactive, hPQ _ _ hinner⟩

theorem pure (result : α) : FailsBy P (Pure.pure result) :=
  fun _ _ _ hfails => nomatch hfails

theorem fault (cause : Fault) : FailsBy P (Effects.fault cause : Framed α) :=
  fun _ _ _ hfails => nomatch hfails

theorem exhaust : FailsBy P (Effects.exhaust : Framed α) :=
  fun _ _ _ hfails => nomatch hfails

theorem bind {x : Framed α} {f : α → Framed β} (h : x.FailsBy P)
    (hf : ∀ result, (f result).FailsBy P) : FailsBy P (x >>= f) := by
  intro outer context failure hfails
  rcases hx : x outer context with ⟨outcome, after⟩
  have hfirst := h outer context
  rw [hx] at hfirst
  cases outcome with
  | done result =>
    cases result with
    | ok result =>
      rw [Framed.bind_ok hx] at hfails
      exact hf result outer after failure hfails
    | error _ =>
      rw [Framed.bind_error hx] at hfails
      cases hfails
      exact hfirst failure rfl
  | failed error => rw [Framed.bind_failed hx] at hfails; cases hfails
  | faulted fault => rw [Framed.bind_faulted hx] at hfails; cases hfails
  | exhausted => rw [Framed.bind_exhausted hx] at hfails; cases hfails

theorem orFail {x : Except Cause α} (h : ∀ cause, x = .error cause → P cause []) :
    FailsBy P (Effects.orFail x) := by
  cases x with
  | ok result => exact pure result
  | error cause =>
    intro outer context failure hfails
    cases hfails
    exact ⟨[], rfl, h cause rfl⟩

theorem orFault (x : Except Fault α) : FailsBy P (Effects.orFault x) := by
  cases x with
  | ok result => exact pure result
  | error cause => exact fault cause

theorem traceWith (message : Except Fault String) : FailsBy P (Effects.traceWith message) := by
  intro outer context failure hfails
  rw [Framed.traceWith_eq] at hfails
  revert hfails
  cases (Eval.traceWith message context).1 <;> nofun

theorem stamp {x : Framed α} (location : Option Data)
    (h : x.FailsBy fun cause inner => P cause (inner ++ [location])) :
    FailsBy P (Effects.stamp location x) := by
  intro outer context failure hfails
  obtain ⟨inner, hactive, hinner⟩ := h (location :: outer) context failure hfails
  exact ⟨inner ++ [location], by simp [hactive], hinner⟩

theorem inCall {x : Framed α} (hrefused : ∀ limit, P (.stackExhausted limit) [])
    (h : x.FailsBy P) : FailsBy P (Effects.inCall x) := by
  intro outer context failure hfails
  replace hfails : (Framed.inCall x outer context).1 = .done (.error failure) := hfails
  rw [Framed.inCall] at hfails
  cases hpassed : context.passed? (context.depth + 1) with
  | error fault => rw [hpassed] at hfails; cases hfails
  | ok passed =>
    rw [hpassed] at hfails
    cases passed with
    | some limit =>
      cases hfails
      exact ⟨[], rfl, hrefused limit⟩
    | none => exact h outer context.enter failure hfails

theorem node {term : Term} {x : Framed α} (kind : String) (h : x.FailsBy term.FollowsInside) :
    FailsBy term.Follows (Effects.node kind term.location x) := by
  have htrace : FailsBy term.Follows (Effects.trace s!"Evaluating: {kind}" : Framed Unit) :=
    fun _ _ _ hfails => nomatch hfails
  exact htrace.bind fun _ => stamp term.location (h.mono fun _ _ hinner => hinner.append)

/-- A part of a term. -/
theorem part {term part : Term} {x : Framed α} (hopens : term.Opens part)
    (h : x.FailsBy part.Follows) : x.FailsBy term.FollowsInside :=
  h.mono fun _ _ hfollows => .inr ⟨part, hopens, hfollows⟩

/-- The operation of a term. -/
theorem own {term : Term} {x : Except Cause α} (h : ∀ cause, x = .error cause → term.Raises cause) :
    FailsBy term.FollowsInside (Effects.orFail x) :=
  orFail fun cause hcause => .inl ⟨h cause hcause, rfl⟩

/-! ## terms -/

variable {invoke : Term → Env → Framed Value}

theorem apply
    (hinvoke : ∀ body env, (invoke body env).FailsBy body.Follows) {location : Location}
    {function : Term} {terms : List Term} (callee : Value) (closure : Closure)
    (arguments : List Value) :
    FailsBy (Term.call location function terms).FollowsInside
      (apply invoke callee closure arguments) := by
  have hcallEnv : FailsBy (Term.call location function terms).FollowsInside
      (callEnv closure arguments : Framed Env) := by
    unfold callEnv
    split
    · exact own (x := .error _) fun cause hcause => by cases hcause; exact .missingArgument
    · exact orFault _
  refine hcallEnv.bind fun env => (traceWith _).bind fun _ => ?_
  exact inCall (fun limit => .inl ⟨.tooDeep, rfl⟩) (part .body (hinvoke closure.body env))

theorem evalAllWith {terms : List Term} {env : Env}
    (h : ∀ term ∈ terms, FailsBy P (term.evalWith invoke env)) :
    FailsBy P (Term.evalAllWith invoke terms env) := by
  induction terms with
  | nil => exact pure []
  | cons term rest ih =>
    rw [List.forall_mem_cons] at h
    exact h.1.bind fun _ => (ih h.2).bind fun _ => pure _

/-- The failures of a term follow a way down from it, if those of the bodies that it runs do. -/
theorem evalWith (hinvoke : ∀ body env, (invoke body env).FailsBy body.Follows) (term : Term)
    (env : Env) : FailsBy term.Follows (term.evalWith invoke env) := by
  induction term generalizing env with
  | hole cause => exact fault cause
  | unknown location kind =>
    cases kind with
    | none => exact fault _
    | some kind => exact node _ (fault _)
  | bool location value => exact node _ ((orFault value).bind fun _ => pure _)
  | int location value => exact node _ ((orFault value).bind fun _ => pure _)
  | string location value => exact node _ ((orFault value).bind fun _ => pure _)
  | var location name =>
    refine node _ ?_
    cases name with
    | error cause => exact fault cause
    | ok name =>
      refine own fun cause hcause => ?_
      obtain ⟨-, rfl⟩ := Env.lookup_eq_error_iff.mp hcause
      exact .unbound
  | function location parameters body => exact node _ ((orFault parameters).bind fun _ => pure _)
  | call location callee arguments ihcallee iharguments =>
    refine node _ ((part .callee (ihcallee env)).bind fun value => ?_)
    have hcallee : FailsBy (Term.call location callee arguments).FollowsInside
        (Effects.orFail value.asCallee : Framed Closure) := by
      refine own fun cause hcause => ?_
      obtain ⟨hkind, rfl⟩ := Value.toClosure_eq_error_iff.mp hcause
      exact .noFunction hkind
    refine hcallee.bind fun closure => FailsBy.bind (evalAllWith fun argument hmem => ?_) ?_
    · exact part (.argument hmem) (iharguments argument hmem env)
    · exact fun values => apply hinvoke value closure values
  | binary location op lhs rhs ihlhs ihrhs =>
    refine node _ ?_
    cases op with
    | error cause => exact fault cause
    | ok op =>
      refine (part .lhs (ihlhs env)).bind fun a => (part .rhs (ihrhs env)).bind fun b => ?_
      exact own fun cause hcause => .refused (BinaryOp.apply_eq_error_iff.mp hcause)
  | letIn location name value next ihvalue ihnext =>
    refine node _ ((part .value (ihvalue env)).bind fun value => ?_)
    exact (orFault name).bind fun name => part .next (ihnext (env.bind name value))
  | ifElse location condition consequent alternative ihcondition ihconsequent ihalternative =>
    refine node _ ((part .condition (ihcondition env)).bind fun value => ?_)
    refine FailsBy.bind (own fun cause hcause => ?_) fun chosen => ?_
    · obtain ⟨hkind, rfl⟩ := Value.toBool_eq_error_iff.mp hcause
      exact .noBool hkind
    · cases chosen with
      | true => exact part .consequent (ihconsequent env)
      | false => exact part .alternative (ihalternative env)
  | print location value ihvalue =>
    refine node _ ((part .printed (ihvalue env)).bind fun value => ?_)
    refine FailsBy.bind (own fun cause hcause => ?_) fun line => ?_
    · obtain ⟨hkind, rfl⟩ := Value.toText_eq_error_iff.mp hcause
      exact .noString hkind
    · exact FailsBy.bind (fun _ _ _ hfails => nomatch hfails) fun _ => pure value

end Framed.FailsBy

namespace Term

/-- The failures of every run follow a way down from its term. -/
theorem failsBy_evalIn (limit : Nat) (term : Term) (env : Env) :
    (term.evalIn Framed limit env).FailsBy term.Follows := by
  induction limit generalizing term env with
  | zero => exact .evalWith (fun _ _ => .exhaust) term env
  | succ limit ih => exact .evalWith ih term env

/-! ## locations of errors -/

/-- The innermost location on a way is that of a term behind which no other has one. -/
theorem innermost_locations_eq_some_iff {path : List Term} {place : Data} :
    innermost (locations path) = some place ↔ ∃ outer last inner, path = outer ++ last :: inner ∧
      last.location = some place ∧ ∀ deeper ∈ inner, deeper.location = none := by
  have hreverse : innermost (locations path) = path.reverse.findSome? location := by
    rw [innermost, locations, ← List.map_reverse, List.findSome?_map]
    rfl
  rw [hreverse, List.findSome?_eq_some_iff]
  constructor
  · rintro ⟨inner, last, outer, hpath, hlast, hinner⟩
    refine ⟨outer.reverse, last, inner.reverse, ?_, hlast, by simpa using hinner⟩
    simpa using congrArg List.reverse hpath
  · rintro ⟨outer, last, inner, rfl, hlast, hinner⟩
    exact ⟨inner.reverse, last, outer.reverse, by simp, hlast, by simpa using hinner⟩

theorem innermost_locations_eq_none_iff {path : List Term} :
    innermost (locations path) = none ↔ ∀ active ∈ path, active.location = none := by
  simp [innermost_eq_none_iff, locations]

/-- The error that leaves a term arose at the end of a way down from it, and has the innermost
location on that way. -/
theorem leads_of_eval_failed {limit : Nat} {term : Term} {env : Env} {context after : Context}
    {error : Error} (h : term.eval limit env context = (.failed error, after)) :
    ∃ path, term.Leads error.cause path ∧
      term.evalIn Framed limit env [] context
        = (.done (.error ⟨error.cause, locations path⟩), after) ∧
      error.location = innermost (locations path) := by
  have hstamped := term.stampedBy_evalIn limit env [] context
  have hfails := term.failsBy_evalIn limit env [] context
  rcases hframed : term.evalIn Framed limit env [] context with ⟨outcome, after'⟩
  rw [h, hframed] at hstamped
  rw [hframed] at hfails
  obtain ⟨houtcome, hafter⟩ := hstamped
  dsimp only at houtcome hafter
  subst hafter
  cases houtcome with
  | @failed cause inner =>
    obtain ⟨_, hactive, path, hpath, rfl⟩ := hfails _ rfl
    have hinner : inner = locations path := by simpa using hactive
    rw [List.append_nil, hinner]
    exact ⟨path, hpath, rfl, rfl⟩

/-- Asking data for its location and asking the term that it is read as are the same. -/
theorem location_ofData (data : Data) : (ofData data).location = data.optional "location" := by
  cases data with
  | scalar s => rfl
  | list items => rfl
  | object fields =>
    rw [ofData, ofObject]
    split
    · split
      · next kind _ => cases kind <;> rfl
      · rfl
    · rfl

/-- An error is located at the innermost term that has a location.

* Stamping an error on its way out is the same as taking down the locations of all terms that are
  being evaluated when it arises, and picking the innermost one that is there.
* These terms are a way from the root term down to the one whose own operation fails, which is what
  the error's cause tells.  The error has the location of the last term on the way that has one, and
  none if no term has one.
* A term that is read from data has the location that stands in the data, unless that is null.
  Nothing else is left out; an empty object is a location. -/
theorem error_location_innermost (limit : Nat) (term : Term) (env : Env) (context : Context) :
    term.eval limit env context = (term.evalIn Framed limit env [] >>= Eval.tell) context ∧
    (∀ error after, term.eval limit env context = (.failed error, after) →
      ∃ path, term.Leads error.cause path ∧
        term.evalIn Framed limit env [] context
          = (.done (.error ⟨error.cause, locations path⟩), after) ∧
        (∀ place, error.location = some place ↔
          ∃ outer last inner, path = outer ++ last :: inner ∧ last.location = some place ∧
            ∀ deeper ∈ inner, deeper.location = none) ∧
        (error.location = none ↔ ∀ active ∈ path, active.location = none)) ∧
    ∀ data place, (ofData data).location = some place ↔
      data.field? "location" = some place ∧ place ≠ .null := by
  refine ⟨by rw [← eval_eq_framed], fun error after h => ?_, fun data place => ?_⟩
  · obtain ⟨path, hpath, hframed, hlocation⟩ := leads_of_eval_failed h
    refine ⟨path, hpath, hframed, fun place => ?_, ?_⟩
    · rw [hlocation, innermost_locations_eq_some_iff]
    · rw [hlocation, innermost_locations_eq_none_iff]
  · rw [location_ofData, Data.optional_eq_some_iff]

/-- The unknown variable `y`, at a location that is null. -/
def unknownName : Data :=
  .object [("kind", .text "Var"), ("text", .text "y"), ("location", .null)]

/-- `x + y` at an empty location; the variable `x` has none. -/
def failingSum : Data :=
  .object [("kind", .text "Binary"), ("op", .text "Add"),
    ("lhs", .object [("kind", .text "Var"), ("text", .text "x")]), ("rhs", unknownName),
    ("location", .object [])]

/-- `let f = fn (x) => x + y; f(1)`.  The let has a proper location, that of the call is null. -/
def failingCall : Data :=
  .object [("kind", .text "Let"), ("name", .object [("text", .text "f")]),
    ("value", .object [("kind", .text "Function"),
      ("parameters", .list [.object [("text", .text "x")]]), ("value", failingSum)]),
    ("next", .object [("kind", .text "Call"),
      ("callee", .object [("kind", .text "Var"), ("text", .text "f")]),
      ("arguments", .list [.object [("kind", .text "Int"), ("value", .int 1)]]),
      ("location", .null)]),
    ("location", .object [("start", .int 0), ("end", .int 30)])]

/-- The error arises at the variable, whose location does not count, and is located at the sum and
not at the let. -/
theorem error_location_innermost_failingCall :
    let context := Context.new .collector false none
    let error : Error := ⟨.unboundVariable (.text "y"), some (.object [])⟩
    (ofData failingCall).eval 1 .empty context = (.failed error, { context with deepest := 1 }) ∧
      (∃ path, (ofData failingCall).Leads error.cause path ∧
        ∃ outer last inner, path = outer ++ last :: inner ∧ last.location = some (.object []) ∧
          ∀ deeper ∈ inner, deeper.location = none) ∧
      (ofData failingSum).location = some (.object []) ∧
      ∀ place, (ofData unknownName).location ≠ some place := by
  intro context error
  have hrun : (ofData failingCall).eval 1 .empty context
      = (.failed error, { context with deepest := 1 }) := rfl
  obtain ⟨-, hfails, hread⟩ := error_location_innermost 1 (ofData failingCall) .empty context
  obtain ⟨path, hpath, -, hplace, -⟩ := hfails _ _ hrun
  refine ⟨hrun, ⟨path, hpath, (hplace _).mp rfl⟩, ?_, fun place hlocation => ?_⟩
  · exact (hread failingSum _).mpr ⟨rfl, nofun⟩
  · obtain ⟨hfield, hne⟩ := (hread unknownName place).mp hlocation
    exact hne (Option.some.inj hfield).symm

end Term

end Rinha
