import Rinha.Proofs.Simulation

/-!
# Rinha.Proofs.Framed

Runs that leave errors as they arise.  A `Framed` computation is told the locations of the terms
that are being evaluated around it, the innermost one first, and an error that arises in it comes
with all of them (`Failure`); nothing is put on the error on its way out.  The evaluator runs in
this monad as it is, with the location of a term entered on the list before the term is evaluated.

The evaluator that stamps errors does the same, if the innermost location that is there is picked
out of the list:

```
term.eval limit env = term.evalIn Framed limit env [] >>= tell
```

(`Term.eval_eq_framed`).
-/

namespace Rinha

open Effects

/-! ## errors where they arise -/

/-- The innermost of some locations that is there. -/
def innermost (locations : List Location) : Location :=
  locations.findSome? id

@[simp] theorem innermost_nil : innermost [] = none := rfl

@[simp] theorem innermost_append (inner outer : List Location) :
    innermost (inner ++ outer) = (innermost inner).or (innermost outer) :=
  List.findSome?_append

@[simp] theorem innermost_singleton (location : Location) : innermost [location] = location := by
  cases location <;> rfl

/-- There is no innermost location if and only if none is there. -/
theorem innermost_eq_none_iff {locations : List Location} :
    innermost locations = none ↔ ∀ location ∈ locations, location = none :=
  List.findSome?_eq_none_iff

/-- What went wrong, and the locations of the terms that were being evaluated, innermost first. -/
structure Failure where
  cause : Cause
  active : List Location

/-- A failure as it is told, with the innermost location that is there. -/
def Failure.toError (failure : Failure) : Error :=
  ⟨failure.cause, innermost failure.active⟩

/-- End with the result, or with the error that a failure is told as. -/
def Eval.tell {α : Type} : Except Failure α → Eval α
  | .ok result => pure result
  | .error failure => fun context => (.failed failure.toError, context)

/-! ## framed computations -/

/-- A computation that is told the locations of the terms around it, and leaves errors as they
arise. -/
def Framed (α : Type) : Type :=
  List Location → Eval (Except Failure α)

namespace Framed

variable {α β : Type}

/-- Go on with the result of a computation, if it has one. -/
def andThen (first : Framed α) (next : α → Framed β) : Framed β := fun active => do
  match ← first active with
  | .ok result => next result active
  | .error failure => return .error failure

instance : Monad Framed where
  pure result := fun _ => pure (.ok result)
  bind := andThen

/-- Run a computation one call deeper, unless that would pass the limit. -/
def inCall (action : Framed α) : Framed α := fun active context =>
  match context.passed? (context.depth + 1) with
  | .error fault => (.faulted fault, context)
  | .ok (some limit) => (.done (.error ⟨.stackExhausted limit, active⟩), context)
  | .ok none => Eval.thenLeave (action active) context.enter

instance : Effects Framed where
  fail cause := fun active => pure (.error ⟨cause, active⟩)
  fault cause := fun _ => Eval.fault cause
  exhaust := fun _ => Eval.exhaust
  emit line := fun _ => .ok <$> Eval.emit line
  trace message := fun _ => .ok <$> Eval.trace message
  traceWith message := fun _ => .ok <$> Eval.traceWith message
  stamp location action := fun active => action (location :: active)
  inCall := inCall

/-! Going on after each outcome. -/

section

variable {first : Framed α} {active : List Location} {context after : Context}

theorem bind_ok {result : α} (h : first active context = (.done (.ok result), after))
    (next : α → Framed β) : (first >>= next) active context = next result active after :=
  Eval.bind_done h _

theorem bind_error {failure : Failure} (h : first active context = (.done (.error failure), after))
    (next : α → Framed β) : (first >>= next) active context = (.done (.error failure), after) :=
  Eval.bind_done h _

theorem bind_failed {error : Error} (h : first active context = (.failed error, after))
    (next : α → Framed β) : (first >>= next) active context = (.failed error, after) :=
  Eval.bind_failed h _

theorem bind_faulted {fault : Fault} (h : first active context = (.faulted fault, after))
    (next : α → Framed β) : (first >>= next) active context = (.faulted fault, after) :=
  Eval.bind_faulted h _

theorem bind_exhausted (h : first active context = (.exhausted, after)) (next : α → Framed β) :
    (first >>= next) active context = (.exhausted, after) :=
  Eval.bind_exhausted h _

end

/-- What is traced, if anything is, comes to no failure. -/
theorem traceWith_eq (message : Except Fault String) (active : List Location)
    (context : Context) :
    (traceWith message : Framed Unit) active context
      = ((Eval.traceWith message context).1.map .ok, (Eval.traceWith message context).2) := by
  show (Except.ok <$> Eval.traceWith message) context = _
  rw [← bind_pure_comp]
  rcases h : Eval.traceWith message context with ⟨_ | _ | _ | _, after⟩
  · exact Eval.bind_done h _
  · exact Eval.bind_failed h _
  · exact Eval.bind_faulted h _
  · exact Eval.bind_exhausted h _

end Framed

/-! ## the evaluator that stamps errors -/

/-- An outcome that leaves an error as it arises, and one in which the error has the innermost
location of those that are not outside of both. -/
inductive Framed.Stamps {α : Type} (outer : List Location) :
    Outcome (Except Failure α) → Outcome α → Prop where
  | done {result : α} : Stamps outer (.done (.ok result)) (.done result)
  | failed {cause : Cause} {inner : List Location} :
    Stamps outer (.done (.error ⟨cause, inner ++ outer⟩)) (.failed ⟨cause, innermost inner⟩)
  | faulted {fault : Fault} : Stamps outer (.faulted fault) (.faulted fault)
  | exhausted : Stamps outer .exhausted .exhausted

/-- An error that has only just arisen. -/
theorem Framed.Stamps.arisen {α : Type} (outer : List Location) (cause : Cause) :
    Stamps outer (.done (.error ⟨cause, outer⟩) : Outcome (Except Failure α))
      (.failed ⟨cause, none⟩) :=
  @Stamps.failed α outer cause []

/-- A computation that does the same as a framed one, and stamps its errors. -/
def Framed.StampedBy {α : Type} (framed : Framed α) (action : Eval α) : Prop :=
  ∀ outer context, Stamps outer (framed outer context).1 (action context).1 ∧
    (framed outer context).2 = (action context).2

namespace Framed.StampedBy

variable {α β : Type}

theorem bind {x : Framed α} {y : Eval α} {f : α → Framed β} {g : α → Eval β} (h : x.StampedBy y)
    (hfg : ∀ result, (f result).StampedBy (g result)) : Framed.StampedBy (x >>= f) (y >>= g) := by
  intro outer context
  have hxy := h outer context
  rcases hx : x outer context with ⟨outcome, after⟩
  rcases hy : y context with ⟨outcome', after'⟩
  rw [hx, hy] at hxy
  obtain ⟨houtcome, hafter⟩ := hxy
  dsimp only at houtcome hafter
  subst hafter
  cases houtcome with
  | done =>
    rw [Framed.bind_ok hx, Eval.bind_done hy]
    exact hfg _ outer after
  | failed =>
    rw [Framed.bind_error hx, Eval.bind_failed hy]
    exact ⟨.failed, rfl⟩
  | faulted =>
    rw [Framed.bind_faulted hx, Eval.bind_faulted hy]
    exact ⟨.faulted, rfl⟩
  | exhausted =>
    rw [Framed.bind_exhausted hx, Eval.bind_exhausted hy]
    exact ⟨.exhausted, rfl⟩

theorem fail (cause : Cause) :
    Framed.StampedBy (Effects.fail cause : Framed α) (Effects.fail cause) :=
  fun outer _ => ⟨.arisen outer cause, rfl⟩

theorem traceWith (message : Except Fault String) :
    Framed.StampedBy (Effects.traceWith message) (Effects.traceWith message) := by
  intro outer context
  rw [Framed.traceWith_eq]
  refine ⟨?_, rfl⟩
  show Framed.Stamps outer ((Eval.traceWith message context).1.map .ok)
    (Eval.traceWith message context).1
  unfold Eval.traceWith
  split
  · cases message with
    | ok message => exact .done
    | error cause => exact .faulted
  · exact .done

/-- A location that is entered first is the one that is stamped last. -/
theorem stamp {x : Framed α} {y : Eval α} (location : Option Data) (h : x.StampedBy y) :
    Framed.StampedBy (Effects.stamp location x) (Effects.stamp location y) := by
  intro outer context
  have hxy := h (location :: outer) context
  show Framed.Stamps outer (x (location :: outer) context).1 (Eval.stamp location y context).1 ∧
    (x (location :: outer) context).2 = (Eval.stamp location y context).2
  rw [Eval.stamp]
  rcases hx : x (location :: outer) context with ⟨outcome, after⟩
  rcases hy : y context with ⟨outcome', after'⟩
  rw [hx, hy] at hxy
  obtain ⟨houtcome, hafter⟩ := hxy
  dsimp only at houtcome
  cases houtcome with
  | done => exact ⟨.done, hafter⟩
  | @failed cause inner =>
    have hactive : inner ++ location :: outer = (inner ++ [location]) ++ outer := by simp
    have hstamped : Error.stamp ⟨cause, innermost inner⟩ location
        = ⟨cause, innermost (inner ++ [location])⟩ := by simp [Error.stamp]
    rw [hactive]
    dsimp only
    rw [hstamped]
    exact ⟨.failed, hafter⟩
  | faulted => exact ⟨.faulted, hafter⟩
  | exhausted => exact ⟨.exhausted, hafter⟩

theorem inCall {x : Framed α} {y : Eval α} (h : x.StampedBy y) :
    Framed.StampedBy (Effects.inCall x) (Effects.inCall y) := by
  intro outer context
  show Framed.Stamps outer (Framed.inCall x outer context).1
      ((Effects.inCall y : Eval α) context).1 ∧
    (Framed.inCall x outer context).2 = ((Effects.inCall y : Eval α) context).2
  rw [Framed.inCall]
  cases hpassed : context.passed? (context.depth + 1) with
  | error fault =>
    rw [Eval.inCall_faulted hpassed]
    exact ⟨.faulted, rfl⟩
  | ok passed =>
    cases passed with
    | some limit =>
      rw [Eval.inCall_refused hpassed]
      exact ⟨.arisen outer _, rfl⟩
    | none =>
      obtain ⟨houtcome, hafter⟩ := h outer context.enter
      rw [Eval.inCall_entered hpassed]
      exact ⟨houtcome, congrArg Context.leave hafter⟩

/-- Every operation does the same, and stamps its errors. -/
def simulation : Simulation Framed Eval where
  rel := Framed.StampedBy
  pure _ := fun _ _ => ⟨.done, rfl⟩
  bind := bind
  fail := fail
  fault _ := fun _ _ => ⟨.faulted, rfl⟩
  emit _ := fun _ _ => ⟨.done, rfl⟩
  trace _ := fun _ _ => ⟨.done, rfl⟩
  traceWith := traceWith
  stamp := stamp

end Framed.StampedBy

namespace Term

variable (limit : Nat) (term : Term) (env : Env)

theorem stampedBy_evalIn : (term.evalIn Framed limit env).StampedBy (term.eval limit env) :=
  Framed.StampedBy.simulation.evalIn Framed.StampedBy.inCall (fun _ _ => ⟨.exhausted, rfl⟩)
    limit term env

/-- Stamping errors on their way out is the same as picking the innermost location from those of the
terms that are being evaluated where they arise. -/
theorem eval_eq_framed : term.eval limit env = term.evalIn Framed limit env [] >>= Eval.tell := by
  funext context
  have h := term.stampedBy_evalIn limit env [] context
  rcases hx : term.evalIn Framed limit env [] context with ⟨outcome, after⟩
  rcases hy : term.eval limit env context with ⟨outcome', after'⟩
  rw [hx, hy] at h
  obtain ⟨houtcome, hafter⟩ := h
  dsimp only at houtcome hafter
  subst hafter
  cases houtcome with
  | done => rw [Eval.bind_done hx]; rfl
  | failed => rw [Eval.bind_done hx, List.append_nil]; rfl
  | faulted => rw [Eval.bind_faulted hx]
  | exhausted => rw [Eval.bind_exhausted hx]

end Term

end Rinha
