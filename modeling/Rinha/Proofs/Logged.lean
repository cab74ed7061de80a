import Rinha.Proofs.Simulation
import Mathlib.Data.List.Basic

/-!
# Rinha.Proofs.Logged

Runs that are watched.  Whatever a run does to its context is one of four events: it prints a line,
it traces a message, it counts a call in, it counts one out.  A `Logged` computation tells its
outcome and these events in order, in place of the context that they lead to, and it is a monad in
which the evaluator runs as it is.  That nothing is lost is `eval_eq_logged`:

```
term.eval limit env context = (outcome, context.after events)
```

with `(outcome, events)` the logged run from `context`.  So the moments of a run are the contexts
`context.after past` for the beginnings `past` of its log, and whatever a run does is a statement
about lists of events.
-/

namespace Rinha

open Effects

/-! ## events -/

/-- Something that a run does to its context. -/
inductive Event where
  | printed (line : String)
  | traced (message : String)
  /-- A call is counted in. -/
  | entered
  /-- A call is counted out. -/
  | left
deriving DecidableEq, Repr

/-- What an event does. -/
def Event.apply (event : Event) (context : Context) : Context :=
  match event with
  | printed line => context.emit line
  | traced message => context.trace message
  | entered => context.enter
  | left => context.leave

/-- The line that an event prints. -/
def Event.line? : Event → Option String
  | printed line => some line
  | _ => none

/-- The lines that are printed, in order. -/
def printedLines (events : List Event) : List String :=
  events.filterMap Event.line?

@[simp] theorem printedLines_append (events more : List Event) :
    printedLines (events ++ more) = printedLines events ++ printedLines more :=
  List.filterMap_append

/-- Counting a call in and out prints nothing. -/
@[simp] theorem printedLines_enclosed (events : List Event) :
    printedLines (.entered :: events ++ [.left]) = printedLines events := by
  rw [printedLines, List.cons_append, List.filterMap_cons_none rfl, List.filterMap_append]
  exact List.append_nil _

namespace Context

/-- The context after events, in order. -/
def after (context : Context) (events : List Event) : Context :=
  events.foldl (fun context event => event.apply context) context

@[simp] theorem after_nil (context : Context) : context.after [] = context := rfl

@[simp] theorem after_cons (context : Context) (event : Event) (events : List Event) :
    context.after (event :: events) = (event.apply context).after events := rfl

theorem after_append (context : Context) (events more : List Event) :
    context.after (events ++ more) = (context.after events).after more :=
  List.foldl_append

/-- No event touches the settings of a context. -/
theorem settings_apply (context : Context) (event : Event) :
    (event.apply context).sink = context.sink ∧ (event.apply context).debug = context.debug ∧
      (event.apply context).maxDepth = context.maxDepth := by
  cases event with
  | printed line => exact ⟨rfl, rfl, rfl⟩
  | traced message =>
    simp only [Event.apply, trace]
    split <;> exact ⟨rfl, rfl, rfl⟩
  | entered => exact ⟨rfl, rfl, rfl⟩
  | left => exact ⟨rfl, rfl, rfl⟩

/-- No events touch the settings of a context. -/
theorem settings_after (context : Context) (events : List Event) :
    (context.after events).sink = context.sink ∧ (context.after events).debug = context.debug ∧
      (context.after events).maxDepth = context.maxDepth := by
  induction events generalizing context with
  | nil => exact ⟨rfl, rfl, rfl⟩
  | cons event events ih =>
    obtain ⟨hsink, hdebug, hmax⟩ := settings_apply context event
    rw [after_cons, ← hsink, ← hdebug, ← hmax]
    exact ih (event.apply context)

@[simp] theorem sink_after (context : Context) (events : List Event) :
    (context.after events).sink = context.sink := (settings_after context events).1

@[simp] theorem debug_after (context : Context) (events : List Event) :
    (context.after events).debug = context.debug := (settings_after context events).2.1

@[simp] theorem maxDepth_after (context : Context) (events : List Event) :
    (context.after events).maxDepth = context.maxDepth := (settings_after context events).2.2

@[simp] theorem depth_trace (context : Context) (message : String) :
    (context.trace message).depth = context.depth := by
  unfold trace
  split <;> rfl

@[simp] theorem deepest_trace (context : Context) (message : String) :
    (context.trace message).deepest = context.deepest := by
  unfold trace
  split <;> rfl

end Context

/-! ## logged computations -/

/-- The outcome with a location put on its error, if it is one. -/
def Outcome.stamp {α : Type} (location : Option Data) : Outcome α → Outcome α
  | .failed error => .failed (error.stamp location)
  | outcome => outcome

/-- A computation that tells what happens, and not the context that this leads to. -/
def Logged (α : Type) : Type :=
  Context → Outcome α × List Event

namespace Logged

/-- Go on with the result of a computation, if it has one, in the context that its events lead
to. -/
def andThen {α β : Type} (first : Logged α) (next : α → Logged β) : Logged β := fun context =>
  match first context with
  | (.done result, events) =>
    let (outcome, more) := next result (context.after events)
    (outcome, events ++ more)
  | (.failed error, events) => (.failed error, events)
  | (.faulted fault, events) => (.faulted fault, events)
  | (.exhausted, events) => (.exhausted, events)

instance : Monad Logged where
  pure result := fun _ => (.done result, [])
  bind := andThen

/-- Going on with nothing but the result adds no events, and it is all the same which of two steps
are taken together. -/
instance : LawfulMonad Logged := LawfulMonad.mk' Logged
  (fun action => by
    funext context
    simp only [Functor.map, andThen]
    rcases action context with ⟨result | _ | _ | _, events⟩
    · exact Prod.ext rfl (List.append_nil events)
    all_goals rfl)
  (fun _ _ => rfl)
  (fun action f g => by
    funext context
    simp only [bind, andThen]
    rcases action context with ⟨result | _ | _ | _, events⟩
    · simp only
      rcases f result (context.after events) with ⟨_ | _ | _ | _, more⟩ <;>
        simp [Context.after_append]
    all_goals rfl)

/-- Put a location on an error that passes through. -/
def stamp {α : Type} (location : Option Data) (action : Logged α) : Logged α := fun context =>
  match action context with
  | (.failed error, events) => (.failed (error.stamp location), events)
  | result => result

/-- Run a computation one call deeper, unless that would pass the limit. -/
def inCall {α : Type} (action : Logged α) : Logged α := fun context =>
  match context.passed? (context.depth + 1) with
  | .error fault => (.faulted fault, [])
  | .ok (some limit) => (.failed ⟨.stackExhausted limit, none⟩, [])
  | .ok none =>
    let (outcome, events) := action context.enter
    (outcome, .entered :: events ++ [.left])

/-- Trace a message that has to be worked out, if the evaluation is traced. -/
def traceWith (message : Except Fault String) : Logged Unit := fun context =>
  if context.debug then
    match message with
    | .ok message => (.done (), [.traced message])
    | .error fault => (.faulted fault, [])
  else (.done (), [])

instance : Effects Logged where
  fail cause := fun _ => (.failed { cause }, [])
  fault cause := fun _ => (.faulted cause, [])
  exhaust := fun _ => (.exhausted, [])
  emit line := fun _ => (.done (), [.printed line])
  trace message := fun _ => (.done (), [.traced message])
  traceWith := traceWith
  stamp := stamp
  inCall := inCall

/-! Going on after each outcome. -/

section

variable {α β : Type} {first : Logged α} {context : Context} {events : List Event}

theorem bind_done {result : α} (h : first context = (.done result, events))
    (next : α → Logged β) :
    (first >>= next) context = ((next result (context.after events)).1,
      events ++ (next result (context.after events)).2) := by
  show andThen first next context = _
  rw [andThen, h]

theorem bind_failed {error : Error} (h : first context = (.failed error, events))
    (next : α → Logged β) : (first >>= next) context = (.failed error, events) := by
  show andThen first next context = _
  rw [andThen, h]

theorem bind_faulted {fault : Fault} (h : first context = (.faulted fault, events))
    (next : α → Logged β) : (first >>= next) context = (.faulted fault, events) := by
  show andThen first next context = _
  rw [andThen, h]

theorem bind_exhausted (h : first context = (.exhausted, events)) (next : α → Logged β) :
    (first >>= next) context = (.exhausted, events) := by
  show andThen first next context = _
  rw [andThen, h]

/-- Whatever comes next, the events up to there stay. -/
theorem prefix_bind (first : Logged α) (next : α → Logged β) (context : Context) :
    (first context).2 <+: ((first >>= next) context).2 := by
  cases h : first context with
  | mk outcome events =>
    cases outcome with
    | done result => rw [bind_done h]; exact List.prefix_append _ _
    | failed error => exact ⟨[], by rw [bind_failed h, List.append_nil]⟩
    | faulted fault => exact ⟨[], by rw [bind_faulted h, List.append_nil]⟩
    | exhausted => exact ⟨[], by rw [bind_exhausted h, List.append_nil]⟩

end

/-! Locations and traces. -/

theorem stamp_apply {α : Type} (location : Option Data) (action : Logged α) (context : Context) :
    (Effects.stamp location action : Logged α) context
      = ((action context).1.stamp location, (action context).2) := by
  show stamp location action context = _
  rw [stamp]
  cases h : action context with
  | mk outcome events => cases outcome <;> rfl

/-- What is traced, if anything is. -/
theorem traceWith_cases (message : Except Fault String) (context : Context) :
    (∃ text, (Effects.traceWith message : Logged Unit) context = (.done (), [.traced text])) ∨
    (∃ fault, message = .error fault ∧
      (Effects.traceWith message : Logged Unit) context = (.faulted fault, [])) ∨
    (Effects.traceWith message : Logged Unit) context = (.done (), []) := by
  show (∃ text, traceWith message context = _) ∨ (∃ fault, _ ∧ traceWith message context = _) ∨
    traceWith message context = _
  unfold traceWith
  by_cases hdebug : context.debug
  · rw [if_pos hdebug]
    cases message with
    | ok text => exact Or.inl ⟨text, rfl⟩
    | error fault => exact Or.inr (Or.inl ⟨fault, rfl, rfl⟩)
  · rw [if_neg hdebug]
    exact Or.inr (Or.inr rfl)

/-! Calls. -/

section

variable {α : Type} {action : Logged α} {context : Context}

theorem inCall_faulted {fault : Fault} (h : context.passed? (context.depth + 1) = .error fault) :
    (Effects.inCall action : Logged α) context = (.faulted fault, []) := by
  show inCall action context = _
  rw [inCall, h]

theorem inCall_refused {limit : Data}
    (h : context.passed? (context.depth + 1) = .ok (some limit)) :
    (Effects.inCall action : Logged α) context
      = (.failed ⟨.stackExhausted limit, none⟩, []) := by
  show inCall action context = _
  rw [inCall, h]

theorem inCall_entered (h : context.passed? (context.depth + 1) = .ok none) :
    (Effects.inCall action : Logged α) context
      = ((action context.enter).1, .entered :: (action context.enter).2 ++ [.left]) := by
  show inCall action context = _
  rw [inCall, h]

end

/-- Whether a call is counted in does not depend on what is done in it: either it ends at once, in a
fault or in an error, or it is counted in and out. -/
theorem inCall_cases (context : Context) :
    (∃ fault, ∀ {α : Type} (action : Logged α),
      (Effects.inCall action : Logged α) context = (.faulted fault, [])) ∨
    (∃ limit, ∀ {α : Type} (action : Logged α),
      (Effects.inCall action : Logged α) context = (.failed ⟨.stackExhausted limit, none⟩, [])) ∨
    ∀ {α : Type} (action : Logged α), (Effects.inCall action : Logged α) context
      = ((action context.enter).1, .entered :: (action context.enter).2 ++ [.left]) := by
  cases hpassed : context.passed? (context.depth + 1) with
  | error fault => exact .inl ⟨fault, fun _ => inCall_faulted hpassed⟩
  | ok passed =>
    cases passed with
    | some limit => exact .inr (.inl ⟨limit, fun _ => inCall_refused hpassed⟩)
    | none => exact .inr (.inr fun _ => inCall_entered hpassed)

end Logged

/-! ## the log of a run -/

/-- A logged computation that tells what a computation does. -/
def Logged.Tells {α : Type} (logged : Logged α) (action : Eval α) : Prop :=
  ∀ context, action context = ((logged context).1, context.after (logged context).2)

namespace Logged.Tells

variable {α β : Type}

theorem bind {x : Logged α} {y : Eval α} {f : α → Logged β} {g : α → Eval β} (h : x.Tells y)
    (hfg : ∀ result, (f result).Tells (g result)) : Logged.Tells (x >>= f) (y >>= g) := by
  intro context
  have hy := h context
  cases hx : x context with
  | mk outcome events =>
    rw [hx] at hy
    cases outcome with
    | done result =>
      rw [Logged.bind_done hx, Eval.bind_done hy, hfg, Context.after_append]
    | failed error => rw [Logged.bind_failed hx, Eval.bind_failed hy]
    | faulted fault => rw [Logged.bind_faulted hx, Eval.bind_faulted hy]
    | exhausted => rw [Logged.bind_exhausted hx, Eval.bind_exhausted hy]

theorem stamp {x : Logged α} {y : Eval α} (location : Option Data) (h : x.Tells y) :
    Logged.Tells (Effects.stamp location x) (Effects.stamp location y) := by
  intro context
  show Eval.stamp location y context = _
  rw [Eval.stamp, Logged.stamp_apply, h context]
  cases x context with
  | mk outcome events => cases outcome <;> rfl

theorem traceWith (message : Except Fault String) :
    Logged.Tells (Effects.traceWith message) (Effects.traceWith message) := by
  intro context
  show Eval.traceWith message context
    = ((Logged.traceWith message context).1, context.after (Logged.traceWith message context).2)
  unfold Eval.traceWith Logged.traceWith
  split
  · cases message <;> rfl
  · rfl

theorem inCall {x : Logged α} {y : Eval α} (h : x.Tells y) :
    Logged.Tells (Effects.inCall x) (Effects.inCall y) := by
  intro context
  cases hpassed : context.passed? (context.depth + 1) with
  | error fault =>
    rw [Logged.inCall_faulted hpassed, Eval.inCall_faulted hpassed, Context.after_nil]
  | ok passed =>
    cases passed with
    | some limit =>
      rw [Logged.inCall_refused hpassed, Eval.inCall_refused hpassed, Context.after_nil]
    | none =>
      rw [Logged.inCall_entered hpassed, Eval.inCall_entered hpassed, h context.enter,
        List.cons_append, Context.after_cons, Context.after_append]
      rfl

/-- Logging tells what every operation does. -/
def simulation : Simulation Logged Eval where
  rel := Logged.Tells
  pure _ := fun _ => rfl
  bind := bind
  fail _ := fun _ => rfl
  fault _ := fun _ => rfl
  emit _ := fun _ => rfl
  trace _ := fun _ => rfl
  traceWith := traceWith
  stamp := stamp

end Logged.Tells

/-- The log of a run tells what the run does. -/
theorem Term.eval_eq_logged (limit : Nat) (term : Term) (env : Env) (context : Context) :
    term.eval limit env context = ((term.evalIn Logged limit env context).1,
      context.after (term.evalIn Logged limit env context).2) :=
  Logged.Tells.simulation.evalIn Logged.Tells.inCall (fun _ => rfl) limit term env context

end Rinha
