import Rinha.Context
import Rinha.Eval.Effects

/-!
# Rinha.Eval.Monad

Computations that run in a context.  A computation ends in one of four ways (`Outcome`), and the
context is there after each of them: lines that were printed before a failure stay printed, and a
call is counted out however it ends.

* `Eval.stamp` puts a term's location on an error that passes through;
* `Eval.inCall` runs a computation one call deeper and counts the call out after any outcome.
-/

namespace Rinha

/-- How a computation ends. -/
inductive Outcome (α : Type) where
  /-- With a result. -/
  | done (result : α)
  /-- With an error of the evaluated program. -/
  | failed (error : Error)
  /-- At a malformed place of the input. -/
  | faulted (fault : Fault)
  /-- Not before the machine's limit of nested calls. -/
  | exhausted
deriving Inhabited

/-- The outcome with its result replaced. -/
def Outcome.map {α β : Type} (f : α → β) : Outcome α → Outcome β
  | .done result => .done (f result)
  | .failed error => .failed error
  | .faulted fault => .faulted fault
  | .exhausted => .exhausted

/-- A computation: from the context to an outcome and the context afterwards. -/
def Eval (α : Type) : Type :=
  Context → Outcome α × Context

namespace Eval

/-- Go on with the result of a computation, if it has one. -/
def andThen {α β : Type} (first : Eval α) (next : α → Eval β) : Eval β := fun context =>
  match first context with
  | (.done result, after) => next result after
  | (.failed error, after) => (.failed error, after)
  | (.faulted fault, after) => (.faulted fault, after)
  | (.exhausted, after) => (.exhausted, after)

instance : Monad Eval where
  pure result := fun context => (.done result, context)
  bind := andThen

/-- Going on with nothing but the result changes nothing, and it is all the same which of two steps
are taken together. -/
instance : LawfulMonad Eval := LawfulMonad.mk' Eval
  (fun action => by
    funext context
    simp only [Functor.map, andThen]
    rcases action context with ⟨_ | _ | _ | _, after⟩ <;> rfl)
  (fun _ _ => rfl)
  (fun action f g => by
    funext context
    simp only [bind, andThen]
    rcases action context with ⟨_ | _ | _ | _, after⟩ <;> rfl)

instance {α : Type} : Inhabited (Eval α) := ⟨fun context => (.exhausted, context)⟩

/-! Going on after each outcome. -/

section

variable {α β : Type} {first : Eval α} {context after : Context}

theorem bind_done {result : α} (h : first context = (.done result, after)) (next : α → Eval β) :
    (first >>= next) context = next result after := by
  show andThen first next context = _
  rw [andThen, h]

theorem bind_failed {error : Error} (h : first context = (.failed error, after))
    (next : α → Eval β) : (first >>= next) context = (.failed error, after) := by
  show andThen first next context = _
  rw [andThen, h]

theorem bind_faulted {fault : Fault} (h : first context = (.faulted fault, after))
    (next : α → Eval β) : (first >>= next) context = (.faulted fault, after) := by
  show andThen first next context = _
  rw [andThen, h]

theorem bind_exhausted (h : first context = (.exhausted, after)) (next : α → Eval β) :
    (first >>= next) context = (.exhausted, after) := by
  show andThen first next context = _
  rw [andThen, h]

end

/-- End with an error that has no location yet. -/
def fail {α : Type} (cause : Cause) : Eval α := fun context =>
  (.failed { cause }, context)

/-- End at a malformed place. -/
def fault {α : Type} (cause : Fault) : Eval α := fun context =>
  (.faulted cause, context)

/-- End because the machine can follow no further. -/
def exhaust {α : Type} : Eval α := fun context =>
  (.exhausted, context)

/-! ## effects -/

/-- Print one line. -/
def emit (line : String) : Eval Unit := fun context =>
  (.done (), context.emit line)

/-- Trace a message. -/
def trace (message : String) : Eval Unit := fun context =>
  (.done (), context.trace message)

/-- Trace a message that has to be worked out, which is done only if the evaluation is traced. -/
def traceWith (message : Except Fault String) : Eval Unit := fun context =>
  if context.debug then
    match message with
    | .ok message => trace message context
    | .error cause => fault cause context
  else (.done (), context)

/-- Put a location on an error that passes through. -/
def stamp {α : Type} (location : Option Data) (action : Eval α) : Eval α := fun context =>
  match action context with
  | (.failed error, after) => (.failed (error.stamp location), after)
  | result => result

/-- Count a call in, unless that would pass the limit. -/
def enter : Eval Unit := fun context =>
  match context.passed? (context.depth + 1) with
  | .error fault => (.faulted fault, context)
  | .ok (some limit) => (.failed ⟨.stackExhausted limit, none⟩, context)
  | .ok none => (.done (), context.enter)

/-- Run a computation and count a call out, however the computation ends. -/
def thenLeave {α : Type} (action : Eval α) : Eval α := fun context =>
  let (outcome, after) := action context
  (outcome, after.leave)

/-- Run a computation one call deeper.  A call that is refused is not counted out. -/
def inCall {α : Type} (action : Eval α) : Eval α := do
  enter
  thenLeave action

instance : Effects Eval where
  fail := fail
  fault := fault
  exhaust := exhaust
  emit := emit
  trace := trace
  traceWith := traceWith
  stamp := stamp
  inCall := inCall

/-! A call is refused or counted in. -/

section

variable {α : Type} {action : Eval α} {context : Context}

theorem inCall_faulted {fault : Fault} (h : context.passed? (context.depth + 1) = .error fault) :
    (Effects.inCall action : Eval α) context = (.faulted fault, context) := by
  have henter : enter context = (.faulted fault, context) := by rw [enter, h]
  exact bind_faulted henter _

theorem inCall_refused {limit : Data}
    (h : context.passed? (context.depth + 1) = .ok (some limit)) :
    (Effects.inCall action : Eval α) context
      = (.failed ⟨.stackExhausted limit, none⟩, context) := by
  have henter : enter context = (.failed ⟨.stackExhausted limit, none⟩, context) := by
    rw [enter, h]
  exact bind_failed henter _

theorem inCall_entered (h : context.passed? (context.depth + 1) = .ok none) :
    (Effects.inCall action : Eval α) context
      = ((action context.enter).1, (action context.enter).2.leave) := by
  have henter : enter context = (.done (), context.enter) := by rw [enter, h]
  exact bind_done henter _

end

end Eval

end Rinha
