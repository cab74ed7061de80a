import Rinha.Error

/-!
# Rinha.Eval.Effects

What evaluating a term does beside giving a value.  The evaluator is written against this interface
and against nothing else, so that one and the same evaluator runs in a context (`Rinha.Eval`) or is
watched while it does.

A computation can end without a result in three ways: by an error of the evaluated program, by a
fault of its text, or because the machine can follow its calls no further.
-/

namespace Rinha

/-- A monad in which terms can be evaluated. -/
class Effects (m : Type → Type) extends Monad m where
  /-- End with an error that has no location yet. -/
  fail {α : Type} (cause : Cause) : m α
  /-- End at a malformed place. -/
  fault {α : Type} (cause : Fault) : m α
  /-- End because the machine can follow no further. -/
  exhaust {α : Type} : m α
  /-- Print one line. -/
  emit (line : String) : m Unit
  /-- Trace a message. -/
  trace (message : String) : m Unit
  /-- Trace a message that has to be worked out, which is done only if the evaluation is traced. -/
  traceWith (message : Except Fault String) : m Unit
  /-- Put a location on an error that passes through. -/
  stamp {α : Type} (location : Option Data) (action : m α) : m α
  /-- Run a computation one call deeper. -/
  inCall {α : Type} (action : m α) : m α

namespace Effects

variable {m : Type → Type} [Effects m] {α : Type}

/-- The result, or the error in its place. -/
def orFail : Except Cause α → m α
  | .ok result => pure result
  | .error cause => fail cause

/-- The result, or the fault in its place. -/
def orFault : Except Fault α → m α
  | .ok result => pure result
  | .error cause => fault cause

@[simp] theorem orFail_ok (result : α) : (orFail (.ok result) : m α) = pure result := rfl

@[simp] theorem orFail_error (cause : Cause) : (orFail (.error cause) : m α) = fail cause := rfl

@[simp] theorem orFault_ok (result : α) : (orFault (.ok result) : m α) = pure result := rfl

@[simp] theorem orFault_error (cause : Fault) : (orFault (.error cause) : m α) = fault cause := rfl

end Effects

end Rinha
