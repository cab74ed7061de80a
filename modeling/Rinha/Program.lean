import Rinha.Eval.Basic

/-!
# Rinha.Program

Programs: a name and a root term.  Running a program never fails because the program does; the error
is part of the result, beside the lines that were printed up to then.  A malformed place still ends
the run without a result.

`Program.run` runs in the caller's context and leaves its counters alone; of what happens there only
the printed lines and the trace remain.  An `Interpreter` runs every program in a new context, so
nothing carries over from one to the next.
-/

namespace Rinha

/-- A named root term. -/
structure Program where
  name : Data
  expression : Term

/-- The program that data is.  Its name is needed at once, its term only when it is run. -/
def Program.ofData (data : Data) : Except Fault Program := do
  let name ← data.field "name"
  let expression :=
    match data.field? "expression" with
    | some expression => Term.ofData expression
    | none => .hole (.missingField "expression")
  return { name, expression }

/-- What a run of a program gives. -/
structure ProgramResult where
  program : Data
  /-- The value of the root term, or the error that ended the run. -/
  outcome : Except Error Value
  /-- The lines that the program printed, in order. -/
  output : List String

/-- Run a program.  What it prints is recorded and goes to the context's sink as well. -/
def Program.run (limit : Nat) (program : Program) (env : Env) : Eval ProgramResult := fun context =>
  let inner : Context :=
    { context with
      sink := .recorded context.sink
      streams := { context.streams with recorded := [] } }
  let action : Eval Value := do
    Eval.trace s!"Running program {program.name.display}"
    program.expression.evalRoot limit env
  let (outcome, after) := action inner
  let context :=
    { context with streams := { after.streams with recorded := context.streams.recorded } }
  let result (outcome : Except Error Value) : ProgramResult :=
    ⟨program.name, outcome, after.streams.recorded⟩
  match outcome with
  | .done value => (.done (result (.ok value)), context)
  | .failed error => (.done (result (.error error)), context)
  | .faulted fault => (.faulted fault, context)
  | .exhausted => (.exhausted, context)

/-- Settings to run programs with. -/
structure Interpreter where
  sink : Sink := .console
  debug : Bool := false
  maxDepth : Option Data := none
deriving Repr, Inhabited

namespace Interpreter

/-- An interpreter that traces. -/
def tracing (sink : Sink) : Interpreter :=
  { sink, debug := true }

/-- Run a program in a context of its own; the streams are all that it wrote. -/
def run (interpreter : Interpreter) (limit : Nat) (program : Program) :
    Outcome ProgramResult × Streams :=
  let context := Context.new interpreter.sink interpreter.debug interpreter.maxDepth
  let (outcome, after) := program.run limit .empty context
  (outcome, after.streams)

end Interpreter

end Rinha
