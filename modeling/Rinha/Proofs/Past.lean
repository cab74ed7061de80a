import Rinha.Program
import Rinha.Proofs.Printed

/-!
# Rinha.Proofs.Past

What was there before a run.  A context that has a past is one that has none with the past put under
it (`Context.onTop`): what was written before and the greatest depth that was reached.  No event
looks down there, so a run goes the same way on top of any past (`Term.eval_onTop`):

```
term.eval limit env (context.onTop past deepest) = (outcome, after.onTop past deepest)
```

with `(outcome, after)` what the run gives in `context`.  The run of a program evaluates its root
term in a context of its own, which has the same past (`Program.run_eq`), so the same is true of it
(`Program.run_onTop_fst`, `Program.run_onTop_snd`).  Only the message about an exhausted machine
tells the greatest depth of all, so there outcomes are the same only if the past went no deeper.
-/

namespace Rinha

/-! ## streams -/

/-- What was written in the past and what was written after it. -/
def Streams.append (past streams : Streams) : Streams where
  collected := past.collected ++ streams.collected
  recorded := past.recorded ++ streams.recorded
  console := past.console ++ streams.console
  trace := past.trace ++ streams.trace

/-- What was written one after the other. -/
def Streams.concat (all : List Streams) : Streams where
  collected := all.flatMap Streams.collected
  recorded := all.flatMap Streams.recorded
  console := String.join (all.map Streams.console)
  trace := String.join (all.map Streams.trace)

namespace Streams

theorem append_empty (streams : Streams) : streams.append {} = streams := by
  simp [append]

theorem empty_append (streams : Streams) : Streams.append {} streams = streams := by
  simp [append]

theorem append_assoc (one other third : Streams) :
    (one.append other).append third = one.append (other.append third) := by
  simp [append, List.append_assoc, String.append_assoc]

theorem concat_nil : concat [] = {} := rfl

theorem concat_cons (streams : Streams) (rest : List Streams) :
    concat (streams :: rest) = streams.append (concat rest) := by
  simp [concat, append]

/-- A line is written after the past. -/
theorem append_print (past streams : Streams) (line : String) (sink : Sink) :
    (past.append streams).print line sink = past.append (streams.print line sink) := by
  induction sink generalizing streams with
  | collector => simp [print, append]
  | console => simp [print, append, String.append_assoc]
  | recorded onward ih =>
    have hrecorded := ih { streams with recorded := streams.recorded ++ [line] }
    simp only [print, append, List.append_assoc] at hrecorded ⊢
    exact hrecorded

end Streams

/-! ## the past of a context -/

/-- The context with a past under it: what was written before, and the greatest depth before. -/
def Context.onTop (context : Context) (past : Streams) (deepest : Int) : Context :=
  { context with
    streams := past.append context.streams, deepest := max deepest context.deepest }

section

variable (context : Context) (past : Streams) (deepest : Int)

theorem Context.onTop_onTop (earlier : Streams) (depth : Int) :
    (context.onTop past deepest).onTop earlier depth
      = context.onTop (earlier.append past) (max depth deepest) := by
  simp only [onTop, Streams.append_assoc, Int.max_assoc]

theorem Context.trace_onTop (message : String) :
    (context.onTop past deepest).trace message = (context.trace message).onTop past deepest := by
  cases hdebug : context.debug with
  | true => simp [trace, onTop, hdebug, Streams.append, String.append_assoc]
  | false => simp [trace, onTop, hdebug]

/-- No event looks at the past. -/
theorem Event.apply_onTop (event : Event) :
    event.apply (context.onTop past deepest) = (event.apply context).onTop past deepest := by
  cases event with
  | printed line => simp only [apply, Context.emit, Context.onTop, Streams.append_print]
  | traced message => exact context.trace_onTop past deepest message
  | entered => simp only [apply, Context.enter, Context.onTop, Int.max_assoc]
  | left => rfl

theorem Context.after_onTop (events : List Event) :
    (context.onTop past deepest).after events = (context.after events).onTop past deepest := by
  induction events generalizing context with
  | nil => rfl
  | cons event events ih => rw [after_cons, after_cons, event.apply_onTop, ih]

/-! ## runs -/

variable (limit : Nat) (term : Term) (env : Env)

/-- A run goes the same way whatever the past is. -/
theorem Term.eval_onTop :
    term.eval limit env (context.onTop past deepest)
      = ((term.eval limit env context).1, (term.eval limit env context).2.onTop past deepest) := by
  have halike : (context.onTop past deepest).Alike context := ⟨rfl, rfl, rfl⟩
  rw [term.eval_eq_logged, term.eval_eq_logged, term.uniform_evalIn limit env _ _ halike,
    Context.after_onTop]

/-- The settings and the depth alone decide how a run ends. -/
theorem Term.outcome_eq_of_alike {one other : Context} (h : one.Alike other) :
    (term.eval limit env one).1 = (term.eval limit env other).1 := by
  rw [term.eval_eq_logged, term.eval_eq_logged, term.uniform_evalIn limit env _ _ h]

theorem Term.evalRoot_onTop_snd :
    (term.evalRoot limit env (context.onTop past deepest)).2
      = (term.evalRoot limit env context).2.onTop past deepest := by
  rw [evalRoot_snd, evalRoot_snd, eval_onTop]

/-- At the root the past is told only if the machine is exhausted and the past went deeper. -/
theorem Term.evalRoot_onTop_fst
    (h : (term.eval limit env context).1 = .exhausted → deepest ≤ context.deepest) :
    (term.evalRoot limit env (context.onTop past deepest)).1
      = (term.evalRoot limit env context).1 := by
  have hrun := term.eval_onTop context past deepest limit env
  have hdeepest := (term.balanced_eval limit env context).le_deepest
  rw [evalRoot, evalRoot, hrun]
  cases hcontext : term.eval limit env context with
  | mk outcome after =>
    rw [hcontext] at h hdeepest
    cases outcome with
    | exhausted =>
      have hle : deepest ≤ after.deepest := Int.le_trans (h rfl) hdeepest
      have hsame : (after.onTop past deepest).deepest = after.deepest := Int.max_eq_right hle
      dsimp only
      rw [hsame]
    | _ => rfl

/-! ## programs -/

namespace Program

variable (program : Program)

/-- The context that the root term of a program is evaluated in. -/
def begun (context : Context) : Context :=
  Context.trace
    { context with
      sink := .recorded context.sink, streams := { context.streams with recorded := [] } }
    s!"Running program {program.name.display}"

/-- What is told of a program that printed some lines. -/
def told (output : List String) : Outcome Value → Outcome ProgramResult
  | .done value => .done ⟨program.name, .ok value, output⟩
  | .failed error => .done ⟨program.name, .error error, output⟩
  | .faulted fault => .faulted fault
  | .exhausted => .exhausted

theorem run_eq : program.run limit env context
    = (program.told
        (program.expression.evalRoot limit env (program.begun context)).2.streams.recorded
        (program.expression.evalRoot limit env (program.begun context)).1,
      { context with
        streams := {
          (program.expression.evalRoot limit env (program.begun context)).2.streams with
          recorded := context.streams.recorded } }) := by
  have hrun : ((Eval.trace s!"Running program {program.name.display}" >>= fun _ =>
      program.expression.evalRoot limit env) : Eval Value) { context with
        sink := .recorded context.sink, streams := { context.streams with recorded := [] } }
      = program.expression.evalRoot limit env (program.begun context) := rfl
  rw [run, hrun]
  cases program.expression.evalRoot limit env (program.begun context) with
  | mk outcome after => cases outcome <;> rfl

/-- Of a run there remains in the context what it wrote, and nothing else. -/
theorem run_snd :
    ∃ streams, (program.run limit env context).2 = { context with streams } :=
  ⟨_, congrArg Prod.snd (program.run_eq context limit env)⟩

/-- It differs from the caller's in the sink, the record and the trace. -/
theorem begun_eq : ∃ text, program.begun context
    = { context with
        sink := .recorded context.sink
        streams := { context.streams with recorded := [], trace := text } } := by
  unfold begun Context.trace
  split <;> exact ⟨_, rfl⟩

theorem begun_alike : (program.begun context).Alike context := by
  obtain ⟨text, htext⟩ := program.begun_eq context
  rw [htext]
  exact ⟨rfl, rfl, rfl⟩

theorem begun_onTop : program.begun (context.onTop past deepest)
    = (program.begun context).onTop { past with recorded := [] } deepest := by
  rw [begun, begun, ← Context.trace_onTop]
  rfl

theorem run_onTop_snd : (program.run limit env (context.onTop past deepest)).2
    = (program.run limit env context).2.onTop past deepest := by
  rw [run_eq, run_eq, begun_onTop, Term.evalRoot_onTop_snd]
  rfl

theorem run_onTop_fst
    (h : (program.expression.eval limit env context).1 = .exhausted → deepest ≤ context.deepest) :
    (program.run limit env (context.onTop past deepest)).1
      = (program.run limit env context).1 := by
  have hbegun : (program.expression.eval limit env (program.begun context)).1 = .exhausted →
      deepest ≤ (program.begun context).deepest := by
    rw [program.expression.outcome_eq_of_alike limit env (program.begun_alike context), begun,
      Context.deepest_trace]
    exact h
  rw [run_eq, run_eq, begun_onTop, Term.evalRoot_onTop_snd,
    Term.evalRoot_onTop_fst _ _ _ _ _ _ hbegun]
  rfl

end Program

end

end Rinha
