import Rinha.Proofs.CallDepth

/-!
# Rinha.Proofs.Printed

What a run prints.  The lines that a run hands to the sink do not depend on the sink, nor on what
was written before: the log of a run is the same in all contexts that agree in their settings and
their depth (`Term.uniform_evalIn`).  So it makes sense to say of a run that it prints some lines,
which means that every sink receives just these, in order, beside what is traced (`Eval.Prints`):

* `Term.prints_eval` — a run prints the lines of its log;
* `Eval.Prints.unique` — and no others.
-/

namespace Rinha

open Effects

/-! ## lines at a sink -/

/-- The streams after lines went to a sink, in order. -/
def Streams.printAll (streams : Streams) (lines : List String) (sink : Sink) : Streams :=
  lines.foldl (fun streams line => streams.print line sink) streams

/-- Printing does not look at the trace. -/
theorem Streams.print_trace (streams : Streams) (text line : String) (sink : Sink) :
    ({ streams with trace := text } : Streams).print line sink
      = { streams.print line sink with trace := text } := by
  induction sink generalizing streams with
  | collector => rfl
  | console => rfl
  | recorded onward ih =>
    simp only [Streams.print]
    exact ih { streams with recorded := streams.recorded ++ [line] }

/-- Nor does it write there. -/
@[simp] theorem Streams.trace_print (streams : Streams) (line : String) (sink : Sink) :
    (streams.print line sink).trace = streams.trace := by
  induction sink generalizing streams with
  | collector => rfl
  | console => rfl
  | recorded onward ih => exact ih { streams with recorded := streams.recorded ++ [line] }

@[simp] theorem Streams.printAll_nil (streams : Streams) (sink : Sink) :
    streams.printAll [] sink = streams := rfl

@[simp] theorem Streams.printAll_cons (streams : Streams) (line : String) (lines : List String)
    (sink : Sink) :
    streams.printAll (line :: lines) sink = (streams.print line sink).printAll lines sink := rfl

theorem Streams.printAll_trace (streams : Streams) (text : String) (lines : List String)
    (sink : Sink) :
    ({ streams with trace := text } : Streams).printAll lines sink
      = { streams.printAll lines sink with trace := text } := by
  induction lines generalizing streams with
  | nil => rfl
  | cons line lines ih => rw [printAll_cons, print_trace, ih, printAll_cons]

/-- A collector keeps the lines apart. -/
theorem Streams.printAll_collector (streams : Streams) (lines : List String) :
    streams.printAll lines .collector
      = { streams with collected := streams.collected ++ lines } := by
  induction lines generalizing streams with
  | nil => simp
  | cons line lines ih => rw [printAll_cons, ih]; simp [print]

/-- The console puts them together, each ended by a line feed. -/
theorem Streams.printAll_console (streams : Streams) (lines : List String) :
    streams.printAll lines .console
      = { streams with
          console := streams.console ++ String.join (lines.map fun line => line ++ "\n") } := by
  induction lines generalizing streams with
  | nil => simp
  | cons line lines ih => rw [printAll_cons, ih]; simp [print, String.append_assoc]

/-- Wherever the lines go and whatever was written before, events do the same to all the rest of a
context. -/
theorem Context.after_withSink (context : Context) (events : List Event) (sink : Sink)
    {streams : Streams} (htrace : streams.trace = context.streams.trace) :
    ({ context with sink, streams } : Context).after events
      = { context.after events with
          sink
          streams := { streams.printAll (printedLines events) sink with
            trace := (context.after events).streams.trace } } := by
  induction events generalizing context streams with
  | nil => rw [after_nil, after_nil, ← htrace]; rfl
  | cons event events ih =>
    rw [after_cons, after_cons]
    cases event with
    | printed line =>
      have hline : (streams.print line sink).trace = (context.emit line).streams.trace := by
        simp [emit, htrace]
      exact ih (context.emit line) hline
    | traced message =>
      -- Both traces end alike, so what comes next begins with equal traces again.
      have hsame : Context.trace { context with sink, streams } message
          = { context.trace message with
              sink
              streams := { streams with trace := (context.trace message).streams.trace } } := by
        cases hdebug : context.debug with
        | true => simp [trace, hdebug, htrace]
        | false => simp [trace, hdebug, ← htrace]
      have hrest := @ih (context.trace message)
        { streams with trace := (context.trace message).streams.trace } rfl
      rw [Streams.printAll_trace] at hrest
      rw [Event.apply, Event.apply, hsame]
      exact hrest
    | entered => exact ih context.enter htrace
    | left => exact ih context.leave htrace

/-- Beside what is traced, events print their lines. -/
theorem Context.streams_after (context : Context) (events : List Event) :
    ∃ text, (context.after events).streams
      = { context.streams.printAll (printedLines events) context.sink with trace := text } :=
  ⟨_, congrArg Context.streams (context.after_withSink events context.sink rfl)⟩

/-! ## contexts that no run can tell apart -/

/-- Two contexts that agree in all that decides how a run goes. -/
structure Context.Alike (one other : Context) : Prop where
  debug : one.debug = other.debug
  maxDepth : one.maxDepth = other.maxDepth
  depth : one.depth = other.depth

theorem Context.Alike.apply {one other : Context} (h : one.Alike other) (event : Event) :
    (event.apply one).Alike (event.apply other) := by
  obtain ⟨hdebug, hmax, hdepth⟩ := h
  obtain ⟨-, hdebug₁, hmax₁⟩ := one.settings_apply event
  obtain ⟨-, hdebug₂, hmax₂⟩ := other.settings_apply event
  refine ⟨by rw [hdebug₁, hdebug₂, hdebug], by rw [hmax₁, hmax₂, hmax], ?_⟩
  cases event with
  | printed line => exact hdepth
  | traced message => simpa only [Event.apply, depth_trace] using hdepth
  | entered => simp only [Event.apply, enter, hdepth]
  | left => simp only [Event.apply, leave, hdepth]

theorem Context.Alike.after {one other : Context} (h : one.Alike other) (events : List Event) :
    (one.after events).Alike (other.after events) := by
  induction events generalizing one other with
  | nil => exact h
  | cons event events ih => exact ih (h.apply event)

/-- A computation that does the same in all contexts that are alike. -/
def Logged.Uniform {α : Type} (action : Logged α) : Prop :=
  ∀ one other : Context, one.Alike other → action one = action other

namespace Logged.Uniform

variable {α β : Type}

theorem bind {x : Logged α} {f : α → Logged β} (h : x.Uniform)
    (hf : ∀ result, (f result).Uniform) : Logged.Uniform (x >>= f) := by
  intro one other halike
  have hsame := h one other halike
  cases hrun : x one with
  | mk outcome events =>
    rw [hrun] at hsame
    cases outcome with
    | done result =>
      rw [Logged.bind_done hrun, Logged.bind_done hsame.symm,
        hf result _ _ (halike.after events)]
    | failed error => rw [Logged.bind_failed hrun, Logged.bind_failed hsame.symm]
    | faulted fault => rw [Logged.bind_faulted hrun, Logged.bind_faulted hsame.symm]
    | exhausted => rw [Logged.bind_exhausted hrun, Logged.bind_exhausted hsame.symm]

theorem inCall {x : Logged α} (h : x.Uniform) : Logged.Uniform (Effects.inCall x) := by
  intro one other halike
  have hpassed : one.passed? (one.depth + 1) = other.passed? (other.depth + 1) := by
    rw [Context.passed?, Context.passed?, halike.maxDepth, halike.depth]
  have henter : x one.enter = x other.enter := h _ _ (halike.apply .entered)
  cases hone : one.passed? (one.depth + 1) with
  | error fault => rw [Logged.inCall_faulted hone, Logged.inCall_faulted (hpassed ▸ hone)]
  | ok passed =>
    cases passed with
    | some limit => rw [Logged.inCall_refused hone, Logged.inCall_refused (hpassed ▸ hone)]
    | none =>
      rw [Logged.inCall_entered hone, Logged.inCall_entered (hpassed ▸ hone), henter]

/-- Every operation is uniform. -/
def simulation : Simulation Logged Logged where
  rel action _ := action.Uniform
  pure _ := fun _ _ _ => rfl
  bind := bind
  fail _ := fun _ _ _ => rfl
  fault _ := fun _ _ _ => rfl
  emit _ := fun _ _ _ => rfl
  trace _ := fun _ _ _ => rfl
  traceWith message := fun one other halike => by
    show Logged.traceWith message one = Logged.traceWith message other
    unfold Logged.traceWith
    rw [halike.debug]
  stamp location h := fun one other halike => by
    rw [Logged.stamp_apply, Logged.stamp_apply, h one other halike]

end Logged.Uniform

/-- Every run goes the same way in all contexts that are alike. -/
theorem Term.uniform_evalIn (limit : Nat) (term : Term) (env : Env) :
    (term.evalIn Logged limit env).Uniform :=
  Logged.Uniform.simulation.evalIn Logged.Uniform.inCall (fun _ _ _ => rfl) limit term env

/-- Wherever a run prints, it ends in the same way and does the same to all the rest of its
context. -/
theorem Term.eval_withSink (limit : Nat) (term : Term) (env : Env) (context : Context) (sink : Sink)
    {streams : Streams} (htrace : streams.trace = context.streams.trace) :
    term.eval limit env { context with sink, streams }
      = ((term.eval limit env context).1,
        { (term.eval limit env context).2 with
          sink
          streams := {
            streams.printAll (printedLines (term.evalIn Logged limit env context).2) sink with
            trace := (term.eval limit env context).2.streams.trace } }) := by
  have halike : Context.Alike { context with sink, streams } context := ⟨rfl, rfl, rfl⟩
  rw [term.eval_eq_logged, term.eval_eq_logged, term.uniform_evalIn limit env _ _ halike,
    Context.after_withSink _ _ _ htrace]

/-! ## the lines of a run -/

/-- A computation prints these lines: whatever the sink and whatever was written before, the sink
receives them in order, and nothing else is written but what is traced. -/
def Eval.Prints {α : Type} (action : Eval α) (context : Context) (lines : List String) : Prop :=
  ∀ sink streams, ∃ text, (action { context with sink, streams }).2.streams
    = { streams.printAll lines sink with trace := text }

/-- No computation prints two different lists of lines. -/
theorem Eval.Prints.unique {α : Type} {action : Eval α} {context : Context}
    {lines others : List String} (h : action.Prints context lines)
    (hothers : action.Prints context others) : lines = others := by
  obtain ⟨text, htext⟩ := h .collector {}
  obtain ⟨text', htext'⟩ := hothers .collector {}
  have hcollected := congrArg Streams.collected (htext.symm.trans htext')
  simpa only [Streams.printAll_collector, List.nil_append] using hcollected

/-- A run prints the lines of its log. -/
theorem Term.prints_eval (limit : Nat) (term : Term) (env : Env) (context : Context) :
    (term.eval limit env).Prints context
      (printedLines (term.evalIn Logged limit env context).2) := by
  intro sink streams
  have halike : Context.Alike { context with sink, streams } context := ⟨rfl, rfl, rfl⟩
  rw [term.eval_eq_logged, term.uniform_evalIn limit env _ _ halike]
  exact Context.streams_after { context with sink, streams } _

theorem Term.prints_evalRoot_iff {limit : Nat} {term : Term} {env : Env} {context : Context}
    {lines : List String} :
    (term.evalRoot limit env).Prints context lines
      ↔ (term.eval limit env).Prints context lines := by
  simp only [Eval.Prints, evalRoot_snd]

end Rinha
