import Rinha.Proofs.Past
import Rinha.Term.Build

/-!
# Rinha.Proofs.ProgramRuns

Running a program against evaluating its root term.  The run of a program evaluates the root term in
a context that differs from the caller's in what is written and where
(`Program.begun`), and a run does not look there.  So both end in the same way
(`Program.evalRoot_begun_fst`), and they print the same lines.

While it runs, the lines go to the record of the program and on to the caller's sink
(`Streams.printAll_recorded`).  That sink is not itself the record of a program, since programs do
not run inside each other (`Sink.Outer`).
-/

namespace Rinha

/-! ## recording -/

/-- A sink that is not the record of a program that is running.  Only the run of a program records,
and no run begins inside another one, so every sink that a caller has is outer. -/
def Sink.Outer (sink : Sink) : Prop :=
  ∀ onward, sink ≠ .recorded onward

namespace Streams

variable {sink : Sink} (streams : Streams)

/-- Printing to an outer sink does not look at the record. -/
theorem print_withRecord (hsink : sink.Outer) (record : List String) (line : String) :
    ({ streams with recorded := record } : Streams).print line sink
      = { streams.print line sink with recorded := record } := by
  cases sink with
  | collector => rfl
  | console => rfl
  | recorded onward => exact absurd rfl (hsink onward)

theorem printAll_withRecord (hsink : sink.Outer) (record : List String) (lines : List String) :
    ({ streams with recorded := record } : Streams).printAll lines sink
      = { streams.printAll lines sink with recorded := record } := by
  induction lines generalizing streams with
  | nil => rfl
  | cons line lines ih => rw [printAll_cons, print_withRecord _ hsink, ih, printAll_cons]

/-- A program that runs keeps its lines and hands them on. -/
theorem printAll_recorded (hsink : sink.Outer) (lines : List String) :
    streams.printAll lines (.recorded sink)
      = { streams.printAll lines sink with recorded := streams.recorded ++ lines } := by
  induction lines generalizing streams with
  | nil => rw [printAll_nil, List.append_nil]; rfl
  | cons line lines ih =>
    have hline : streams.print line (.recorded sink)
        = { streams.print line sink with recorded := streams.recorded ++ [line] } :=
      streams.print_withRecord hsink _ line
    rw [printAll_cons, hline, ih, printAll_withRecord _ hsink, List.append_assoc]
    rfl

/-- A record that begins empty ends with the lines. -/
theorem printAll_newRecord (hsink : sink.Outer) (text : String) (lines : List String) :
    ({ streams with recorded := [], trace := text } : Streams).printAll lines (.recorded sink)
      = { streams.printAll lines sink with recorded := lines, trace := text } := by
  have hrecord := printAll_withRecord { streams with trace := text } hsink [] lines
  rw [printAll_trace] at hrecord
  rw [printAll_recorded _ hsink, hrecord]
  rfl

end Streams

/-! ## the root term of a program -/

namespace Program

variable (program : Program) (limit : Nat) (env : Env) (context : Context)

/-- The root term ends in the same way in the context that a run evaluates it in. -/
theorem evalRoot_begun_fst :
    (program.expression.evalRoot limit env (program.begun context)).1
      = (program.expression.evalRoot limit env context).1 := by
  have halike := program.begun_alike context
  have hdeepest : (program.begun context).deepest = context.deepest :=
    Context.deepest_trace _ _
  apply Term.evalRoot_fst_congr
  · exact program.expression.outcome_eq_of_alike limit env halike
  · rw [Term.eval_eq_logged, Term.eval_eq_logged,
      program.expression.uniform_evalIn limit env _ _ halike, Context.deepest_after,
      Context.deepest_after, halike.depth, hdeepest]

/-- There it writes the same lines on the record and, beside what is traced, to the caller's
sink. -/
theorem evalRoot_begun_streams (hsink : context.sink.Outer) :
    ∃ text, (program.expression.evalRoot limit env (program.begun context)).2.streams
      = { context.streams.printAll
            (printedLines (program.expression.evalIn Logged limit env context).2) context.sink with
          recorded := printedLines (program.expression.evalIn Logged limit env context).2
          trace := text } := by
  have halike := program.begun_alike context
  obtain ⟨before, hbegun⟩ := program.begun_eq context
  obtain ⟨text, htext⟩ := (program.begun context).streams_after
    (program.expression.evalIn Logged limit env context).2
  refine ⟨text, ?_⟩
  rw [Term.evalRoot_snd, Term.eval_eq_logged,
    program.expression.uniform_evalIn limit env _ _ halike, htext, hbegun,
    Streams.printAll_newRecord _ hsink]

/-- The program that an object with a name and an expression is. -/
theorem ofData_eq_ok {data name expression : Data} (hname : data.field "name" = .ok name)
    (hexpression : data.field "expression" = .ok expression) :
    ofData data = .ok ⟨name, Term.ofData expression⟩ := by
  have hfield : data.field? "expression" = some expression := Data.field_eq_ok_iff.mp hexpression
  rw [ofData, hname, hfield]
  rfl

/-- What is told of a run says how the root term ended. -/
theorem told_eq_value_iff {output : List String} {outcome : Outcome Value} {value : Value} :
    (∃ lines, program.told output outcome = .done ⟨program.name, .ok value, lines⟩)
      ↔ outcome = .done value := by
  cases outcome <;> simp [told]

theorem told_eq_error_iff {output : List String} {outcome : Outcome Value} {error : Error} :
    (∃ lines, program.told output outcome = .done ⟨program.name, .error error, lines⟩)
      ↔ outcome = .failed error := by
  cases outcome <;> simp [told]

theorem told_eq_fault_iff {output : List String} {outcome : Outcome Value} {fault : Fault} :
    program.told output outcome = .faulted fault ↔ outcome = .faulted fault := by
  cases outcome <;> simp [told]

theorem told_ne_exhausted {output : List String} {outcome : Outcome Value}
    (h : outcome ≠ .exhausted) : program.told output outcome ≠ .exhausted := by
  cases outcome <;> simp_all [told]

theorem output_of_told {output : List String} {outcome : Outcome Value} {result : ProgramResult}
    (h : program.told output outcome = .done result) : result.output = output := by
  cases outcome with
  | done value => cases h; rfl
  | failed error => cases h; rfl
  | faulted fault => cases h
  | exhausted => cases h

/-- A run tells how the root term ends and, with an outer sink, the lines that it prints. -/
theorem run_fst_eq_told : ∃ output,
    (program.run limit env context).1
      = program.told output (program.expression.evalRoot limit env context).1 ∧
    (context.sink.Outer →
      output = printedLines (program.expression.evalIn Logged limit env context).2) := by
  rw [run_eq, evalRoot_begun_fst]
  refine ⟨_, rfl, fun hsink => ?_⟩
  obtain ⟨text, htext⟩ := program.evalRoot_begun_streams limit env context hsink
  rw [htext]

/-- Of these lines the caller's sink has received all, and nothing else. -/
theorem run_snd_streams (hsink : context.sink.Outer) :
    ∃ text, (program.run limit env context).2.streams
      = { context.streams.printAll
            (printedLines (program.expression.evalIn Logged limit env context).2) context.sink with
          trace := text } := by
  obtain ⟨text, htext⟩ := program.evalRoot_begun_streams limit env context hsink
  have hrecord := context.streams.printAll_withRecord hsink context.streams.recorded
    (printedLines (program.expression.evalIn Logged limit env context).2)
  refine ⟨text, ?_⟩
  rw [run_eq, htext]
  simp only [Streams.mk.injEq, true_and, and_true]
  exact (congrArg Streams.recorded hrecord).symm

/-- Running a program is evaluating its root term, and telling how that ends.

For an object with a name and an expression, in every environment and every context:

* a run tells a value just if the root term has it, it tells an error just if the root term fails
  with it, the exhaustion of the machine among the errors, and it meets the same faults;
* whatever it ends in, the caller's context is as it was but for what was written;
* where the caller's sink is no record itself, the lines that a run tells are those that evaluating
  the root term prints; and all of them, and nothing else but the trace, have been written for the
  caller, by a run that ends at a fault as well. -/
theorem run_refines_evalRoot {data name expression : Data} (hname : data.field "name" = .ok name)
    (hexpression : data.field "expression" = .ok expression) (limit : Nat) (env : Env)
    (context : Context) :
    let evaluate := (Term.ofData expression).evalRoot limit env
    ∃ program lines, ofData data = .ok program ∧ evaluate.Prints context lines ∧
      let run := program.run limit env context
      (∀ value, (∃ output, run.1 = .done ⟨name, .ok value, output⟩)
        ↔ (evaluate context).1 = .done value) ∧
      (∀ error, (∃ output, run.1 = .done ⟨name, .error error, output⟩)
        ↔ (evaluate context).1 = .failed error) ∧
      (∀ fault, run.1 = .faulted fault ↔ (evaluate context).1 = .faulted fault) ∧
      run.1 ≠ .exhausted ∧
      (∃ streams, run.2 = { context with streams }) ∧
      (context.sink.Outer →
        (∀ result, run.1 = .done result → result.output = lines) ∧
        ∃ text, run.2.streams
          = { context.streams.printAll lines context.sink with trace := text }) := by
  intro evaluate
  let program : Program := ⟨name, Term.ofData expression⟩
  have hprints : evaluate.Prints context
      (printedLines (program.expression.evalIn Logged limit env context).2) :=
    Term.prints_evalRoot_iff.mpr (program.expression.prints_eval limit env context)
  have hexhausted : (evaluate context).1 ≠ .exhausted :=
    Term.evalRoot_fst_ne_exhausted limit _ env context
  obtain ⟨output, htold, houtput⟩ := program.run_fst_eq_told limit env context
  refine ⟨program, _, ofData_eq_ok hname hexpression, hprints, ?_⟩
  simp only [htold]
  refine ⟨fun value => program.told_eq_value_iff, fun error => program.told_eq_error_iff,
    fun fault => program.told_eq_fault_iff, program.told_ne_exhausted hexhausted,
    program.run_snd context limit env, fun hsink => ⟨fun result hresult => ?_, ?_⟩⟩
  · rw [program.output_of_told hresult, houtput hsink]
  · exact program.run_snd_streams limit env context hsink

/-- A program that prints a line and then looks for a name that is not bound: the error and the line
are told, and the line has gone to the collector, or to the console with a line feed. -/
theorem run_refines_evalRoot_printThenFail :
    let expression := Build.letIn (.text "x") (Build.print (Build.string (.text "a") none) none)
      (Build.var (.text "y") none) none
    let data := Build.program expression (.text "main") none
    let context := Context.new .collector false none
    let shown := Context.new .console false none
    data.field "name" = .ok (.text "main") ∧ data.field "expression" = .ok expression ∧
      context.sink.Outer ∧ shown.sink.Outer ∧
      ∃ program error, ofData data = .ok program ∧ error.cause = .unboundVariable (.text "y") ∧
        (∃ output, (program.run 0 .empty context).1
          = .done ⟨.text "main", .error error, output⟩) ∧
        (∀ result, (program.run 0 .empty context).1 = .done result → result.output = ["a"]) ∧
        (program.run 0 .empty context).2.streams.collected = ["a"] ∧
        (program.run 0 .empty shown).2.streams.console = "a\n" := by
  intro expression data context shown
  have hname : data.field "name" = .ok (.text "main") := rfl
  have hexpression : data.field "expression" = .ok expression := rfl
  have houter : context.sink.Outer := by rintro onward ⟨⟩
  have houter' : shown.sink.Outer := by rintro onward ⟨⟩
  have hread : ofData data = .ok ⟨.text "main", Term.ofData expression⟩ := rfl
  obtain ⟨program, lines, hprogram, -, -, herror, -, -, -, hlines⟩ :=
    run_refines_evalRoot hname hexpression 0 .empty context
  obtain ⟨houtput, text, htext⟩ := hlines houter
  obtain rfl : ⟨.text "main", Term.ofData expression⟩ = program :=
    Except.ok.inj (hread.symm.trans hprogram)
  have hcollected : (context.streams.printAll lines .collector).collected = ["a"] :=
    (congrArg Streams.collected htext).symm
  rw [Streams.printAll_collector] at hcollected
  obtain rfl : lines = ["a"] := hcollected
  refine ⟨hname, hexpression, houter, houter', _, _, hprogram, rfl, (herror _).mpr rfl, houtput,
    rfl, ?_⟩
  obtain ⟨program, lines, hprogram', -, -, -, -, -, -, hlines'⟩ :=
    run_refines_evalRoot hname hexpression 0 .empty shown
  obtain ⟨houtput', text', htext'⟩ := hlines' houter'
  obtain rfl : ⟨.text "main", Term.ofData expression⟩ = program :=
    Except.ok.inj (hread.symm.trans hprogram')
  obtain rfl : ["a"] = lines := houtput' _ rfl
  have hconsole := congrArg Streams.console htext'
  refine hconsole.trans ?_
  change (shown.streams.printAll ["a"] .console).console = "a\n"
  rw [Streams.printAll_console]
  decide

end Program

end Rinha
