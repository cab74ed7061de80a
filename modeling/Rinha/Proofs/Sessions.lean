import Rinha.Proofs.Past

/-!
# Rinha.Proofs.Sessions

Calls one after the other in one context.  A call from outside evaluates a root term or runs a
program (`TopCall`).  A call that is made in a new context leaves a new context with a past, and on
top of a past it does the same as in a new context, so by induction the calls of a session do what
each of them does alone (`TopCall.runAll_new_fst`, `TopCall.runAll_new_snd`).  An interpreter runs
each program in a new context, and only what is written is common to them
(`Interpreter.runAll_eq`).
-/

namespace Rinha

open Effects

/-! ## calls from outside -/

/-- Run a program, if it can be read. -/
def Program.runRead (limit : Nat) (env : Env) (program : Except Fault Program) :
    Eval ProgramResult := do
  (← orFault program).run limit env

/-- A call from outside: a root term to evaluate, or a program to run, in an environment.  What is
meant as a program may not be readable as one. -/
inductive TopCall where
  | evaluate (term : Term) (env : Env)
  | execute (program : Except Fault Program) (env : Env)

/-- What a call from outside ends in. -/
inductive Answer where
  | value (outcome : Outcome Value)
  | result (outcome : Outcome ProgramResult)

namespace TopCall

/-- Make a call in a context. -/
def run (limit : Nat) (call : TopCall) (context : Context) : Answer × Context :=
  match call with
  | .evaluate term env =>
    let (outcome, after) := term.evalRoot limit env context
    (.value outcome, after)
  | .execute program env =>
    let (outcome, after) := Program.runRead limit env program context
    (.result outcome, after)

/-- Make calls one after the other in one context. -/
def runAll (limit : Nat) : List TopCall → Context → List Answer × Context
  | [], context => ([], context)
  | call :: rest, context =>
    let (answer, after) := call.run limit context
    let (answers, last) := runAll limit rest after
    (answer :: answers, last)

/-- Whether a call would exhaust the machine. -/
def Exhausts (limit : Nat) (context : Context) : TopCall → Prop
  | .evaluate term env => (term.eval limit env context).1 = .exhausted
  | .execute (.ok program) env => (program.expression.eval limit env context).1 = .exhausted
  | .execute (.error _) _ => False

/-- How deep a call gets the context, which only root terms do. -/
def deepest? (limit : Nat) (context : Context) : TopCall → Option Int
  | .evaluate term env => some (term.evalRoot limit env context).2.deepest
  | .execute _ _ => none

variable {limit : Nat} {call : TopCall}

theorem run_execute_snd (program : Program) (env : Env) (context : Context) :
    ((execute (.ok program) env).run limit context).2 = (program.run limit env context).2 := rfl

theorem run_onTop_snd (context : Context) (past : Streams) (deepest : Int) :
    (call.run limit (context.onTop past deepest)).2
      = (call.run limit context).2.onTop past deepest := by
  cases call with
  | evaluate term env => exact term.evalRoot_onTop_snd context past deepest limit env
  | execute program env =>
    cases program with
    | error fault => rfl
    | ok program => exact program.run_onTop_snd context past deepest limit env

theorem exhausts_onTop (context : Context) (past : Streams) (deepest : Int) :
    call.Exhausts limit (context.onTop past deepest) ↔ call.Exhausts limit context := by
  have halike : (context.onTop past deepest).Alike context := ⟨rfl, rfl, rfl⟩
  cases call with
  | evaluate term env => rw [Exhausts, Exhausts, term.outcome_eq_of_alike limit env halike]
  | execute program env =>
    cases program with
    | error fault => rfl
    | ok program =>
      rw [Exhausts, Exhausts, program.expression.outcome_eq_of_alike limit env halike]

/-- A call ends in the same way whatever the past is, unless it exhausts the machine and the past
went deeper. -/
theorem run_onTop_fst {context : Context} {deepest : Int}
    (h : call.Exhausts limit context → deepest ≤ context.deepest) (past : Streams) :
    (call.run limit (context.onTop past deepest)).1 = (call.run limit context).1 := by
  cases call with
  | evaluate term env =>
    exact congrArg Answer.value (term.evalRoot_onTop_fst context past deepest limit env h)
  | execute program env =>
    cases program with
    | error fault => rfl
    | ok program =>
      exact congrArg Answer.result (program.run_onTop_fst context past deepest limit env h)

/-! ## calls one after the other -/

section

variable {sink : Sink} {debug : Bool} {maxDepth : Option Data}

/-- A context at rest is a new one on top of its past. -/
theorem eq_new_onTop {context : Context} (hsink : context.sink = sink)
    (hdebug : context.debug = debug) (hmax : context.maxDepth = maxDepth)
    (hdepth : context.depth = 0) (hdeepest : 0 ≤ context.deepest) :
    context = (Context.new sink debug maxDepth).onTop context.streams context.deepest := by
  cases context with
  | mk sink debug maxDepth depth deepest streams =>
    dsimp only at hsink hdebug hmax hdepth hdeepest
    subst hsink hdebug hmax hdepth
    simp [Context.new, Context.onTop, Streams.append_empty, Int.max_eq_left hdeepest]

/-- A call in a new context leaves the context at rest. -/
theorem run_new_snd (call : TopCall) :
    (call.run limit (.new sink debug maxDepth)).2
      = (Context.new sink debug maxDepth).onTop
          (call.run limit (.new sink debug maxDepth)).2.streams
          (call.run limit (.new sink debug maxDepth)).2.deepest := by
  cases call with
  | evaluate term env =>
    have hbalanced := term.balanced_eval limit env (.new sink debug maxDepth)
    have hsink : (term.eval limit env (.new sink debug maxDepth)).2.sink = sink := by
      rw [term.eval_eq_logged]
      exact Context.sink_after _ _
    rw [← term.evalRoot_snd] at hbalanced hsink
    exact eq_new_onTop hsink hbalanced.debug_eq hbalanced.maxDepth_eq hbalanced.depth_eq
      hbalanced.le_deepest
  | execute program env =>
    cases program with
    | error fault => exact eq_new_onTop rfl rfl rfl rfl (Int.le_refl 0)
    | ok program =>
      obtain ⟨streams, hrun⟩ := program.run_snd (.new sink debug maxDepth) limit env
      rw [run_execute_snd, hrun]
      exact eq_new_onTop rfl rfl rfl rfl (Int.le_refl 0)

/-- A call leaves behind the past and, on top of it, what it leaves behind alone. -/
theorem run_new_onTop_snd (call : TopCall) (past : Streams) (deepest : Int) :
    (call.run limit ((Context.new sink debug maxDepth).onTop past deepest)).2
      = (Context.new sink debug maxDepth).onTop
          (past.append (call.run limit (.new sink debug maxDepth)).2.streams)
          (max deepest (call.run limit (.new sink debug maxDepth)).2.deepest) :=
  calc
    _ = (call.run limit (.new sink debug maxDepth)).2.onTop past deepest :=
      run_onTop_snd _ past deepest
    _ = _ := congrArg (Context.onTop · past deepest) (run_new_snd call)
    _ = _ := Context.onTop_onTop _ _ _ _ _

/-- The run of a program leaves the greatest depth as it is. -/
theorem foldl_deepest?_cons (call : TopCall) (rest : List TopCall) {deepest : Int}
    (hdeepest : 0 ≤ deepest) :
    ((call :: rest).filterMap (TopCall.deepest? limit (.new sink debug maxDepth))).foldl max deepest
      = (rest.filterMap (TopCall.deepest? limit (.new sink debug maxDepth))).foldl max
          (max deepest (call.run limit (.new sink debug maxDepth)).2.deepest) := by
  cases call with
  | evaluate term env => rfl
  | execute program env =>
    have hzero : ((execute program env).run limit (.new sink debug maxDepth)).2.deepest = 0 := by
      cases program with
      | error fault => rfl
      | ok program =>
        obtain ⟨streams, hrun⟩ := program.run_snd (.new sink debug maxDepth) limit env
        rw [run_execute_snd, hrun]
        rfl
    rw [hzero, Int.max_eq_left hdeepest]
    rfl

/-- What calls leave behind is the past and, on top of it, what each of them leaves behind alone. -/
theorem runAll_onTop_snd (calls : List TopCall) (past : Streams) {deepest : Int}
    (hdeepest : 0 ≤ deepest) :
    (runAll limit calls ((Context.new sink debug maxDepth).onTop past deepest)).2
      = (Context.new sink debug maxDepth).onTop
          (past.append
            (.concat (calls.map fun call => (call.run limit (.new sink debug maxDepth)).2.streams)))
          ((calls.filterMap (TopCall.deepest? limit (.new sink debug maxDepth))).foldl max
            deepest) := by
  induction calls generalizing past deepest with
  | nil => rw [List.map_nil, Streams.concat_nil, Streams.append_empty]; rfl
  | cons call rest ih =>
    have hlater := Int.le_trans hdeepest
      (Int.le_max_left deepest (call.run limit (.new sink debug maxDepth)).2.deepest)
    rw [runAll]
    dsimp only
    rw [run_new_onTop_snd, ih _ hlater, foldl_deepest?_cons call rest hdeepest, List.map_cons,
      Streams.concat_cons, Streams.append_assoc]

/-- A call ends as it does alone, whatever the past is, unless it exhausts the machine. -/
theorem run_new_onTop_fst {call : TopCall}
    (h : ¬ call.Exhausts limit (.new sink debug maxDepth)) (past : Streams) (deepest : Int) :
    (call.run limit ((Context.new sink debug maxDepth).onTop past deepest)).1
      = (call.run limit (.new sink debug maxDepth)).1 :=
  run_onTop_fst (fun hexhausts => absurd hexhausts h) past

theorem runAll_onTop_fst {calls : List TopCall}
    (h : ∀ call ∈ calls, ¬ call.Exhausts limit (.new sink debug maxDepth)) (past : Streams)
    (deepest : Int) :
    (runAll limit calls ((Context.new sink debug maxDepth).onTop past deepest)).1
      = calls.map fun call => (call.run limit (.new sink debug maxDepth)).1 := by
  induction calls generalizing past deepest with
  | nil => rfl
  | cons call rest ih =>
    rw [List.forall_mem_cons] at h
    rw [runAll]
    dsimp only
    rw [run_new_onTop_fst h.1, run_new_onTop_snd, ih h.2, List.map_cons]

/-- A new context has nothing under it. -/
theorem new_eq_onTop :
    Context.new sink debug maxDepth = (Context.new sink debug maxDepth).onTop {} 0 :=
  eq_new_onTop rfl rfl rfl rfl (Int.le_refl 0)

theorem runAll_new_snd (calls : List TopCall) :
    (runAll limit calls (.new sink debug maxDepth)).2
      = (Context.new sink debug maxDepth).onTop
          (.concat (calls.map fun call => (call.run limit (.new sink debug maxDepth)).2.streams))
          ((calls.filterMap (TopCall.deepest? limit (.new sink debug maxDepth))).foldl max 0) :=
  calc
    _ = (runAll limit calls ((Context.new sink debug maxDepth).onTop {} 0)).2 :=
      congrArg (fun context => (runAll limit calls context).2) new_eq_onTop
    _ = _ := by rw [runAll_onTop_snd calls {} (Int.le_refl 0), Streams.empty_append]

theorem runAll_new_fst {calls : List TopCall}
    (h : ∀ call ∈ calls, ¬ call.Exhausts limit (.new sink debug maxDepth)) :
    (runAll limit calls (.new sink debug maxDepth)).1
      = calls.map fun call => (call.run limit (.new sink debug maxDepth)).1 :=
  calc
    _ = (runAll limit calls ((Context.new sink debug maxDepth).onTop {} 0)).1 :=
      congrArg (fun context => (runAll limit calls context).1) new_eq_onTop
    _ = _ := runAll_onTop_fst h {} 0

end

end TopCall

/-! ## interpreters -/

namespace Interpreter

variable (interpreter : Interpreter) (limit : Nat)

/-- Run a program, if it can be read, in a new context. -/
def runRead : Except Fault Program → Outcome ProgramResult × Streams
  | .ok program => interpreter.run limit program
  | .error fault => (.faulted fault, {})

/-- Run a program, if it can be read, in a new context that writes on after what is there. -/
def runAfter (streams : Streams) (program : Except Fault Program) :
    Outcome ProgramResult × Streams :=
  let context :=
    { Context.new interpreter.sink interpreter.debug interpreter.maxDepth with streams }
  let (outcome, after) := Program.runRead limit .empty program context
  (outcome, after.streams)

/-- Run programs one after the other, each in a new context, all of them writing to the same
place. -/
def runAll : List (Except Fault Program) → Streams → List (Outcome ProgramResult) × Streams
  | [], streams => ([], streams)
  | program :: rest, streams =>
    let (outcome, after) := interpreter.runAfter limit streams program
    let (outcomes, last) := runAll rest after
    (outcome :: outcomes, last)

/-- A program does the same whatever is there. -/
theorem runAfter_eq (streams : Streams) (program : Except Fault Program) :
    interpreter.runAfter limit streams program
      = ((interpreter.runRead limit program).1,
        streams.append (interpreter.runRead limit program).2) := by
  have hcontext :
      { Context.new interpreter.sink interpreter.debug interpreter.maxDepth with streams }
        = .onTop (.new interpreter.sink interpreter.debug interpreter.maxDepth) streams 0 := by
    simp [Context.new, Context.onTop, Streams.append_empty]
  cases program with
  | error fault => exact Prod.ext rfl streams.append_empty.symm
  | ok program =>
    have hfst := program.run_onTop_fst (.new interpreter.sink interpreter.debug
      interpreter.maxDepth) streams 0 limit .empty fun _ => Int.le_refl 0
    have hsnd := program.run_onTop_snd (.new interpreter.sink interpreter.debug
      interpreter.maxDepth) streams 0 limit .empty
    rw [← hcontext] at hfst hsnd
    exact Prod.ext hfst (congrArg Context.streams hsnd)

theorem runAll_eq (programs : List (Except Fault Program)) (streams : Streams) :
    interpreter.runAll limit programs streams
      = (programs.map fun program => (interpreter.runRead limit program).1,
        streams.append
          (.concat (programs.map fun program => (interpreter.runRead limit program).2))) := by
  induction programs generalizing streams with
  | nil => rw [List.map_nil, List.map_nil, Streams.concat_nil, Streams.append_empty]; rfl
  | cons program rest ih =>
    rw [runAll, runAfter_eq]
    dsimp only
    rw [ih, List.map_cons, List.map_cons, Streams.concat_cons, Streams.append_assoc]

end Interpreter

/-! ## independence -/

/-- No state carries over between calls from outside.

* Whatever calls were made before in the same context, a call ends as it does alone in a new one,
  unless it exhausts the machine, which it does here if it does alone.  It adds to what is written
  just what it writes alone, and it leaves the depth at 0.
* So the answers to calls are the answers to each of them alone, and all that is written is what
  each of them writes alone, in order.  The greatest depth is the greatest that the evaluated terms
  reach alone; programs do not count.
* An interpreter's programs end as each of them does alone, in whatever order they are run and
  whatever was written before. -/
theorem TopCall.runs_independent (limit : Nat) (sink : Sink) (debug : Bool)
    (maxDepth : Option Data) :
    let fresh := Context.new sink debug maxDepth
    (∀ (before : List TopCall) (call : TopCall),
      let here := (runAll limit before fresh).2
      let alone := call.run limit fresh
      (call.Exhausts limit here ↔ call.Exhausts limit fresh) ∧
      (¬ call.Exhausts limit fresh → (call.run limit here).1 = alone.1) ∧
      (call.run limit here).2.streams = here.streams.append alone.2.streams ∧
      (call.run limit here).2.depth = 0) ∧
    (∀ calls : List TopCall,
      let all := runAll limit calls fresh
      ((∀ call ∈ calls, ¬ call.Exhausts limit fresh) →
        all.1 = calls.map fun call => (call.run limit fresh).1) ∧
      all.2.streams = .concat (calls.map fun call => (call.run limit fresh).2.streams) ∧
      all.2.deepest = (calls.filterMap (TopCall.deepest? limit fresh)).foldl max 0) ∧
    ∀ (programs : List (Except Fault Program)) (streams : Streams),
      let interpreter : Interpreter := { sink, debug, maxDepth }
      interpreter.runAll limit programs streams
        = (programs.map fun program => (interpreter.runRead limit program).1,
          streams.append
            (.concat (programs.map fun program => (interpreter.runRead limit program).2))) := by
  intro fresh
  refine ⟨fun before call => ?_, fun calls => ?_, fun programs streams => ?_⟩
  · intro here alone
    have hhere : here = fresh.onTop _ _ := runAll_new_snd before
    rw [hhere]
    refine ⟨exhausts_onTop _ _ _, fun h => run_new_onTop_fst h _ _, ?_, ?_⟩
    · have hnothing (past : Streams) (deepest : Int) :
          (fresh.onTop past deepest).streams = past := past.append_empty
      rw [run_onTop_snd, hnothing]
      rfl
    · rw [run_new_onTop_snd]
      rfl
  · intro all
    have hall : all.2 = fresh.onTop _ _ := runAll_new_snd calls
    rw [hall]
    refine ⟨runAll_new_fst, ?_, ?_⟩
    · exact Streams.append_empty _
    · exact Int.max_eq_left (le_foldl_max _ 0)
  · exact Interpreter.runAll_eq _ limit programs streams

/-- Between two runs of a program that prints a line, the body of a call fails: both runs print the
line, to the collector or with a line feed to the console, and the failed call is all that the
greatest depth tells of. -/
theorem TopCall.runs_independent_failedCall :
    let fresh := Context.new .collector false none
    let shown := Context.new .console false none
    let greet : Program := ⟨.text "greet", .print none (.string none (.ok "hi"))⟩
    let failing : Term := .call none (.function none (.ok []) (.var none (.ok (.text "y")))) []
    let calls : List TopCall :=
      [.execute (.ok greet) .empty, .evaluate failing .empty, .execute (.ok greet) .empty]
    (∀ call ∈ calls, ¬ call.Exhausts 1 fresh) ∧
      (runAll 1 calls fresh).1 = calls.map (fun call => (call.run 1 fresh).1) ∧
      (runAll 1 calls fresh).2.streams.collected = ["hi", "hi"] ∧
      (runAll 1 calls shown).2.streams.console = "hi\nhi\n" ∧
      (runAll 1 calls fresh).2.deepest = 1 := by
  intro fresh shown greet failing calls
  have hcalls : ∀ call ∈ calls, ¬ call.Exhausts 1 fresh := by
    simp only [calls, List.forall_mem_cons]
    exact ⟨nofun, nofun, nofun, nofun⟩
  obtain ⟨-, hall, -⟩ := runs_independent 1 .collector false none
  obtain ⟨hanswers, hstreams, hdeepest⟩ := hall calls
  obtain ⟨-, hstreams', -⟩ := (runs_independent 1 .console false none).2.1 calls
  refine ⟨hcalls, hanswers hcalls, ?_, ?_, ?_⟩
  · rw [hstreams]
    rfl
  · rw [hstreams']
    decide
  · rw [hdeepest]
    rfl

end Rinha
