import Rinha.Proofs.Everywhere
import Rinha.Proofs.Judgement
import Rinha.Proofs.Printed
import Rinha.Proofs.WellFormed

/-!
# Rinha.Proofs.Tracing

Watching a run does not change it.  A run that is traced does more than one that is not: at every
call it works out a message, which shows the function and the arguments.  Decimals being unbounded
(`Rinha.Data.Display`), all values in which the functions are well-formed can be shown
(`Value.Everywhere.display`), so nothing goes wrong there, and the logs of the two runs are the same
beside what is traced (`Term.discreet_evalIn`).

What is traced goes to the trace, which no event reads, so the contexts are the same beside the
trace (`Context.after_retraced`).  Where the printed lines go makes no difference to a run either
(`Term.eval_withSink`); `Term.run_same_when_watched` has both.
-/

namespace Rinha

open Effects

/-! ## what is not traced -/

/-- Whether an event traces a message. -/
def Event.isTraced : Event → Bool
  | .traced _ => true
  | _ => false

/-- The events beside what is traced. -/
def untraced (events : List Event) : List Event :=
  events.filter fun event => !event.isTraced

theorem untraced_append (events more : List Event) :
    untraced (events ++ more) = untraced events ++ untraced more :=
  List.filter_append _ _

theorem untraced_enclosed (events : List Event) :
    untraced (.entered :: events ++ [.left]) = .entered :: untraced events ++ [.left] := by
  simp [untraced, Event.isTraced]

namespace Context

/-- The context with another trace, which is or is not written on. -/
def retraced (context : Context) (debug : Bool) (text : String) : Context :=
  { context with debug, streams := { context.streams with trace := text } }

/-- Whether a context is traced makes a difference to its trace and to nothing else. -/
theorem after_retraced (context : Context) (debug : Bool) (text : String) (events : List Event) :
    ∃ shown, (context.retraced debug text).after events
      = (context.after (untraced events)).retraced debug shown := by
  induction events generalizing context text with
  | nil => exact ⟨text, rfl⟩
  | cons event events ih =>
    cases event with
    | printed line =>
      have hline : (context.retraced debug text).emit line
          = (context.emit line).retraced debug text := by
        simp [emit, retraced, Streams.print_trace]
      obtain ⟨shown, hshown⟩ := ih (context.emit line) text
      exact ⟨shown, by rw [after_cons, Event.apply, hline, hshown]; rfl⟩
    | traced message =>
      have htrace : ∃ more, (context.retraced debug text).trace message
          = context.retraced debug more := by
        cases debug with
        | true => exact ⟨text ++ indent context.depth ++ message ++ "\n", by simp [trace, retraced]⟩
        | false => exact ⟨text, trace_of_not_debug rfl message⟩
      obtain ⟨more, hmore⟩ := htrace
      obtain ⟨shown, hshown⟩ := ih context more
      exact ⟨shown, by rw [after_cons, Event.apply, hmore, hshown]; rfl⟩
    | entered => exact ih context.enter text
    | left => exact ih context.leave text

/-- A context that is not traced keeps its trace. -/
theorem trace_after_of_not_debug {context : Context} (h : context.debug = false)
    (events : List Event) : (context.after events).streams.trace = context.streams.trace := by
  induction events generalizing context with
  | nil => rfl
  | cons event events ih =>
    have hdebug : (event.apply context).debug = false := by
      rw [(context.settings_apply event).2.1, h]
    rw [after_cons, ih hdebug]
    cases event with
    | printed line => simp [Event.apply, emit]
    | traced message => rw [Event.apply, trace_of_not_debug h]
    | entered => rfl
    | left => rfl

/-- What is traced does not count for the depth. -/
theorem depth_after_congr {one other : Context} {events more : List Event}
    (hdepth : one.depth = other.depth) (hevents : untraced events = untraced more) :
    (one.after events).depth = (other.after more).depth := by
  have hcount (event : Event) (hevent : event.isTraced = false) :
      events.count event = more.count event := by
    have hone : (untraced events).count event = events.count event :=
      List.count_filter (by simp [hevent])
    have hother : (untraced more).count event = more.count event :=
      List.count_filter (by simp [hevent])
    rw [← hone, hevents, hother]
  rw [depth_after, depth_after, hdepth, hcount .entered rfl, hcount .left rfl]

end Context

/-! ## functions that can be shown -/

/-- A function with texts for parameters and a well-formed body. -/
structure Closure.WellFormed (closure : Closure) : Prop where
  parameters : ∃ names : List String, closure.parameters = names.map .text
  body : closure.body.WellFormed

/-- A value can be shown if the functions in it are well-formed.  It may hold values of kinds that
the language does not have. -/
theorem Value.Everywhere.display {value : Value} (h : value.Everywhere Closure.WellFormed) :
    ∃ text, value.display = .ok text := by
  refine display_of_texts fun parameters body env heq => ?_
  subst heq
  exact h.1.parameters

/-- Well-formed terms where all functions are well-formed. -/
def Judgement.showable : Judgement where
  term term env := term.WellFormed ∧ env.Everywhere Closure.WellFormed
  value := Value.Everywhere Closure.WellFormed
  cause _ := True
  fault _ := True
  bool _ := trivial
  int _ := trivial
  string _ := trivial
  part h hembeds := ⟨h.1.part hembeds, h.2⟩
  next h hvalue := by
    obtain ⟨hwhole, henv⟩ := h
    cases hwhole with
    | letIn _ hnext => exact ⟨hnext, henv.bind _ hvalue⟩
  found h hlookup := h.2.lookup? (Env.lookup_eq_ok_iff.mp hlookup)
  function h := by
    obtain ⟨hwhole, henv⟩ := h
    cases hwhole with
    | function hbody => exact ⟨⟨⟨_, rfl⟩, hbody⟩, henv⟩
  body h harguments _ hbind := ⟨h.1.body, h.2.bindAll harguments hbind⟩
  ofValues _ := trivial
  unbound _ _ := trivial
  malformed _ _ := trivial
  unbindable _ _ _ := trivial
  untold _ _ _ := trivial

/-! ## runs that are watched and runs that are not -/

/-- Two logged runs that are the same beside what is traced, and whose result, if there is one,
satisfies a condition. -/
structure Logged.SameRun {α : Type} (P : α → Prop) (one other : Outcome α × List Event) : Prop where
  outcome : one.1 = other.1
  events : untraced one.2 = untraced other.2
  result {result : α} : one.1 = .done result → P result

namespace Logged.SameRun

variable {α : Type} {P : α → Prop} {events more : List Event}

theorem done {result : α} (hresult : P result) (h : untraced events = untraced more) :
    SameRun P (.done result, events) (.done result, more) :=
  ⟨rfl, h, by rintro _ ⟨⟩; exact hresult⟩

theorem failed {error : Error} (h : untraced events = untraced more) :
    SameRun P (.failed error, events) (.failed error, more) :=
  ⟨rfl, h, by rintro _ ⟨⟩⟩

theorem faulted {fault : Fault} (h : untraced events = untraced more) :
    SameRun P (.faulted fault, events) (.faulted fault, more) :=
  ⟨rfl, h, by rintro _ ⟨⟩⟩

theorem exhausted (h : untraced events = untraced more) :
    SameRun P (.exhausted, events) (.exhausted, more) :=
  ⟨rfl, h, by rintro _ ⟨⟩⟩

end Logged.SameRun

/-- A computation that goes the same way, beside what it traces, in all contexts of the same limit
and the same depth, and whose results satisfy a condition. -/
def Logged.Discreet {α : Type} (P : α → Prop) (action : Logged α) : Prop :=
  ∀ one other : Context, one.maxDepth = other.maxDepth → one.depth = other.depth →
    SameRun P (action one) (action other)

namespace Logged.Discreet

variable {α β : Type} {P : α → Prop} {Q : β → Prop}

theorem bind {x : Logged α} {f : α → Logged β} (h : x.Discreet P)
    (hf : ∀ result, P result → (f result).Discreet Q) : Discreet Q (x >>= f) := by
  intro one other hmax hdepth
  obtain ⟨houtcome, hevents, hresult⟩ := h one other hmax hdepth
  cases hone : x one with
  | mk outcome events =>
    cases hother : x other with
    | mk outcome' events' =>
      rw [hone, hother] at houtcome hevents
      rw [hone] at hresult
      obtain rfl : outcome = outcome' := houtcome
      cases outcome with
      | done result =>
        -- What comes next begins at the same depth, since only the traces differ.
        have hmax' : (one.after events).maxDepth = (other.after events').maxDepth := by
          rw [Context.maxDepth_after, Context.maxDepth_after, hmax]
        have hrest := hf result (hresult rfl) _ _ hmax' (Context.depth_after_congr hdepth hevents)
        rw [Logged.bind_done hone, Logged.bind_done hother]
        refine ⟨hrest.outcome, ?_, hrest.result⟩
        rw [untraced_append, untraced_append, hrest.events]
        exact congrArg (· ++ _) hevents
      | failed error =>
        rw [Logged.bind_failed hone, Logged.bind_failed hother]
        exact .failed hevents
      | faulted fault =>
        rw [Logged.bind_faulted hone, Logged.bind_faulted hother]
        exact .faulted hevents
      | exhausted =>
        rw [Logged.bind_exhausted hone, Logged.bind_exhausted hother]
        exact .exhausted hevents

theorem stamp {x : Logged α} (location : Option Data) (h : x.Discreet P) :
    Discreet P (Effects.stamp location x) := by
  intro one other hmax hdepth
  obtain ⟨houtcome, hevents, hresult⟩ := h one other hmax hdepth
  rw [Logged.stamp_apply, Logged.stamp_apply]
  refine ⟨by rw [houtcome], hevents, ?_⟩
  intro result hdone
  cases hone : (x one).1 with
  | done value =>
    simp only [hone, Outcome.stamp] at hdone
    exact hresult (hone.trans hdone)
  | _ => simp [hone, Outcome.stamp] at hdone

theorem traceWith {message : Except Fault String} (h : ∃ text, message = .ok text) :
    Discreet (fun _ => True) (Effects.traceWith message) := by
  obtain ⟨text, rfl⟩ := h
  have hrun (context : Context) : ∃ events, untraced events = [] ∧
      (Effects.traceWith (.ok text) : Logged Unit) context = (.done (), events) := by
    obtain ⟨shown, hshown⟩ | ⟨fault, hfault, -⟩ | hshown :=
      Logged.traceWith_cases (.ok text) context
    · exact ⟨_, rfl, hshown⟩
    · cases hfault
    · exact ⟨_, rfl, hshown⟩
  intro one other _ _
  obtain ⟨events, hevents, hone⟩ := hrun one
  obtain ⟨events', hevents', hother⟩ := hrun other
  rw [hone, hother]
  exact .done trivial (hevents.trans hevents'.symm)

theorem inCall {x : Logged α} (h : x.Discreet P) : Discreet P (Effects.inCall x) := by
  intro one other hmax hdepth
  have hpassed : one.passed? (one.depth + 1) = other.passed? (other.depth + 1) := by
    rw [Context.passed?, Context.passed?, hmax, hdepth]
  cases hone : one.passed? (one.depth + 1) with
  | error fault =>
    rw [Logged.inCall_faulted hone, Logged.inCall_faulted (hpassed ▸ hone)]
    exact .faulted rfl
  | ok passed =>
    cases passed with
    | some limit =>
      rw [Logged.inCall_refused hone, Logged.inCall_refused (hpassed ▸ hone)]
      exact .failed rfl
    | none =>
      have henter : one.enter.depth = other.enter.depth := by simp [Context.enter, hdepth]
      obtain ⟨houtcome, hevents, hresult⟩ := h one.enter other.enter hmax henter
      rw [Logged.inCall_entered hone, Logged.inCall_entered (hpassed ▸ hone)]
      refine ⟨houtcome, ?_, hresult⟩
      rw [untraced_enclosed, untraced_enclosed, hevents]

/-- Every operation is discreet. -/
def simulation : Judgement.showable.Simulation Logged Logged where
  rel P action _ := action.Discreet P
  pure h := fun _ _ _ _ => .done h rfl
  bind := bind
  fail _ := fun _ _ _ _ => .failed rfl
  fault _ := fun _ _ _ _ => .faulted rfl
  emit _ := fun _ _ _ _ => .done trivial rfl
  trace _ := fun _ _ _ _ => .done trivial rfl
  traceCall hcallee harguments :=
    traceWith (Value.callMessage_of_display hcallee.display fun argument hmem =>
      (harguments argument hmem).display)
  stamp := stamp

end Logged.Discreet

namespace Eval

/-- A computation ends in the same way whether it is traced or not, and leaves the same context
beside the trace. -/
def TraceFree {α : Type} (run : Eval α) (context : Context) : Prop :=
  ∀ debug, (run { context with debug }).1 = (run context).1 ∧
    ∃ text, (run { context with debug }).2 = (run context).2.retraced debug text

/-- A computation ends in the same way with the console for its sink as with a collector, and leaves
the same counters and the same trace.  The console receives the lines of the collector, each ended
by a line feed, and beside that nothing is printed. -/
def SinkFree {α : Type} (run : Eval α) (context : Context) : Prop :=
  let kept := run { context with sink := .collector }
  let shown := run { context with sink := .console }
  shown.1 = kept.1 ∧ ∃ lines,
    kept.2.streams = { context.streams with
      collected := context.streams.collected ++ lines, trace := kept.2.streams.trace } ∧
    shown.2 = { kept.2 with
      sink := .console
      streams := { context.streams with
        console := context.streams.console ++ String.join (lines.map fun line => line ++ "\n")
        trace := kept.2.streams.trace } }

end Eval

namespace Term

/-- Runs of well-formed terms where all functions are well-formed do not depend on being traced. -/
theorem discreet_evalIn (limit : Nat) {term : Term} {env : Env} (hterm : term.WellFormed)
    (henv : env.Everywhere Closure.WellFormed) :
    (term.evalIn Logged limit env).Discreet (Value.Everywhere Closure.WellFormed) :=
  Logged.Discreet.simulation.evalIn Logged.Discreet.inCall
    (fun _ _ _ _ => .exhausted rfl) limit ⟨hterm, henv⟩

theorem traceFree_eval (limit : Nat) {term : Term} {env : Env} (hterm : term.WellFormed)
    (henv : env.Everywhere Closure.WellFormed) (context : Context) :
    (term.eval limit env).TraceFree context := by
  intro debug
  rw [term.eval_eq_logged, term.eval_eq_logged]
  obtain ⟨houtcome, hevents, -⟩ :=
    term.discreet_evalIn limit hterm henv { context with debug } context rfl rfl
  obtain ⟨text, htext⟩ := context.after_retraced debug context.streams.trace
    (term.evalIn Logged limit env { context with debug }).2
  obtain ⟨own, hown⟩ := context.after_retraced context.debug context.streams.trace
    (term.evalIn Logged limit env context).2
  have hsame : context.after (term.evalIn Logged limit env context).2
      = (context.after (untraced (term.evalIn Logged limit env context).2)).retraced
          context.debug own := hown
  refine ⟨houtcome, text, ?_⟩
  calc Context.after { context with debug } (term.evalIn Logged limit env { context with debug }).2
      = (context.after (untraced (term.evalIn Logged limit env context).2)).retraced debug text :=
        hevents ▸ htext
    _ = (context.after (term.evalIn Logged limit env context).2).retraced debug text := by
        rw [hsame]; rfl

theorem sinkFree_eval (limit : Nat) (term : Term) (env : Env) (context : Context) :
    (term.eval limit env).SinkFree context := by
  have hkept := term.eval_withSink limit env context .collector rfl
  have hshown := term.eval_withSink limit env context .console rfl
  rw [Streams.printAll_collector] at hkept
  rw [Streams.printAll_console] at hshown
  refine ⟨by rw [hshown, hkept], printedLines (term.evalIn Logged limit env context).2, ?_, ?_⟩
  · rw [hkept]
  · rw [hshown, hkept]

/-- How a run is watched makes no difference to it.

* The run of a well-formed term where all functions are well-formed is the same whether it is traced
  or not.
* No run that is not traced writes on the trace.
* Every run is the same with the console for its sink as with a collector. -/
theorem run_same_when_watched (limit : Nat) (term : Term) (env : Env) (context : Context) :
    ∀ run ∈ [term.eval limit env, term.evalRoot limit env],
      (term.WellFormed → env.Everywhere Closure.WellFormed → run.TraceFree context) ∧
      (context.debug = false → (run context).2.streams.trace = context.streams.trace) ∧
      run.SinkFree context := by
  have hsilent : context.debug = false →
      (term.eval limit env context).2.streams.trace = context.streams.trace := by
    intro hdebug
    rw [term.eval_eq_logged]
    exact Context.trace_after_of_not_debug hdebug _
  have hsink := term.sinkFree_eval limit env context
  intro run hrun
  obtain rfl | rfl := List.mem_pair.mp hrun
  · exact ⟨fun hterm henv => term.traceFree_eval limit hterm henv context, hsilent, hsink⟩
  · refine ⟨fun hterm henv debug => ?_, by rwa [evalRoot_snd], ?_⟩
    · obtain ⟨houtcome, text, htext⟩ := term.traceFree_eval limit hterm henv context debug
      have hdeepest := congrArg Context.deepest htext
      rw [evalRoot_snd, evalRoot_snd]
      exact ⟨evalRoot_fst_congr houtcome hdeepest, text, htext⟩
    · obtain ⟨houtcome, lines, hkept, hshown⟩ := hsink
      have hdeepest := congrArg Context.deepest hshown
      simp only [Eval.SinkFree, evalRoot_snd]
      exact ⟨evalRoot_fst_congr houtcome hdeepest, lines, hkept, hshown⟩

/-- Where `f` prints its argument and is bound beside a value that the language does not have: a run
that prints a line and calls `f`, traced and not. -/
theorem run_same_when_watched_printingCall :
    let printer : Value := .closure [.text "x"] (.print none (.var none (.ok (.text "x")))) .empty
    let array : Value := .foreign ⟨.text "Array", rfl⟩ (.list [])
    let env := (Env.empty.bind (.text "f") printer).bind (.text "z") array
    let term : Term := .letIn none (.ok (.text "y")) (.print none (.string none (.ok "a")))
      (.call none (.var none (.ok (.text "f"))) [.string none (.ok "b")])
    let context := Context.new .collector false none
    term.WellFormed ∧ env.Everywhere Closure.WellFormed ∧
      (term.evalRoot 1 env).TraceFree context ∧
      context.debug = false ∧ (term.evalRoot 1 env context).2.streams.trace = "" ∧
      (term.evalRoot 1 env context).2.streams.collected = ["a", "b"] := by
  intro printer array env term context
  have hterm : term.WellFormed := by
    refine .letIn (.print .string) (.call .var ?_)
    intro argument hmem
    obtain rfl := List.mem_singleton.mp hmem
    exact .string
  have henv : env.Everywhere Closure.WellFormed :=
    ⟨⟨⟨⟨["x"], rfl⟩, .print .var⟩, trivial⟩, trivial, trivial⟩
  obtain ⟨htraced, hsilent, -⟩ := run_same_when_watched 1 term env context _ (.tail _ (.head _))
  exact ⟨hterm, henv, htraced hterm henv, rfl, hsilent rfl, rfl⟩

end Term

end Rinha
