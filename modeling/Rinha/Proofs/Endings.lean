import Rinha.Proofs.Judgement
import Rinha.Proofs.Logged

/-!
# Rinha.Proofs.Endings

How judged runs end.  The run of a term that is judged ends in a judged value, in an error with one
of the causes of the judgement or at one of its faults (`Judgement.ends_eval`); or the machine is
exhausted, of which a judgement says nothing.

Besides the term, the context can end a run: a call is refused if it is too deep, and a limit that
is no number is a fault.  So this is about contexts whose limit the judgement allows
(`Judgement.Allows`), which no event changes.
-/

namespace Rinha

open Effects

namespace Judgement

/-- What the limit of a context can lead to is among the causes and the faults of a judgement. -/
structure Allows (J : Judgement) (context : Context) : Prop where
  refused {depth : Int} {limit : Data} :
    context.passed? depth = .ok (some limit) → J.cause (.stackExhausted limit)
  faulted {depth : Int} {fault : Fault} : context.passed? depth = .error fault → J.fault fault

theorem Allows.after {J : Judgement} {context : Context} (h : J.Allows context)
    (events : List Event) : J.Allows (context.after events) := by
  have hsame : (context.after events).passed? = context.passed? := by
    funext depth
    simp [Context.passed?]
  constructor
  · intro depth limit hpassed
    rw [hsame] at hpassed
    exact h.refused hpassed
  · intro depth fault hpassed
    rw [hsame] at hpassed
    exact h.faulted hpassed

/-- An outcome whose result, if there is one, satisfies a condition, and that is otherwise among the
ends of a judgement. -/
inductive Ends (J : Judgement) {α : Type} (P : α → Prop) : Outcome α → Prop where
  | done {result : α} : P result → Ends J P (.done result)
  | failed {error : Error} : J.cause error.cause → Ends J P (.failed error)
  | faulted {fault : Fault} : J.fault fault → Ends J P (.faulted fault)
  | exhausted : Ends J P .exhausted

theorem Ends.stamp {J : Judgement} {α : Type} {P : α → Prop} {outcome : Outcome α}
    (h : J.Ends P outcome) (location : Option Data) : J.Ends P (outcome.stamp location) := by
  cases h with
  | done hresult => exact .done hresult
  | failed hcause => exact .failed hcause
  | faulted hfault => exact .faulted hfault
  | exhausted => exact .exhausted

/-- A computation that ends so in all contexts that the judgement allows. -/
def EndsBy (J : Judgement) {α : Type} (P : α → Prop) (action : Logged α) : Prop :=
  ∀ context, J.Allows context → J.Ends P (action context).1

namespace EndsBy

variable {J : Judgement} {α β : Type} {P : α → Prop} {Q : β → Prop}

theorem bind {x : Logged α} {f : α → Logged β} (h : J.EndsBy P x)
    (hf : ∀ result, P result → J.EndsBy Q (f result)) : J.EndsBy Q (x >>= f) := by
  intro context hallows
  have hx := h context hallows
  cases hrun : x context with
  | mk outcome events =>
    rw [hrun] at hx
    cases hx with
    | done hresult =>
      rw [Logged.bind_done hrun]
      exact hf _ hresult _ (hallows.after events)
    | failed hcause => rw [Logged.bind_failed hrun]; exact .failed hcause
    | faulted hfault => rw [Logged.bind_faulted hrun]; exact .faulted hfault
    | exhausted => rw [Logged.bind_exhausted hrun]; exact .exhausted

theorem inCall {x : Logged α} (h : J.EndsBy P x) : J.EndsBy P (Effects.inCall x) := by
  intro context hallows
  cases hpassed : context.passed? (context.depth + 1) with
  | error fault => rw [Logged.inCall_faulted hpassed]; exact .faulted (hallows.faulted hpassed)
  | ok passed =>
    cases passed with
    | some limit => rw [Logged.inCall_refused hpassed]; exact .failed (hallows.refused hpassed)
    | none => rw [Logged.inCall_entered hpassed]; exact h _ (hallows.after [.entered])

theorem traceWith {message : Except Fault String}
    (h : ∀ fault, message = .error fault → J.fault fault) :
    J.EndsBy (fun _ => True) (Effects.traceWith message) := by
  intro context _
  obtain ⟨text, htold⟩ | ⟨fault, hfault, htold⟩ | htold := Logged.traceWith_cases message context
  · rw [htold]; exact .done trivial
  · rw [htold]; exact .faulted (h fault hfault)
  · rw [htold]; exact .done trivial

/-- Every operation ends by the judgement. -/
def simulation : J.Simulation Logged Logged where
  rel P action _ := J.EndsBy P action
  pure h := fun _ _ => .done h
  bind := bind
  fail h := fun _ _ => .failed h
  fault h := fun _ _ => .faulted h
  emit _ := fun _ _ => .done trivial
  trace _ := fun _ _ => .done trivial
  traceCall hcallee harguments := traceWith fun _ => J.untold hcallee harguments
  stamp location h := fun context hallows => by
    rw [Logged.stamp_apply]
    exact (h context hallows).stamp location

end EndsBy

/-- The run of a judged term ends by the judgement. -/
theorem ends_evalIn (J : Judgement) (limit : Nat) {term : Term} {env : Env}
    (hterm : J.term term env) : J.EndsBy J.value (term.evalIn Logged limit env) :=
  EndsBy.simulation.evalIn EndsBy.inCall (fun _ _ => .exhausted) limit hterm

theorem ends_eval (J : Judgement) (limit : Nat) {term : Term} {env : Env}
    (hterm : J.term term env) {context : Context} (hallows : J.Allows context) :
    J.Ends J.value (term.eval limit env context).1 := by
  rw [term.eval_eq_logged]
  exact J.ends_evalIn limit hterm context hallows

theorem ends_evalRoot (J : Judgement) (hexhausted : ∀ deepest, J.cause (.hostExhausted deepest))
    (limit : Nat) {term : Term} {env : Env} (hterm : J.term term env) {context : Context}
    (hallows : J.Allows context) : J.Ends J.value (term.evalRoot limit env context).1 := by
  have hends := J.ends_eval limit hterm hallows
  by_cases hrun : (term.eval limit env context).1 = .exhausted
  · rw [Term.evalRoot_of_exhausted (Prod.ext hrun rfl)]
    exact .failed (hexhausted _)
  · rwa [Term.evalRoot_of_ne_exhausted hrun]

end Judgement

end Rinha
