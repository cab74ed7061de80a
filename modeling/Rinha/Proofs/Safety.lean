import Rinha.Proofs.Endings
import Rinha.Proofs.WellFormed

/-!
# Rinha.Proofs.Safety

Well-formed programs meet no fault.  A computation is safe for a condition on results if it never
ends at a malformed place and every result that it gives satisfies the condition
(`Logged.Safe`).  That terms, environments and values are well-formed is a judgement without faults
(`Judgement.wellFormed`), and so

* `Term.safe_evalIn` — the run of a well-formed term in a well-formed environment is safe for
  well-formed values.

The limit on the call depth is data as well, and a limit that is no number is a fault of its own; so
all this is about contexts in which calls can be counted (`Context.Countable`).  That traced calls
can be told rests on unbounded decimals (`Rinha.Data.Display`).
-/

namespace Rinha

open Effects

/-! ## safe computations -/

/-- The limit on the call depth, if there is one, is a number. -/
def Context.Countable (context : Context) : Prop :=
  ∀ depth, ∃ passed, context.passed? depth = .ok passed

theorem Context.countable_iff {context : Context} :
    context.Countable ↔ ∀ bound ∈ context.maxDepth, ∃ n, bound.toNumber = .ok n := by
  unfold Countable passed?
  cases context.maxDepth with
  | none => simp
  | some bound =>
    simp only [Option.mem_some_iff, forall_eq']
    cases bound.toNumber <;> simp [bind, Except.bind, pure, Except.pure]

/-- An outcome that is no fault, and whose result satisfies a condition if there is one. -/
inductive Outcome.Meets {α : Type} (P : α → Prop) : Outcome α → Prop where
  | done {result : α} : P result → Meets P (.done result)
  | failed {error : Error} : Meets P (.failed error)
  | exhausted : Meets P .exhausted

/-- A computation that meets no fault, and whose results satisfy a condition. -/
def Logged.Safe {α : Type} (P : α → Prop) (action : Logged α) : Prop :=
  ∀ context, context.Countable → (action context).1.Meets P

/-! ## runs of well-formed terms -/

/-- Well-formed terms in well-formed environments, and no faults. -/
def Judgement.wellFormed : Judgement where
  term term env := term.WellFormed ∧ env.WellFormed
  value := Value.WellFormed
  cause _ := True
  fault _ := False
  bool _ := .bool
  int _ := .int
  string _ := .string
  part h hembeds := ⟨h.1.part hembeds, h.2⟩
  next h hvalue := by
    obtain ⟨hwhole, henv⟩ := h
    cases hwhole with
    | letIn _ hnext => exact ⟨hnext, henv.bind hvalue⟩
  found h hlookup := h.2.lookup? (Env.lookup_eq_ok_iff.mp hlookup)
  function h := by
    obtain ⟨hwhole, henv⟩ := h
    cases hwhole with
    | function hbody => exact .closure hbody henv
  body h harguments _ hbind := by
    cases h with
    | closure hbody hcaptured =>
      obtain ⟨env, henv, hwell⟩ := hcaptured.bindAll _ harguments
      rw [henv] at hbind
      cases hbind
      exact ⟨hbody, hwell⟩
  ofValues _ := trivial
  unbound _ _ := trivial
  malformed h hmalformed := h.1.not_malformed hmalformed
  unbindable h harguments hbind := by
    cases h with
    | closure _ hcaptured =>
      obtain ⟨env, henv, -⟩ := hcaptured.bindAll _ harguments
      rw [henv] at hbind
      cases hbind
  untold hcallee harguments hmessage := by
    obtain ⟨message, htold⟩ := hcallee.callMessage harguments
    rw [htold] at hmessage
    cases hmessage

/-- A limit that is a number refuses calls, and meets no fault. -/
theorem Context.Countable.allows {context : Context} (h : context.Countable) :
    Judgement.wellFormed.Allows context := by
  constructor
  · intro depth limit _
    trivial
  · intro depth fault hfault
    obtain ⟨passed, hpassed⟩ := h depth
    rw [hpassed] at hfault
    cases hfault

theorem Judgement.Ends.meets {α : Type} {P : α → Prop} {outcome : Outcome α}
    (h : Judgement.wellFormed.Ends P outcome) : outcome.Meets P := by
  cases h with
  | done hresult => exact .done hresult
  | failed _ => exact .failed
  | faulted hfault => exact hfault.elim
  | exhausted => exact .exhausted

/-- The run of a well-formed term in a well-formed environment meets no fault, and its value is
well-formed. -/
theorem Term.safe_evalIn (limit : Nat) {term : Term} (hterm : term.WellFormed) {env : Env}
    (henv : env.WellFormed) : (term.evalIn Logged limit env).Safe Value.WellFormed := by
  intro context hcountable
  have hends := Judgement.wellFormed.ends_evalIn limit ⟨hterm, henv⟩ context hcountable.allows
  exact hends.meets

end Rinha
