import Rinha.Eval.Basic
import Mathlib.Data.List.Forall2

/-!
# Rinha.Proofs.Related

Two runs side by side.  Two computations are related by a relation on results and one on errors if,
started in the same context, they leave the same context behind and end in the same way: with
related results, with related errors, in the same fault, or both exhausted (`Eval.Related`).  The
operations of the evaluator keep that, each by one lemma, so that a statement about two runs of
related programs is shown by following the program.

Of a function value only a call takes more than its parameters, and only a rendering takes those.
So a rendering is the same for two functions with the same parameters (`Value.Alike`), and all else
that is done with values is the same for any two functions (`Value.Akin`).
-/

namespace Rinha

open Effects

/-! ## related outcomes -/

/-- Two answers that are both results and related, or both errors and related. -/
inductive ExceptRel {ε ε' α β : Type} (E : ε → ε' → Prop) (V : α → β → Prop) :
    Except ε α → Except ε' β → Prop where
  | ok {a : α} {b : β} : V a b → ExceptRel E V (.ok a) (.ok b)
  | error {e : ε} {e' : ε'} : E e e' → ExceptRel E V (.error e) (.error e')

theorem ExceptRel.mono {ε ε' α β : Type} {E F : ε → ε' → Prop} {V : α → β → Prop}
    {x : Except ε α} {y : Except ε' β} (h : ExceptRel E V x y) (hEF : ∀ e e', E e e' → F e e') :
    ExceptRel F V x y := by
  cases h with
  | ok hab => exact .ok hab
  | error he => exact .error (hEF _ _ he)

theorem ExceptRel.map_right {ε α β : Type} (f : α → β) (x : Except ε α) :
    ExceptRel Eq (fun a b => f a = b) x (f <$> x) := by
  cases x with
  | ok a => exact .ok rfl
  | error e => exact .error rfl

/-- Variables are looked up with related results if they are bound to related values or unbound. -/
theorem ExceptRel.lookup {E : Cause → Cause → Prop} {V : Value → Value → Prop} {env env' : Env}
    {name name' : Name} (h : Option.Rel V (env.lookup? name) (env'.lookup? name'))
    (hunbound : E (.unboundVariable (.scalar name)) (.unboundVariable (.scalar name'))) :
    ExceptRel E V (env.lookup name) (env'.lookup name') := by
  unfold Env.lookup
  generalize env.lookup? name = found at h ⊢
  generalize env'.lookup? name' = found' at h ⊢
  cases h with
  | some hvalue => exact .ok hvalue
  | none => exact .error hunbound

/-- Two outcomes of the same sort, with related results or related errors. -/
inductive Outcome.Rel {α β : Type} (E : Error → Error → Prop) (V : α → β → Prop) :
    Outcome α → Outcome β → Prop where
  | done {a : α} {b : β} : V a b → Rel E V (.done a) (.done b)
  | failed {e e' : Error} : E e e' → Rel E V (.failed e) (.failed e')
  | faulted {fault : Fault} : Rel E V (.faulted fault) (.faulted fault)
  | exhausted : Rel E V .exhausted .exhausted

/-- Two computations that do the same in every context and end in related outcomes. -/
def Eval.Related {α β : Type} (E : Error → Error → Prop) (V : α → β → Prop) (x : Eval α)
    (y : Eval β) : Prop :=
  ∀ context, Outcome.Rel E V (x context).1 (y context).1 ∧ (x context).2 = (y context).2

/-- Two computations that are each related to a third one. -/
theorem Eval.Related.join {α β γ : Type} {E E' F : Error → Error → Prop} {V : α → γ → Prop}
    {V' : β → γ → Prop} {W : α → β → Prop} {x : Eval α} {y : Eval β} {z : Eval γ}
    (h : Related E V x z) (h' : Related E' V' y z) (hF : ∀ e e' d, E e d → E' e' d → F e e')
    (hW : ∀ a b c, V a c → V' b c → W a b) : Related F W x y := by
  intro context
  obtain ⟨houtcome, hafter⟩ := h context
  obtain ⟨houtcome', hafter'⟩ := h' context
  refine ⟨?_, hafter.trans hafter'.symm⟩
  generalize (x context).1 = one at houtcome ⊢
  generalize (y context).1 = other at houtcome' ⊢
  generalize (z context).1 = third at houtcome houtcome'
  cases houtcome with
  | done ha => cases houtcome' with | done hb => exact .done (hW _ _ _ ha hb)
  | failed he => cases houtcome' with | failed he' => exact .failed (hF _ _ _ he he')
  | faulted => cases houtcome' with | faulted => exact .faulted
  | exhausted => cases houtcome' with | exhausted => exact .exhausted

/-! ## operations -/

namespace Eval.Related

variable {E : Error → Error → Prop} {α β γ δ : Type} {V : α → β → Prop} {W : γ → δ → Prop}

theorem pure {a : α} {b : β} (h : V a b) : Related E V (Pure.pure a) (Pure.pure b) :=
  fun _ => ⟨.done h, rfl⟩

theorem fail {cause cause' : Cause} (h : E { cause } { cause := cause' }) :
    Related E V (Effects.fail cause) (Effects.fail cause') :=
  fun _ => ⟨.failed h, rfl⟩

theorem fault (cause : Fault) : Related E V (Effects.fault cause) (Effects.fault cause) :=
  fun _ => ⟨.faulted, rfl⟩

theorem exhaust : Related E V Effects.exhaust Effects.exhaust :=
  fun _ => ⟨.exhausted, rfl⟩

theorem bind {x : Eval α} {y : Eval β} {f : α → Eval γ} {g : β → Eval δ} (h : Related E V x y)
    (hfg : ∀ a b, V a b → Related E W (f a) (g b)) : Related E W (x >>= f) (y >>= g) := by
  intro context
  obtain ⟨houtcome, hafter⟩ := h context
  cases hx : x context with
  | mk outcome after =>
    cases hy : y context with
    | mk outcome' after' =>
      rw [hx, hy] at houtcome hafter
      dsimp only at houtcome hafter
      subst hafter
      cases houtcome with
      | done hab =>
        rw [Eval.bind_done hx, Eval.bind_done hy]
        exact hfg _ _ hab after
      | failed he =>
        rw [Eval.bind_failed hx, Eval.bind_failed hy]
        exact ⟨.failed he, rfl⟩
      | faulted =>
        rw [Eval.bind_faulted hx, Eval.bind_faulted hy]
        exact ⟨.faulted, rfl⟩
      | exhausted =>
        rw [Eval.bind_exhausted hx, Eval.bind_exhausted hy]
        exact ⟨.exhausted, rfl⟩

theorem orFail {x : Except Cause α} {y : Except Cause β}
    (h : ExceptRel (fun cause cause' => E { cause } { cause := cause' }) V x y) :
    Related E V (Effects.orFail x) (Effects.orFail y) := by
  cases h with
  | ok hab => exact pure hab
  | error he => exact fail he

theorem orFault {x : Except Fault α} {y : Except Fault β} (h : ExceptRel Eq V x y) :
    Related E V (Effects.orFault x) (Effects.orFault y) := by
  cases h with
  | ok hab => exact pure hab
  | error he => rw [he]; exact fault _

theorem emit (line : String) : Related E Eq (Effects.emit line) (Effects.emit line) :=
  fun _ => ⟨.done rfl, rfl⟩

theorem traceWith (message : Except Fault String) :
    Related E Eq (Effects.traceWith message) (Effects.traceWith message) := by
  intro context
  show Outcome.Rel E Eq (Eval.traceWith message context).1 (Eval.traceWith message context).1 ∧ _
  refine ⟨?_, rfl⟩
  unfold Eval.traceWith
  split
  · cases message with
    | ok message => exact .done rfl
    | error cause => exact .faulted
  · exact .done rfl

theorem stamp {x : Eval α} {y : Eval β} {location location' : Option Data}
    (hE : ∀ e e', E e e' → E (e.stamp location) (e'.stamp location')) (h : Related E V x y) :
    Related E V (Effects.stamp location x) (Effects.stamp location' y) := by
  intro context
  obtain ⟨houtcome, hafter⟩ := h context
  show Outcome.Rel E V (Eval.stamp location x context).1 (Eval.stamp location' y context).1 ∧
    (Eval.stamp location x context).2 = (Eval.stamp location' y context).2
  rw [Eval.stamp, Eval.stamp]
  cases hx : x context with
  | mk outcome after =>
    cases hy : y context with
    | mk outcome' after' =>
      rw [hx, hy] at houtcome hafter
      cases houtcome with
      | done hab => exact ⟨.done hab, hafter⟩
      | failed he => exact ⟨.failed (hE _ _ he), hafter⟩
      | faulted => exact ⟨.faulted, hafter⟩
      | exhausted => exact ⟨.exhausted, hafter⟩

theorem inCall {x : Eval α} {y : Eval β}
    (hE : ∀ limit, E ⟨.stackExhausted limit, none⟩ ⟨.stackExhausted limit, none⟩)
    (h : Related E V x y) : Related E V (Effects.inCall x) (Effects.inCall y) := by
  have henter : Related E Eq Eval.enter Eval.enter := by
    intro context
    refine ⟨?_, rfl⟩
    unfold Eval.enter
    split
    · exact .faulted
    · exact .failed (hE _)
    · exact .done rfl
  refine bind henter fun _ _ _ context => ?_
  obtain ⟨houtcome, hafter⟩ := h context
  exact ⟨houtcome, congrArg Context.leave hafter⟩

theorem node {x : Eval α} {y : Eval β} (kind : String) {location location' : Location}
    (hE : ∀ e e', E e e' → E (e.stamp location) (e'.stamp location')) (h : Related E V x y) :
    Related E V (Effects.node kind location x) (Effects.node kind location' y) :=
  bind (V := Eq) (fun _ => ⟨.done rfl, rfl⟩) fun _ _ _ => h.stamp hE

end Eval.Related

/-! ## what is done with values -/

/-- Two values that at most a call or a rendering tells apart: they are the same, or both are
functions. -/
inductive Value.Akin : Value → Value → Prop where
  | refl (value : Value) : Akin value value
  | closure {parameters parameters' : List Data} {body body' : Term} {env env' : Env} :
    Akin (.closure parameters body env) (.closure parameters' body' env')

namespace Value.Akin

variable {value value' : Value}

theorem toBool_eq (h : value.Akin value') (context : Data) :
    value.toBool context = value'.toBool context := by
  cases h <;> rfl

theorem toInt_eq (h : value.Akin value') (context : Data) :
    value.toInt context = value'.toInt context := by
  cases h <;> rfl

theorem toText_eq (h : value.Akin value') (context : Data) :
    value.toText context = value'.toText context := by
  cases h <;> rfl

theorem equal_eq {other other' : Value} (h : value.Akin value') (hother : other.Akin other') :
    value.equal other = value'.equal other' := by
  cases h with
  | closure => cases hother <;> rfl
  | refl =>
    cases hother with
    | refl => rfl
    | closure => cases value <;> rfl

/-- Operators do the same with values that are akin. -/
theorem apply_eq {other other' : Value} (h : value.Akin value') (hother : other.Akin other')
    (op : BinaryOp) : op.apply value other = op.apply value' other' := by
  cases op with
  | eq | neq => simp only [BinaryOp.apply, h.equal_eq hother]
  | div | rem => simp only [BinaryOp.apply, Operation.divide, h.toInt_eq, hother.toInt_eq]
  | concat =>
    simp only [BinaryOp.apply, Operation.textual, Operation.lift, h.toText_eq, hother.toText_eq]
  | and | or =>
    simp only [BinaryOp.apply, Operation.logical, Operation.lift, h.toBool_eq, hother.toBool_eq]
  | _ =>
    simp only [BinaryOp.apply, Operation.arithmetic, Operation.comparison, Operation.lift,
      h.toInt_eq, hother.toInt_eq]

end Value.Akin

/-- Two values that at most a call tells apart: they are the same, or functions with the same
parameters. -/
inductive Value.Alike : Value → Value → Prop where
  | refl (value : Value) : Alike value value
  | closure {parameters : List Data} {body body' : Term} {env env' : Env} :
    Alike (.closure parameters body env) (.closure parameters body' env')

namespace Value.Alike

variable {value value' : Value}

theorem akin (h : value.Alike value') : value.Akin value' := by
  cases h with
  | refl => exact .refl value
  | closure => exact .closure

theorem display_eq (h : value.Alike value') : value.display = value'.display := by
  cases h <;> rfl

end Value.Alike

/-- Calls of values that are alike, with arguments that are alike, are told in the same words. -/
theorem callMessage_eq {callee callee' : Value} {arguments arguments' : List Value}
    (hcallee : callee.Alike callee') (h : List.Forall₂ Value.Alike arguments arguments') :
    callMessage callee arguments = callMessage callee' arguments' := by
  have hshown : arguments.mapM Value.display = arguments'.mapM Value.display := by
    induction h with
    | nil => rfl
    | cons hvalue _ ih => rw [List.mapM_cons, List.mapM_cons, hvalue.display_eq, ih]
  rw [callMessage, callMessage, hcallee.display_eq, hshown]

/-! ## terms -/

namespace Eval.Related

variable {E : Error → Error → Prop} {V : Value → Value → Prop}

/-- Printing values that are alike. -/
theorem printValue (hE : ∀ cause, E { cause } { cause }) {value value' : Value}
    (halike : value.Alike value') (h : V value value') :
    Related E V (Effects.printValue value) (Effects.printValue value') := by
  unfold Effects.printValue
  rw [← halike.akin.toText_eq]
  cases value.toText (.text "print") with
  | error cause => exact fail (hE cause)
  | ok line =>
    rw [orFail_ok, pure_bind, pure_bind]
    exact bind (emit line) fun _ _ _ => pure h

theorem evalAllWith {invoke invoke' : Term → Env → Eval Value} {terms terms' : List Term}
    {env env' : Env}
    (h : List.Forall₂ (fun term term' =>
      Related E V (term.evalWith invoke env) (term'.evalWith invoke' env')) terms terms') :
    Related E (List.Forall₂ V) (Term.evalAllWith invoke terms env)
      (Term.evalAllWith invoke' terms' env') := by
  induction h with
  | nil => exact pure .nil
  | cons hterm _ ih =>
    exact bind hterm fun _ _ hvalue => bind ih fun _ _ hvalues => pure (.cons hvalue hvalues)

/-- How two runs end at the root is related if it is so elsewhere and both leave the same context
behind, so that they are exhausted at the same depth. -/
theorem evalRoot_fst {limit : Nat} {term term' : Term} {env env' : Env} {context : Context}
    (hE : ∀ deepest, E ⟨.hostExhausted deepest, term.location⟩
      ⟨.hostExhausted deepest, term'.location⟩)
    (houtcome : Outcome.Rel E V (term.eval limit env context).1 (term'.eval limit env' context).1)
    (hafter : (term.eval limit env context).2 = (term'.eval limit env' context).2) :
    Outcome.Rel E V (term.evalRoot limit env context).1
      (term'.evalRoot limit env' context).1 := by
  unfold Term.evalRoot
  cases hx : term.eval limit env context with
  | mk outcome after =>
    cases hy : term'.eval limit env' context with
    | mk outcome' after' =>
      rw [hx, hy] at houtcome hafter
      dsimp only at hafter
      subst hafter
      cases houtcome with
      | done hvalue => exact .done hvalue
      | failed he => exact .failed he
      | faulted => exact .faulted
      | exhausted => exact .failed (hE _)

/-- Related runs are still related at the root. -/
theorem evalRoot {limit : Nat} {term term' : Term} {env env' : Env}
    (hE : ∀ deepest, E ⟨.hostExhausted deepest, term.location⟩
      ⟨.hostExhausted deepest, term'.location⟩)
    (h : Related E V (term.eval limit env) (term'.eval limit env')) :
    Related E V (term.evalRoot limit env) (term'.evalRoot limit env') := by
  intro context
  obtain ⟨houtcome, hafter⟩ := h context
  exact ⟨evalRoot_fst hE houtcome hafter, by rw [Term.evalRoot_snd, Term.evalRoot_snd, hafter]⟩

end Eval.Related

end Rinha
