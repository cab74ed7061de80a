import Rinha.Proofs.CallDepth

/-!
# Rinha.Proofs.Exhaustion

How deep a run goes before the machine is exhausted.  Without a limit on the call depth a run that
is exhausted has counted in one call more, inside each other, than the machine can follow
(`Term.deepest_of_exhausted`).  So the greatest depth, which is what is told of an exhausted run,
grows with the limit of the machine.
-/

namespace Rinha

open Effects

/-- A computation that is exhausted only after it has counted in so many calls inside each other. -/
def Logged.Sinks {α : Type} (calls : Nat) (action : Logged α) : Prop :=
  ∀ context, context.maxDepth = none → (action context).1 = .exhausted →
    context.depth + calls ≤ (context.after (action context).2).deepest

namespace Logged.Sinks

variable {α β : Type} {calls : Nat}

/-- The depth is the same again when the second step starts. -/
theorem bind {x : Logged α} {f : α → Logged β} (horderly : x.Orderly) (h : x.Sinks calls)
    (hf : ∀ result, (f result).Sinks calls) : Logged.Sinks calls (x >>= f) := by
  intro context hmax hexhausted
  have hx := h context hmax
  have hdepth := (horderly context).depth_after rfl
  cases hrun : x context with
  | mk outcome events =>
    rw [hrun] at hx hdepth
    cases outcome with
    | done result =>
      have hmax' : (context.after events).maxDepth = none := by
        rw [Context.maxDepth_after, hmax]
      rw [Logged.bind_done hrun] at hexhausted ⊢
      have hnext := hf result _ hmax' hexhausted
      rw [hdepth] at hnext
      rw [Context.after_append]
      exact hnext
    | failed error => rw [Logged.bind_failed hrun] at hexhausted; cases hexhausted
    | faulted fault => rw [Logged.bind_faulted hrun] at hexhausted; cases hexhausted
    | exhausted =>
      rw [Logged.bind_exhausted hrun]
      exact hx rfl

theorem stamp {x : Logged α} (location : Option Data) (h : x.Sinks calls) :
    Logged.Sinks calls (Effects.stamp location x) := by
  intro context hmax
  have hx := h context hmax
  rw [Logged.stamp_apply]
  cases hrun : x context with
  | mk outcome events =>
    rw [hrun] at hx
    cases outcome with
    | failed error =>
      intro hexhausted
      cases hexhausted
    | _ => exact hx

theorem traceWith (message : Except Fault String) :
    Logged.Sinks calls (Effects.traceWith message) := by
  intro context _ hexhausted
  obtain ⟨text, h⟩ | ⟨fault, -, h⟩ | h := Logged.traceWith_cases message context
  · rw [h] at hexhausted; cases hexhausted
  · rw [h] at hexhausted; cases hexhausted
  · rw [h] at hexhausted; cases hexhausted

/-- One call around it makes one call more. -/
theorem inCall {x : Logged α} (h : x.Sinks calls) :
    Logged.Sinks (calls + 1) (Effects.inCall x) := by
  intro context hmax hexhausted
  have hpassed := Context.passed?_unlimited hmax (context.depth + 1)
  rw [Logged.inCall_entered hpassed] at hexhausted ⊢
  have hinner := h context.enter hmax hexhausted
  have hdepth : context.enter.depth = context.depth + 1 := rfl
  have hdeepest : (context.after (.entered :: (x context.enter).2 ++ [.left])).deepest
      = (context.enter.after (x context.enter).2).deepest := by
    rw [List.cons_append, Context.after_cons, Context.after_append]
    rfl
  rw [hdeepest]
  omega

/-- A call that cannot be followed is counted in. -/
theorem inCall_exhaust : Logged.Sinks 1 (Effects.inCall (exhaust : Logged α)) := by
  intro context hmax _
  have hpassed := Context.passed?_unlimited hmax (context.depth + 1)
  rw [Logged.inCall_entered hpassed]
  exact Int.le_max_right _ _

/-- Every operation is orderly, and exhausted only as deep as its parts. -/
def simulation (calls : Nat) : Simulation Logged Logged where
  rel action _ := action.Orderly ∧ action.Sinks calls
  pure _ := ⟨fun _ => .nil, fun _ _ hexhausted => nomatch hexhausted⟩
  bind h hf := ⟨h.1.bind fun result => (hf result).1, bind h.1 h.2 fun result => (hf result).2⟩
  fail _ := ⟨fun _ => .nil, fun _ _ hexhausted => nomatch hexhausted⟩
  fault _ := ⟨fun _ => .nil, fun _ _ hexhausted => nomatch hexhausted⟩
  emit _ := ⟨fun _ => .printed .nil, fun _ _ hexhausted => nomatch hexhausted⟩
  trace _ := ⟨fun _ => .traced .nil, fun _ _ hexhausted => nomatch hexhausted⟩
  traceWith message := ⟨.traceWith message, traceWith message⟩
  stamp location h := ⟨h.1.stamp location, h.2.stamp location⟩

end Logged.Sinks

end Rinha
