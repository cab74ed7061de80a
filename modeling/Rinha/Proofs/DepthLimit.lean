import Rinha.Proofs.Printed

/-!
# Rinha.Proofs.DepthLimit

What a limit on the call depth does to a run.  It is a threshold and nothing else: either no call of
the unlimited run is counted in beyond the limit, and then the limited run is the same run; or one
is, and then the limited run ends in the error of the limit and has printed no more than a beginning
of what the unlimited run prints (`Logged.Thresholded`).  No supposition is made on how the
unlimited run ends.
-/

namespace Rinha

open Effects

namespace Context

/-- The context with no limit on the call depth. -/
def unlimited (context : Context) : Context :=
  { context with maxDepth := none }

/-- The context with a limit on the call depth. -/
def limitedTo (context : Context) (bound : Int) : Context :=
  { context with maxDepth := some (.int bound) }

theorem limitedTo_after (context : Context) (bound : Int) (events : List Event) :
    (context.limitedTo bound).after events = (context.after events).limitedTo bound := by
  induction events generalizing context with
  | nil => rfl
  | cons event events ih =>
    have happly : event.apply (context.limitedTo bound)
        = (event.apply context).limitedTo bound := by
      cases event with
      | printed line => rfl
      | traced message =>
        cases hdebug : context.debug <;> simp [Event.apply, trace, limitedTo, hdebug]
      | entered => rfl
      | left => rfl
    rw [after_cons, after_cons, happly, ih]

end Context

/-! ## the threshold -/

/-- A run stays within a bound, and is the same under it. -/
structure Logged.Within {α : Type} (action : Logged α) (context : Context) (bound : Int) :
    Prop where
  depths_le : ∀ depth ∈ callDepths context.depth (action context).2, depth ≤ bound
  same : action (context.limitedTo bound) = action context

/-- A run passes a bound, and is cut off under it. -/
structure Logged.Beyond {α : Type} (action : Logged α) (context : Context) (bound : Int) :
    Prop where
  exists_lt : ∃ depth ∈ callDepths context.depth (action context).2, bound < depth
  refused : ∃ location,
    (action (context.limitedTo bound)).1 = .failed ⟨.stackExhausted (.int bound), location⟩
  printed : printedLines (action (context.limitedTo bound)).2
    <+: printedLines (action context).2

/-- An orderly computation for which every bound is a threshold. -/
structure Logged.Thresholded {α : Type} (action : Logged α) : Prop where
  orderly : action.Orderly
  threshold (context : Context) (bound : Int) :
    context.maxDepth = none → action.Within context bound ∨ action.Beyond context bound

namespace Logged

variable {α β : Type} {x : Logged α} {f : α → Logged β} {context : Context} {bound : Int}

/-- Going on after a cut: under the bound there is nothing to go on with. -/
theorem Beyond.bind (h : x.Beyond context bound) : Logged.Beyond (x >>= f) context bound := by
  obtain ⟨⟨depth, hmem, hlt⟩, ⟨location, hrefused⟩, hprinted⟩ := h
  have hpast := Logged.prefix_bind x f context
  cases hcut : x (context.limitedTo bound) with
  | mk outcome events =>
    rw [hcut] at hrefused hprinted
    subst hrefused
    have hcutnext := bind_failed hcut f
    refine ⟨⟨depth, (callDepths_mono hpast _).subset hmem, hlt⟩, ⟨location, ?_⟩, ?_⟩
    · rw [hcutnext]
    · rw [hcutnext]
      exact hprinted.trans (hpast.filterMap _)

/-- Going on after a part that stays within the bound: what comes next decides. -/
theorem Within.bind (h : x.Within context bound) (hnested : x.Orderly) {result : α}
    {events : List Event} (hrun : x context = (.done result, events))
    (hnext : (f result).Within (context.after events) bound ∨
      (f result).Beyond (context.after events) bound) :
    Logged.Within (x >>= f) context bound ∨ Logged.Beyond (x >>= f) context bound := by
  have hevents := hnested context
  obtain ⟨hle, hsame⟩ := h
  rw [hrun] at hevents hle hsame
  have hdepth : (context.after events).depth = context.depth := hevents.depth_after rfl
  have hlimited := Context.limitedTo_after context bound events
  obtain ⟨hlenext, hsamenext⟩ | ⟨⟨depth, hmem, hlt⟩, ⟨location, hrefused⟩, hprinted⟩ := hnext
  · refine Or.inl ⟨?_, ?_⟩
    · rw [bind_done hrun, hevents.callDepths_append, List.forall_mem_append]
      rw [hdepth] at hlenext
      exact ⟨hle, hlenext⟩
    · rw [bind_done hrun, bind_done hsame, hlimited, hsamenext]
  · refine Or.inr ⟨⟨depth, ?_, hlt⟩, ⟨location, ?_⟩, ?_⟩
    · rw [bind_done hrun, hevents.callDepths_append]
      rw [hdepth] at hmem
      exact List.mem_append_right _ hmem
    · rw [bind_done hsame, hlimited]
      exact hrefused
    · rw [bind_done hsame, bind_done hrun, hlimited, printedLines_append, printedLines_append]
      exact (List.prefix_append_right_inj _).mpr hprinted

namespace Thresholded

theorem bind (h : x.Thresholded) (hf : ∀ result, (f result).Thresholded) :
    Logged.Thresholded (x >>= f) := by
  refine ⟨h.orderly.bind fun result => (hf result).orderly, fun context bound hmax => ?_⟩
  obtain hx | hx := h.threshold context bound hmax
  · have hle := hx.depths_le
    have hsame := hx.same
    cases hrun : x context with
    | mk outcome events =>
      rw [hrun] at hle hsame
      cases outcome with
      | done result =>
        have hmaxafter : (context.after events).maxDepth = none := by
          rw [Context.maxDepth_after, hmax]
        exact hx.bind h.orderly hrun ((hf result).threshold _ bound hmaxafter)
      | failed error =>
        exact Or.inl ⟨by rwa [bind_failed hrun], by rw [bind_failed hrun, bind_failed hsame]⟩
      | faulted fault =>
        exact Or.inl ⟨by rwa [bind_faulted hrun],
          by rw [bind_faulted hrun, bind_faulted hsame]⟩
      | exhausted =>
        exact Or.inl ⟨by rwa [bind_exhausted hrun],
          by rw [bind_exhausted hrun, bind_exhausted hsame]⟩
  · exact Or.inr hx.bind

theorem stamp (location : Option Data) (h : x.Thresholded) :
    Logged.Thresholded (Effects.stamp location x) := by
  refine ⟨h.orderly.stamp location, fun context bound hmax => ?_⟩
  obtain hx | hx := h.threshold context bound hmax
  · refine Or.inl ⟨?_, ?_⟩
    · rw [stamp_apply]
      exact hx.depths_le
    · rw [stamp_apply, stamp_apply, hx.same]
  · obtain ⟨hlt, ⟨place, hrefused⟩, hprinted⟩ := hx
    refine Or.inr ⟨?_, ⟨place.or location, ?_⟩, ?_⟩
    · rw [stamp_apply]
      exact hlt
    · rw [stamp_apply, hrefused]
      rfl
    · rw [stamp_apply, stamp_apply]
      exact hprinted

theorem inCall (h : x.Thresholded) : Logged.Thresholded (Effects.inCall x) := by
  refine ⟨h.orderly.inCall, fun context bound hmax => ?_⟩
  have hunlimited := Context.passed?_unlimited hmax (context.depth + 1)
  have hlimited : (context.limitedTo bound).passed? ((context.limitedTo bound).depth + 1)
      = .ok (if bound < context.depth + 1 then some (.int bound) else none) :=
    Context.passed?_int rfl _
  by_cases hlt : bound < context.depth + 1
  · rw [if_pos hlt] at hlimited
    refine Or.inr ⟨⟨context.depth + 1, ?_, hlt⟩, ⟨none, ?_⟩, ?_⟩
    · rw [inCall_entered hunlimited]
      exact List.mem_cons_self
    · rw [inCall_refused hlimited]
    · rw [inCall_refused hlimited]
      exact List.nil_prefix
  · rw [if_neg hlt] at hlimited
    have henter : (context.limitedTo bound).enter = context.enter.limitedTo bound := rfl
    have hdepths := (h.orderly context.enter).callDepths_enclosed
    obtain hx | hx := h.threshold context.enter bound hmax
    · refine Or.inl ⟨?_, ?_⟩
      · rw [inCall_entered hunlimited, hdepths, List.forall_mem_cons]
        exact ⟨by omega, hx.depths_le⟩
      · rw [inCall_entered hlimited, inCall_entered hunlimited, henter, hx.same]
    · obtain ⟨⟨depth, hmem, hlt⟩, ⟨location, hrefused⟩, hprinted⟩ := hx
      refine Or.inr ⟨⟨depth, ?_, hlt⟩, ⟨location, ?_⟩, ?_⟩
      · rw [inCall_entered hunlimited, hdepths]
        exact List.mem_cons_of_mem _ hmem
      · rw [inCall_entered hlimited, henter, hrefused]
      · rw [inCall_entered hlimited, inCall_entered hunlimited, henter, printedLines_enclosed,
          printedLines_enclosed]
        exact hprinted

/-- A run that counts no call in beyond the bound stays within it. -/
theorem within_of_le (h : x.Thresholded) (hmax : context.maxDepth = none)
    (hle : ∀ depth ∈ callDepths context.depth (x context).2, depth ≤ bound) :
    x.Within context bound := by
  obtain hx | hx := h.threshold context bound hmax
  · exact hx
  · obtain ⟨depth, hmem, hlt⟩ := hx.exists_lt
    have hdepth := hle depth hmem
    omega

/-- A run that counts a call in beyond the bound passes it. -/
theorem beyond_of_lt (h : x.Thresholded) (hmax : context.maxDepth = none)
    (hlt : ∃ depth ∈ callDepths context.depth (x context).2, bound < depth) :
    x.Beyond context bound := by
  obtain hx | hx := h.threshold context bound hmax
  · obtain ⟨depth, hmem, hlt⟩ := hlt
    have hdepth := hx.depths_le depth hmem
    omega
  · exact hx

/-- A computation that does the same under every limit and counts no calls in. -/
theorem of_same (horderly : x.Orderly)
    (hsame : ∀ context bound, x (Context.limitedTo context bound) = x context)
    (hdepths : ∀ context, callDepths context.depth (x context).2 = []) : x.Thresholded := by
  refine ⟨horderly, fun context bound _ => Or.inl ⟨?_, hsame context bound⟩⟩
  rw [hdepths]
  exact List.forall_mem_nil _

theorem traceWith (message : Except Fault String) :
    Logged.Thresholded (Effects.traceWith message) := by
  refine of_same (Orderly.traceWith message) (fun _ _ => rfl) fun context => ?_
  obtain ⟨text, h⟩ | ⟨fault, -, h⟩ | h := traceWith_cases message context
  · rw [h]; rfl
  · rw [h]; rfl
  · rw [h]; rfl

/-- Every operation is thresholded. -/
def simulation : Simulation Logged Logged where
  rel action _ := action.Thresholded
  pure _ := of_same (Orderly.simulation.pure _) (fun _ _ => rfl) fun _ => rfl
  bind := bind
  fail _ := of_same (Orderly.simulation.fail _) (fun _ _ => rfl) fun _ => rfl
  fault _ := of_same (Orderly.simulation.fault _) (fun _ _ => rfl) fun _ => rfl
  emit _ := of_same (Orderly.simulation.emit _) (fun _ _ => rfl) fun _ => rfl
  trace _ := of_same (Orderly.simulation.trace _) (fun _ _ => rfl) fun _ => rfl
  traceWith := traceWith
  stamp := stamp

end Thresholded

end Logged

/-- For every run, every limit is a threshold. -/
theorem Term.thresholded_evalIn (limit : Nat) (term : Term) (env : Env) :
    (term.evalIn Logged limit env).Thresholded := by
  have hexhaust : Logged.Thresholded (exhaust : Logged Value) :=
    .of_same (fun _ => .nil) (fun _ _ => rfl) fun _ => rfl
  exact Logged.Thresholded.simulation.evalIn Logged.Thresholded.inCall hexhaust limit term env

/-! ## runs in a context -/

/-- What limits do to a computation in a context, by the depths at which the unlimited run counts
calls in. -/
structure Eval.Threshold {α : Type} (run : Eval α) (context : Context) (depths : List Int) :
    Prop where
  deepest_eq : (run context.unlimited).2.deepest = depths.foldl max context.deepest
  maxDepth_eq : (run context.unlimited).2.maxDepth = none
  within (bound : Int) : (∀ depth ∈ depths, depth ≤ bound) →
    run (context.limitedTo bound)
      = ((run context.unlimited).1, (run context.unlimited).2.limitedTo bound)
  refused (bound : Int) : (∃ depth ∈ depths, bound < depth) →
    ∃ location, (run (context.limitedTo bound)).1
      = .failed ⟨.stackExhausted (.int bound), location⟩
  printed (bound : Int) : (∃ depth ∈ depths, bound < depth) →
    ∃ shown hidden, run.Prints (context.limitedTo bound) shown ∧
      run.Prints context.unlimited (shown ++ hidden)

namespace Eval.Threshold

variable {α : Type} {run : Eval α} {context : Context} {depths : List Int} {bound : Int}

/-- A limited run that is not cut off stays within the limit. -/
theorem le_of_not_refused (h : run.Threshold context depths)
    (hne : ∀ location, (run (context.limitedTo bound)).1
      ≠ .failed ⟨.stackExhausted (.int bound), location⟩) :
    ∀ depth ∈ depths, depth ≤ bound := by
  intro depth hmem
  by_contra hlt
  obtain ⟨location, hrefused⟩ := h.refused bound ⟨depth, hmem, by omega⟩
  exact hne location hrefused

/-- A limited run that is not cut off is the unlimited one. -/
theorem unlimited_eq (h : run.Threshold context depths)
    (hle : ∀ depth ∈ depths, depth ≤ bound) :
    run context.unlimited
      = ((run (context.limitedTo bound)).1, (run (context.limitedTo bound)).2.unlimited) := by
  rw [h.within bound hle]
  refine Prod.ext rfl ?_
  show (run context.unlimited).2 = { (run context.unlimited).2 with maxDepth := none }
  rw [← h.maxDepth_eq]

/-- A limited run that is not cut off is the run with any greater limit. -/
theorem limitedTo_eq (h : run.Threshold context depths)
    (hle : ∀ depth ∈ depths, depth ≤ bound) {more : Int} (hmore : bound ≤ more) :
    run (context.limitedTo more)
      = ((run (context.limitedTo bound)).1,
        (run (context.limitedTo bound)).2.limitedTo more) := by
  rw [h.within bound hle, h.within more fun depth hmem => Int.le_trans (hle depth hmem) hmore]
  rfl

end Eval.Threshold

namespace Term

/-- The depths at which the unlimited run of a term counts calls in. -/
def callDepths (limit : Nat) (term : Term) (env : Env) (context : Context) : List Int :=
  Rinha.callDepths context.depth (term.evalIn Logged limit env context.unlimited).2

variable (limit : Nat) (term : Term) (env : Env) (context : Context)

theorem threshold_eval :
    (term.eval limit env).Threshold context (term.callDepths limit env context) where
  deepest_eq := by
    rw [eval_eq_logged]
    exact Context.deepest_after context.unlimited _
  maxDepth_eq := by
    rw [eval_eq_logged]
    exact Context.maxDepth_after context.unlimited _
  within bound hle := by
    have hwithin : (term.evalIn Logged limit env).Within context.unlimited bound :=
      (term.thresholded_evalIn limit env).within_of_le rfl hle
    have hlimited : context.limitedTo bound = context.unlimited.limitedTo bound := rfl
    rw [eval_eq_logged, eval_eq_logged, hlimited, hwithin.same, Context.limitedTo_after]
  refused bound hlt := by
    have hbeyond : (term.evalIn Logged limit env).Beyond context.unlimited bound :=
      (term.thresholded_evalIn limit env).beyond_of_lt rfl hlt
    obtain ⟨location, hrefused⟩ := hbeyond.refused
    exact ⟨location, by rw [eval_eq_logged]; exact hrefused⟩
  printed bound hlt := by
    have hbeyond : (term.evalIn Logged limit env).Beyond context.unlimited bound :=
      (term.thresholded_evalIn limit env).beyond_of_lt rfl hlt
    obtain ⟨hidden, hhidden⟩ := hbeyond.printed
    have hprints := term.prints_eval limit env context.unlimited
    rw [← hhidden] at hprints
    exact ⟨_, hidden, term.prints_eval limit env (context.limitedTo bound), hprints⟩

theorem threshold_evalRoot :
    (term.evalRoot limit env).Threshold context (term.callDepths limit env context) where
  deepest_eq := by
    rw [evalRoot_snd]
    exact (term.threshold_eval limit env context).deepest_eq
  maxDepth_eq := by
    rw [evalRoot_snd]
    exact (term.threshold_eval limit env context).maxDepth_eq
  within bound hle := by
    have heval := (term.threshold_eval limit env context).within bound hle
    cases hrun : term.eval limit env context.unlimited with
    | mk outcome after =>
      rw [hrun] at heval
      cases outcome with
      | exhausted =>
        rw [evalRoot_of_exhausted hrun, evalRoot_of_exhausted heval]
        rfl
      | _ => simp only [evalRoot, hrun, heval]
  refused bound hlt := by
    obtain ⟨location, hrefused⟩ := (term.threshold_eval limit env context).refused bound hlt
    have hne : (term.eval limit env (context.limitedTo bound)).1 ≠ .exhausted := by
      rw [hrefused]
      intro h
      cases h
    exact ⟨location, by rw [evalRoot_of_ne_exhausted hne, hrefused]⟩
  printed bound hlt := by
    obtain ⟨shown, hidden, hshown, hhidden⟩ :=
      (term.threshold_eval limit env context).printed bound hlt
    exact ⟨shown, hidden, prints_evalRoot_iff.mpr hshown, prints_evalRoot_iff.mpr hhidden⟩

end Term

/-! ## the threshold of a run -/

theorem max?_le_iff_forall {depths : List Int} {bound : Int} :
    (∀ peak ∈ depths.max?, peak ≤ bound) ↔ ∀ depth ∈ depths, depth ≤ bound := by
  cases h : depths.max? with
  | none => simp [List.max?_eq_none_iff.mp h]
  | some peak => simp [← List.max?_le_iff h]

/-- A limit on the call depth is an exact threshold.  Let `depths` be those at which the unlimited
run counts calls in, which are those that its own counter sees.

* If the greatest of them is not beyond the limit, or there is none, then the limited run gives the
  same outcome and leaves the same context behind.
* If it is, then the limited run ends in the error of the limit, and the lines that it prints are a
  beginning of those that the unlimited run prints.
* If the limited run does not end in the error of the limit, then the unlimited run and the runs
  with greater limits give the same outcome and leave the same context behind. -/
theorem Term.limit_is_threshold (limit : Nat) (term : Term) (env : Env) (context : Context)
    (bound : Int) :
    let depths := term.callDepths limit env context
    ∀ run ∈ [term.eval limit env, term.evalRoot limit env],
      (run context.unlimited).2.deepest = depths.foldl max context.deepest ∧
      ((∀ peak ∈ depths.max?, peak ≤ bound) →
        run (context.limitedTo bound)
          = ((run context.unlimited).1, (run context.unlimited).2.limitedTo bound)) ∧
      ((∃ peak ∈ depths.max?, bound < peak) →
        (∃ location, (run (context.limitedTo bound)).1
          = .failed ⟨.stackExhausted (.int bound), location⟩) ∧
        ∃ shown hidden, run.Prints (context.limitedTo bound) shown ∧
          run.Prints context.unlimited (shown ++ hidden)) ∧
      ((∀ location, (run (context.limitedTo bound)).1
          ≠ .failed ⟨.stackExhausted (.int bound), location⟩) →
        run context.unlimited
          = ((run (context.limitedTo bound)).1, (run (context.limitedTo bound)).2.unlimited) ∧
        ∀ more, bound ≤ more →
          run (context.limitedTo more)
            = ((run (context.limitedTo bound)).1,
              (run (context.limitedTo bound)).2.limitedTo more)) := by
  intro depths run hrun
  have h : run.Threshold context depths := by
    obtain rfl | rfl := List.mem_pair.mp hrun
    · exact term.threshold_eval limit env context
    · exact term.threshold_evalRoot limit env context
  refine ⟨h.deepest_eq, fun hpeak => ?_, fun ⟨peak, hmem, hlt⟩ => ?_, fun hne => ?_⟩
  · exact h.within bound (max?_le_iff_forall.mp hpeak)
  · have hbeyond : ∃ depth ∈ depths, bound < depth := ⟨peak, List.max?_mem hmem, hlt⟩
    exact ⟨h.refused bound hbeyond, h.printed bound hbeyond⟩
  · have hle := h.le_of_not_refused hne
    exact ⟨h.unlimited_eq hle, fun more hmore => h.limitedTo_eq hle hmore⟩

/-- One call inside another reaches the depth 2.  The limit 2 changes nothing, and under the limit 1
the inner call is refused. -/
theorem Term.limit_is_threshold_callInCall :
    let context := Context.new .collector false none
    let run := callInCall.eval 2 .empty
    (callInCall.callDepths 2 .empty context).max? = some 2 ∧
      run (context.limitedTo 2)
        = ((run context.unlimited).1, (run context.unlimited).2.limitedTo 2) ∧
      (∃ location, (run (context.limitedTo 1)).1
        = .failed ⟨.stackExhausted (.int 1), location⟩) ∧
      run (context.limitedTo 3)
        = ((run (context.limitedTo 2)).1, (run (context.limitedTo 2)).2.limitedTo 3) := by
  intro context run
  have hpeak : (callInCall.callDepths 2 .empty context).max? = some 2 := by decide +kernel
  have hrun : run ∈ [callInCall.eval 2 .empty, callInCall.evalRoot 2 .empty] :=
    List.mem_cons_self
  have hne : ∀ location, (run (context.limitedTo 2)).1
      ≠ .failed ⟨.stackExhausted (.int 2), location⟩ := by
    intro location hrefused
    have hdone : (match (callInCall.eval 2 .empty (context.limitedTo 2)).1 with
        | .done _ => true
        | _ => false) = true := by decide +kernel
    rw [show (callInCall.eval 2 .empty (context.limitedTo 2)).1 = _ from hrefused] at hdone
    cases hdone
  have hsame := (limit_is_threshold 2 callInCall .empty context 2 run hrun).2
  have hrefused := (limit_is_threshold 2 callInCall .empty context 1 run hrun).2.2.1
  refine ⟨hpeak, hsame.1 fun peak hmem => ?_, (hrefused ⟨2, hpeak, by decide⟩).1,
    (hsame.2.2 hne).2 3 (by decide)⟩
  rw [hpeak, Option.mem_some_iff] at hmem
  omega

end Rinha
