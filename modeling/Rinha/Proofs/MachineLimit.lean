import Rinha.Proofs.Printed

/-!
# Rinha.Proofs.MachineLimit

The limit of the machine is a cut-off and nothing else.  A machine that can follow `limit` calls
inside each other is exhausted by a run if and only if the run counts a call in inside `limit`
others (`Term.ne_exhausted_iff`), so no term on the way out turns exhaustion into another end.  And
of two machines the one with the smaller limit

* does the same as the other one, unless it is exhausted;
* prints a beginning of what the other one prints, if it is (`Logged.CutOff`).
-/

namespace Rinha

open Effects

/-! ## when the machine is exhausted -/

/-- A computation that follows so many calls inside each other: it is exhausted unless it counts
every call in at most that much deeper. -/
structure Logged.Follows {α : Type} (calls : Nat) (action : Logged α) : Prop where
  orderly : action.Orderly
  ne_exhausted_iff (context : Context) : (action context).1 ≠ .exhausted ↔
    ∀ depth ∈ callDepths context.depth (action context).2, depth ≤ context.depth + calls

namespace Logged.Follows

variable {α β : Type} {calls : Nat}

/-- A computation that counts no call in and is not exhausted. -/
theorem of_callDepths_eq_nil {x : Logged α} (horderly : x.Orderly)
    (h : ∀ context, (x context).1 ≠ .exhausted ∧ callDepths context.depth (x context).2 = []) :
    x.Follows calls := by
  refine ⟨horderly, fun context => iff_of_true (h context).1 ?_⟩
  rw [(h context).2]
  exact List.forall_mem_nil _

/-- The second step starts at the same depth, so the calls of both have the same bound. -/
theorem bind {x : Logged α} {f : α → Logged β} (h : x.Follows calls)
    (hf : ∀ result, (f result).Follows calls) : Logged.Follows calls (x >>= f) := by
  refine ⟨h.orderly.bind fun result => (hf result).orderly, fun context => ?_⟩
  have hevents := h.orderly context
  have hx := h.ne_exhausted_iff context
  cases hrun : x context with
  | mk outcome events =>
    rw [hrun] at hevents hx
    cases outcome with
    | done result =>
      have hnext := (hf result).ne_exhausted_iff (context.after events)
      rw [hevents.depth_after rfl] at hnext
      rw [Logged.bind_done hrun, hnext, hevents.callDepths_append, List.forall_mem_append]
      exact (and_iff_right (hx.mp nofun)).symm
    | failed error => rw [Logged.bind_failed hrun, ← hx]; exact iff_of_true nofun nofun
    | faulted fault => rw [Logged.bind_faulted hrun, ← hx]; exact iff_of_true nofun nofun
    | exhausted => rw [Logged.bind_exhausted hrun, ← hx]; exact not_congr (iff_of_true rfl rfl)

/-- A location changes errors only. -/
theorem stamp {x : Logged α} (location : Option Data) (h : x.Follows calls) :
    Logged.Follows calls (Effects.stamp location x) := by
  refine ⟨h.orderly.stamp location, fun context => ?_⟩
  rw [Logged.stamp_apply, ← h.ne_exhausted_iff context]
  cases (x context).1 <;> simp [Outcome.stamp]

theorem traceWith (message : Except Fault String) :
    Logged.Follows calls (Effects.traceWith message) := by
  refine of_callDepths_eq_nil (.traceWith message) fun context => ?_
  obtain ⟨text, h⟩ | ⟨fault, -, h⟩ | h := Logged.traceWith_cases message context
  · rw [h]; exact ⟨nofun, rfl⟩
  · rw [h]; exact ⟨nofun, rfl⟩
  · rw [h]; exact ⟨nofun, rfl⟩

/-- One call around it makes one call more. -/
theorem inCall {x : Logged α} (h : x.Follows calls) :
    Logged.Follows (calls + 1) (Effects.inCall x) := by
  refine ⟨h.orderly.inCall, fun context => ?_⟩
  obtain ⟨fault, hcall⟩ | ⟨limit, hcall⟩ | hcall := Logged.inCall_cases context
  · rw [hcall]
    exact iff_of_true nofun (List.forall_mem_nil _)
  · rw [hcall]
    exact iff_of_true nofun (List.forall_mem_nil _)
  · have hx := h.ne_exhausted_iff context.enter
    have hdepths := (h.orderly context.enter).callDepths_enclosed
    have hbound : context.enter.depth + calls = context.depth + (calls + 1 : Nat) := by
      show context.depth + 1 + (calls : Int) = _
      omega
    rw [hbound] at hx
    rw [hcall, hdepths, List.forall_mem_cons, hx]
    exact (and_iff_right (by omega)).symm

/-- The call that cannot be followed is counted in. -/
theorem inCall_exhaust : Logged.Follows 0 (Effects.inCall (exhaust : Logged α)) := by
  refine ⟨.inCall fun _ => .nil, fun context => ?_⟩
  obtain ⟨fault, hcall⟩ | ⟨limit, hcall⟩ | hcall := Logged.inCall_cases context
  · rw [hcall]
    exact iff_of_true nofun (List.forall_mem_nil _)
  · rw [hcall]
    exact iff_of_true nofun (List.forall_mem_nil _)
  · rw [hcall]
    refine iff_of_false (fun hne => hne rfl) fun hle => ?_
    have hfirst := hle (context.depth + 1) List.mem_cons_self
    omega

/-- Every operation but the call follows as many calls as its parts. -/
def simulation (calls : Nat) : Simulation Logged Logged where
  rel action _ := action.Follows calls
  pure _ := of_callDepths_eq_nil (Orderly.simulation.pure _) fun _ => ⟨nofun, rfl⟩
  bind := bind
  fail _ := of_callDepths_eq_nil (Orderly.simulation.fail _) fun _ => ⟨nofun, rfl⟩
  fault _ := of_callDepths_eq_nil (Orderly.simulation.fault _) fun _ => ⟨nofun, rfl⟩
  emit _ := of_callDepths_eq_nil (Orderly.simulation.emit _) fun _ => ⟨nofun, rfl⟩
  trace _ := of_callDepths_eq_nil (Orderly.simulation.trace _) fun _ => ⟨nofun, rfl⟩
  traceWith := traceWith
  stamp := stamp

end Logged.Follows

/-- A run follows as many calls inside each other as the machine can. -/
theorem Term.follows_evalIn (limit : Nat) (term : Term) (env : Env) :
    (term.evalIn Logged limit env).Follows limit := by
  induction limit generalizing term env with
  | zero =>
    have h : (Logged.Follows.simulation 0).rel (term.evalIn Logged 0 env)
        (term.evalIn Logged 0 env) :=
      Simulation.evalWith _ (fun _ _ => Logged.Follows.inCall_exhaust) term env
    exact h
  | succ limit ih =>
    have h : (Logged.Follows.simulation (limit + 1)).rel (term.evalIn Logged (limit + 1) env)
        (term.evalIn Logged (limit + 1) env) :=
      Simulation.evalWith _ (fun body env => (ih body env).inCall) term env
    exact h

/-! ## a smaller limit and a larger one -/

/-- A computation does the same as another one, or it is exhausted and has printed a beginning of
what the other one prints. -/
def Logged.CutOff {α : Type} (short long : Logged α) : Prop :=
  ∀ context, long context = short context ∨
    (short context).1 = .exhausted ∧
      printedLines (short context).2 <+: printedLines (long context).2

namespace Logged.CutOff

variable {α β : Type} {x y : Logged α}

protected theorem refl (x : Logged α) : x.CutOff x :=
  fun _ => .inl rfl

/-- Whatever the other computation does, one that is exhausted at once is cut off from it. -/
theorem exhaust (y : Logged α) : Logged.CutOff Effects.exhaust y :=
  fun _ => .inr ⟨rfl, List.nil_prefix⟩

theorem bind {f g : α → Logged β} (h : x.CutOff y) (hfg : ∀ result, (f result).CutOff (g result)) :
    Logged.CutOff (x >>= f) (y >>= g) := by
  intro context
  obtain hsame | ⟨hexhausted, hprinted⟩ := h context
  · cases hrun : x context with
    | mk outcome events =>
      rw [hrun] at hsame
      cases outcome with
      | done result =>
        rw [Logged.bind_done hrun, Logged.bind_done hsame]
        obtain hnext | ⟨hexhausted, hprinted⟩ := hfg result (context.after events)
        · exact .inl (by rw [hnext])
        · refine .inr ⟨hexhausted, ?_⟩
          rw [printedLines_append, printedLines_append, List.prefix_append_right_inj]
          exact hprinted
      | failed error => exact .inl (by rw [Logged.bind_failed hrun, Logged.bind_failed hsame])
      | faulted fault => exact .inl (by rw [Logged.bind_faulted hrun, Logged.bind_faulted hsame])
      | exhausted => exact .inl (by rw [Logged.bind_exhausted hrun, Logged.bind_exhausted hsame])
  · have hrun : x context = (.exhausted, (x context).2) := Prod.ext hexhausted rfl
    rw [Logged.bind_exhausted hrun]
    exact .inr ⟨rfl, hprinted.trans ((Logged.prefix_bind y g context).filterMap _)⟩

theorem stamp (location : Option Data) (h : x.CutOff y) :
    Logged.CutOff (Effects.stamp location x) (Effects.stamp location y) := by
  intro context
  rw [Logged.stamp_apply, Logged.stamp_apply]
  obtain hsame | ⟨hexhausted, hprinted⟩ := h context
  · exact .inl (by rw [hsame])
  · exact .inr ⟨by rw [hexhausted]; rfl, hprinted⟩

theorem inCall (h : x.CutOff y) : Logged.CutOff (Effects.inCall x) (Effects.inCall y) := by
  intro context
  obtain ⟨fault, hcall⟩ | ⟨limit, hcall⟩ | hcall := Logged.inCall_cases context
  · exact .inl (by rw [hcall, hcall])
  · exact .inl (by rw [hcall, hcall])
  · rw [hcall, hcall]
    obtain hsame | ⟨hexhausted, hprinted⟩ := h context.enter
    · exact .inl (by rw [hsame])
    · refine .inr ⟨hexhausted, ?_⟩
      rw [printedLines_enclosed, printedLines_enclosed]
      exact hprinted

/-- Every operation is cut off only where its parts are. -/
def simulation : Simulation Logged Logged where
  rel := Logged.CutOff
  pure _ := .refl _
  bind := bind
  fail _ := .refl _
  fault _ := .refl _
  emit _ := .refl _
  trace _ := .refl _
  traceWith _ := .refl _
  stamp := stamp

end Logged.CutOff

/-- The run on a machine is that on a machine with a larger limit, cut off. -/
theorem Term.cutOff_evalIn {limit more : Nat} (hle : limit ≤ more) (term : Term) (env : Env) :
    (term.evalIn Logged limit env).CutOff (term.evalIn Logged more env) := by
  induction limit generalizing more term env with
  | zero =>
    cases more with
    | zero => exact .refl _
    | succ more =>
      exact Logged.CutOff.simulation.evalWith (fun _ _ => .inCall (.exhaust _)) term env
  | succ limit ih =>
    cases more with
    | zero => cases hle
    | succ more =>
      have hbody (body : Term) (env : Env) := (ih (Nat.le_of_succ_le_succ hle) body env).inCall
      exact Logged.CutOff.simulation.evalWith hbody term env

/-! ## runs in a context -/

namespace Term

variable {limit more : Nat} {term : Term} {env : Env} {context : Context}

/-- A run exhausts the machine unless it counts every call in inside fewer calls than the machine
can follow. -/
theorem ne_exhausted_iff : (term.eval limit env context).1 ≠ .exhausted ↔
    ∀ depth ∈ Rinha.callDepths context.depth (term.evalIn Logged limit env context).2,
      depth ≤ context.depth + limit := by
  rw [eval_eq_logged]
  exact (term.follows_evalIn limit env).ne_exhausted_iff context

/-- A run that does not exhaust the machine is the same on every machine with a larger limit. -/
theorem eval_eq_of_le (hle : limit ≤ more) (hne : (term.eval limit env context).1 ≠ .exhausted) :
    term.eval more env context = term.eval limit env context := by
  rw [eval_eq_logged] at hne
  obtain hsame | ⟨hexhausted, -⟩ := term.cutOff_evalIn hle env context
  · rw [eval_eq_logged, eval_eq_logged, hsame]
  · exact absurd hexhausted hne

/-- A machine with a larger limit prints what one with a smaller limit prints, and maybe more. -/
theorem printedLines_prefix_of_le (hle : limit ≤ more) :
    printedLines (term.evalIn Logged limit env context).2
      <+: printedLines (term.evalIn Logged more env context).2 := by
  obtain hsame | ⟨-, hprinted⟩ := term.cutOff_evalIn hle env context
  · simp only [hsame, List.prefix_rfl]
  · exact hprinted

/-- The limit of the machine is a cut-off and nothing else.

* A run exhausts the machine if and only if it counts a call in inside as many others as the machine
  can follow, so exhaustion is never told as anything else by the terms around that call.
* If it does not, then the run is the same on every machine with a larger limit, and it is the same
  at the root as anywhere else.
* If it does, then at the root that is an error at the location of the root term; the depth is what
  it was before, and the lines that are printed are a beginning of those that are printed on every
  machine with a larger limit. -/
theorem machine_limit_is_cutoff (limit : Nat) (term : Term) (env : Env) (context : Context) :
    let depths := Rinha.callDepths context.depth (term.evalIn Logged limit env context).2
    ((term.eval limit env context).1 = .exhausted ↔
      ∃ depth ∈ depths, context.depth + limit < depth) ∧
    ((term.eval limit env context).1 ≠ .exhausted → ∀ more ≥ limit,
      term.eval more env context = term.eval limit env context ∧
      term.evalRoot more env context = term.eval limit env context) ∧
    ((term.eval limit env context).1 = .exhausted →
      (∃ deepest, (term.evalRoot limit env context).1
        = .failed ⟨.hostExhausted deepest, term.location⟩) ∧
      ∀ run ∈ [(term.eval · env), (term.evalRoot · env)],
        (run limit context).2.depth = context.depth ∧
        ∃ shown, (run limit).Prints context shown ∧
          ∀ more ≥ limit, ∃ hidden, (run more).Prints context (shown ++ hidden)) := by
  intro depths
  refine ⟨?_, fun hne more hle => ?_, fun hexhausted => ⟨?_, fun run hrun => ?_⟩⟩
  · have hne : ¬(term.eval limit env context).1 = .exhausted ↔ _ := ne_exhausted_iff
    simpa [depths] using not_congr hne
  · have heval := eval_eq_of_le hle hne
    refine ⟨heval, ?_⟩
    rw [← heval] at hne ⊢
    exact evalRoot_of_ne_exhausted hne
  · exact ⟨_, by rw [evalRoot_of_exhausted (Prod.ext hexhausted rfl)]⟩
  · have hrun_depth : (run limit context).2.depth = context.depth := by
      have hbalanced := (term.balanced_eval limit env context).depth_eq
      obtain rfl | rfl := List.mem_pair.mp hrun
      · exact hbalanced
      · rwa [← evalRoot_snd] at hbalanced
    have hprints (more : Nat) : (run more).Prints context
        (printedLines (term.evalIn Logged more env context).2) := by
      obtain rfl | rfl := List.mem_pair.mp hrun
      · exact term.prints_eval more env context
      · exact prints_evalRoot_iff.mpr (term.prints_eval more env context)
    refine ⟨hrun_depth, _, hprints limit, fun more hle => ?_⟩
    have hprefix : printedLines (term.evalIn Logged limit env context).2 <+: _ :=
      printedLines_prefix_of_le hle
    obtain ⟨hidden, hhidden⟩ := hprefix
    exact ⟨hidden, hhidden ▸ hprints more⟩

/-- A function that prints a line and calls itself, for ever:
`let f = fn (f) => { let _ = print("a"); f(f) }; f(f)`. -/
def printingLoop : Term :=
  let f : Term := .var none (.ok (.text "f"))
  let line : Term := .print none (.string none (.ok "a"))
  let body : Term := .letIn (some (.int 2)) (.ok (.text "_")) line (.call (some (.int 3)) f [f])
  .letIn (some (.int 1)) (.ok (.text "f")) (.function none (.ok [.text "f"]) body)
    (.call none f [f])

/-- A machine that can follow one call is exhausted by the second one, after one line, and tells
that at the location of the root.  One that can follow two calls is not exhausted by two. -/
theorem machine_limit_is_cutoff_printingLoop :
    let context := Context.new .collector false none
    (printingLoop.eval 1 .empty context).1 = .exhausted ∧
      (∃ deepest, (printingLoop.evalRoot 1 .empty context).1
        = .failed ⟨.hostExhausted deepest, some (.int 1)⟩) ∧
      (∀ more ≥ 1, ∃ hidden, (printingLoop.evalRoot more .empty).Prints context ("a" :: hidden)) ∧
      (callInCall.eval 2 .empty context).1 ≠ .exhausted ∧
      callInCall.evalRoot 5 .empty context = callInCall.eval 2 .empty context := by
  intro context
  obtain ⟨hdeep, -, hcut⟩ := machine_limit_is_cutoff 1 printingLoop .empty context
  obtain ⟨hshallow, hsame, -⟩ := machine_limit_is_cutoff 2 callInCall .empty context
  have hexhausted : (printingLoop.eval 1 .empty context).1 = .exhausted :=
    hdeep.mpr (by decide +kernel)
  have hne : (callInCall.eval 2 .empty context).1 ≠ .exhausted :=
    fun h => absurd (hshallow.mp h) (by decide +kernel)
  obtain ⟨htold, hruns⟩ := hcut hexhausted
  obtain ⟨-, shown, hshown, hmore⟩ := hruns _ (.tail _ (.head _))
  have hlog := prints_evalRoot_iff.mpr (printingLoop.prints_eval 1 .empty context)
  have hone : printedLines (printingLoop.evalIn Logged 1 .empty context).2 = ["a"] := by
    decide +kernel
  rw [hone] at hlog
  obtain rfl := hshown.unique hlog
  exact ⟨hexhausted, htold, hmore, hne, (hsame hne 5 (by decide)).2⟩

end Term

end Rinha
