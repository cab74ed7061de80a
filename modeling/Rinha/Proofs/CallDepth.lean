import Rinha.Proofs.Logged

/-!
# Rinha.Proofs.CallDepth

The call depth of a run.  In the log of a run the calls are counted in and out in pairs, one inside
the other like brackets, and each of them is counted in at a depth that the context admits
(`Nested`).  That holds however the run ends: a call that is refused is not counted in, and one that
is counted in is counted out after a failure as well.  So

* `Nested.depth_after` — the depth is afterwards what it was before;
* `Nested.depth_allowed` — at every moment it is that or one that the context admits;
* `Nested.deepest_allowed` — and the greatest depth is the old one or one that the context admits.
-/

namespace Rinha

open Effects

/-! ## nested calls -/

/-- Events at some depth in which every call that is counted in is counted out again, and all of
them are counted in at depths that are allowed. -/
inductive Nested (allowed : Int → Prop) : Int → List Event → Prop where
  | nil {depth : Int} : Nested allowed depth []
  | printed {depth : Int} {line : String} {events : List Event} :
    Nested allowed depth events → Nested allowed depth (.printed line :: events)
  | traced {depth : Int} {message : String} {events : List Event} :
    Nested allowed depth events → Nested allowed depth (.traced message :: events)
  | call {depth : Int} {inner rest : List Event} :
    allowed (depth + 1) → Nested allowed (depth + 1) inner → Nested allowed depth rest →
      Nested allowed depth (.entered :: inner ++ .left :: rest)

namespace Nested

variable {allowed : Int → Prop} {depth : Int} {events more past : List Event}

theorem append (h : Nested allowed depth events) (hmore : Nested allowed depth more) :
    Nested allowed depth (events ++ more) := by
  induction h with
  | nil => exact hmore
  | printed _ ih => exact .printed (ih hmore)
  | traced _ ih => exact .traced (ih hmore)
  | call hallowed hinner _ _ ihrest =>
    rw [List.append_assoc]
    exact .call hallowed hinner (ihrest hmore)

/-- A single call. -/
theorem enclosed (hallowed : allowed (depth + 1)) (h : Nested allowed (depth + 1) events) :
    Nested allowed depth (.entered :: events ++ [.left]) :=
  .call hallowed h .nil

/-- The depth is afterwards what it was before. -/
theorem depth_after (h : Nested allowed depth events) {context : Context}
    (hdepth : context.depth = depth) : (context.after events).depth = depth := by
  induction h generalizing context with
  | nil => exact hdepth
  | printed _ ih => exact ih hdepth
  | traced _ ih => exact ih ((Context.depth_trace _ _).trans hdepth)
  | @call depth inner rest _ _ _ ihinner ihrest =>
    have henter : context.enter.depth = depth + 1 := by rw [← hdepth]; rfl
    have hleave : (context.enter.after inner).leave.depth = depth := by
      have hinner := ihinner henter
      simp only [Context.leave, hinner]
      omega
    rw [List.cons_append, Context.after_cons, Context.after_append]
    exact ihrest hleave

/-- A beginning of a list and a longer one is a beginning of the list, or the list and a beginning
of what comes then. -/
theorem prefix_append_cases (h : past <+: events ++ more) :
    past <+: events ∨ ∃ rest, rest <+: more ∧ past = events ++ rest := by
  obtain h' | ⟨rest, rfl⟩ :=
    List.prefix_or_prefix_of_prefix h (List.prefix_append events more)
  · exact Or.inl h'
  · exact Or.inr ⟨rest, (List.prefix_append_right_inj events).mp h, rfl⟩

/-- At every moment the depth is the one it began with, or one that is allowed. -/
theorem depth_allowed (h : Nested allowed depth events) {context : Context}
    (hdepth : context.depth = depth) (hpast : past <+: events) :
    (context.after past).depth = depth ∨ allowed (context.after past).depth := by
  induction h generalizing context past with
  | nil =>
    rw [List.prefix_nil.mp hpast]
    exact .inl hdepth
  | printed _ ih =>
    obtain rfl | ⟨tail, rfl, htail⟩ := List.prefix_cons_iff.mp hpast
    · exact .inl hdepth
    · rw [Context.after_cons]
      exact ih hdepth htail
  | @traced depth message _ _ ih =>
    obtain rfl | ⟨tail, rfl, htail⟩ := List.prefix_cons_iff.mp hpast
    · exact .inl hdepth
    · rw [Context.after_cons]
      exact ih ((Context.depth_trace context message).trans hdepth) htail
  | @call depth inner rest hallowed hinner _ ihinner ihrest =>
    have henter : context.enter.depth = depth + 1 := by rw [← hdepth]; rfl
    have hinnermost := hinner.depth_after henter
    have hleave : (context.enter.after inner).leave.depth = depth := by
      simp only [Context.leave, hinnermost]
      omega
    obtain hbefore | ⟨later, hlater, rfl⟩ := prefix_append_cases hpast
    -- Before the call is counted out: either nothing has happened or the call is running.
    · obtain rfl | ⟨tail, rfl, htail⟩ := List.prefix_cons_iff.mp hbefore
      · exact .inl hdepth
      · rw [Context.after_cons]
        obtain hsame | hinside := ihinner henter htail
        · exact .inr (hsame.symm ▸ hallowed)
        · exact .inr hinside
    · rw [List.cons_append, Context.after_cons, Context.after_append]
      obtain rfl | ⟨tail, rfl, htail⟩ := List.prefix_cons_iff.mp hlater
      · exact .inr (hinnermost.symm ▸ hallowed)
      · rw [Context.after_cons]
        exact ihrest hleave htail

end Nested

/-! ## the greatest depth -/

/-- The depths at which calls are counted in, in order, by events that begin at some depth. -/
def callDepths : Int → List Event → List Int
  | _, [] => []
  | depth, .printed _ :: events => callDepths depth events
  | depth, .traced _ :: events => callDepths depth events
  | depth, .entered :: events => (depth + 1) :: callDepths (depth + 1) events
  | depth, .left :: events => callDepths (depth - 1) events

theorem callDepths_mono {events more : List Event} (h : events <+: more) (depth : Int) :
    callDepths depth events <+: callDepths depth more := by
  obtain ⟨rest, rfl⟩ := h
  induction events generalizing depth with
  | nil => exact List.nil_prefix
  | cons event events ih =>
    cases event with
    | printed line => exact ih depth
    | traced message => exact ih depth
    | entered => exact List.prefix_cons_inj _ |>.mpr (ih (depth + 1))
    | left => exact ih (depth - 1)

theorem le_foldl_max (depths : List Int) (first : Int) : first ≤ depths.foldl max first := by
  induction depths generalizing first with
  | nil => exact Int.le_refl first
  | cons depth depths ih => exact Int.le_trans (Int.le_max_left first depth) (ih _)

/-- The greatest of some depths is the first or one of the others. -/
theorem foldl_max_eq_or_mem (depths : List Int) (first : Int) :
    depths.foldl max first = first ∨ depths.foldl max first ∈ depths := by
  induction depths generalizing first with
  | nil => exact .inl rfl
  | cons depth depths ih =>
    rw [List.foldl_cons]
    obtain hmax | hmem := ih (max first depth)
    · rw [hmax]
      obtain hfirst | hdepth := Std.MaxEqOr.max_eq_or first depth
      · exact .inl hfirst
      · exact .inr (hdepth.symm ▸ List.mem_cons_self)
    · exact .inr (List.mem_cons_of_mem _ hmem)

namespace Context

/-- The depth counts the calls in and out, and nothing else. -/
theorem depth_after (context : Context) (events : List Event) :
    (context.after events).depth
      = context.depth + events.count .entered - events.count .left := by
  induction events generalizing context with
  | nil => simp
  | cons event events ih =>
    rw [after_cons, ih]
    cases event with
    | printed line => simp [Event.apply, emit]
    | traced message => simp [Event.apply]
    | entered => simp [Event.apply, enter]; omega
    | left => simp [Event.apply, leave]; omega

/-- The greatest depth counts the calls that are counted in, and nothing else. -/
theorem deepest_after (context : Context) (events : List Event) :
    (context.after events).deepest
      = (callDepths context.depth events).foldl max context.deepest := by
  induction events generalizing context with
  | nil => rfl
  | cons event events ih =>
    rw [after_cons, ih]
    cases event with
    | printed line => rfl
    | traced message => simp only [Event.apply, depth_trace, deepest_trace, callDepths]
    | entered => rfl
    | left => rfl

/-- The greatest depth never becomes less. -/
theorem deepest_le_after (context : Context) (events : List Event) :
    context.deepest ≤ (context.after events).deepest := by
  rw [deepest_after]
  exact le_foldl_max _ _

end Context

namespace Nested

variable {allowed : Int → Prop} {depth : Int} {events : List Event}

/-- What comes after nested calls is counted from the same depth. -/
theorem callDepths_append (h : Nested allowed depth events) (more : List Event) :
    callDepths depth (events ++ more) = callDepths depth events ++ callDepths depth more := by
  induction h generalizing more with
  | nil => rfl
  | printed _ ih => exact ih more
  | traced _ ih => exact ih more
  | @call depth inner rest _ _ _ ihinner ihrest =>
    have hback : depth + 1 - 1 = depth := by omega
    simp only [List.cons_append, List.append_assoc, callDepths, ihinner, hback, ihrest]

theorem callDepths_enclosed (h : Nested allowed (depth + 1) events) :
    callDepths depth (.entered :: events ++ [.left])
      = (depth + 1) :: callDepths (depth + 1) events := by
  rw [List.cons_append, callDepths, h.callDepths_append]
  simp only [callDepths, List.append_nil]

theorem allowed_of_mem (h : Nested allowed depth events) {k : Int}
    (hk : k ∈ callDepths depth events) : allowed k := by
  induction h with
  | nil => cases hk
  | printed _ ih => exact ih hk
  | traced _ ih => exact ih hk
  | @call depth inner rest hallowed hinner _ ihinner ihrest =>
    have hback : depth + 1 - 1 = depth := by omega
    simp only [List.cons_append, callDepths, hinner.callDepths_append, hback, List.mem_cons,
      List.mem_append] at hk
    obtain rfl | hk | hk := hk
    · exact hallowed
    · exact ihinner hk
    · exact ihrest hk

/-- The greatest depth is afterwards what it was before, or one that is allowed. -/
theorem deepest_allowed (h : Nested allowed depth events) {context : Context}
    (hdepth : context.depth = depth) :
    (context.after events).deepest = context.deepest ∨
      allowed (context.after events).deepest := by
  rw [Context.deepest_after, hdepth]
  exact (foldl_max_eq_or_mem _ context.deepest).imp id h.allowed_of_mem

end Nested

/-! ## runs -/

/-- Whether a call may be counted in at a depth. -/
def Context.Admits (context : Context) (depth : Int) : Prop :=
  context.passed? depth = .ok none

theorem Context.admits_after {context : Context} {events : List Event} {depth : Int} :
    (context.after events).Admits depth ↔ context.Admits depth := by
  unfold Admits passed?
  rw [maxDepth_after]

/-- Under a limit no greater depth is admitted. -/
theorem Context.le_of_admits {context : Context} {limit depth : Int}
    (hlimit : context.maxDepth = some (.int limit)) (h : context.Admits depth) :
    depth ≤ limit := by
  rw [Admits, passed?_int hlimit] at h
  by_contra hlt
  rw [if_pos (by omega)] at h
  cases h

/-- A computation whose calls are nested. -/
def Logged.Orderly {α : Type} (action : Logged α) : Prop :=
  ∀ context, Nested context.Admits context.depth (action context).2

namespace Logged.Orderly

variable {α β : Type}

theorem bind {x : Logged α} {f : α → Logged β} (h : x.Orderly)
    (hf : ∀ result, (f result).Orderly) : Logged.Orderly (x >>= f) := by
  intro context
  have hx := h context
  cases hrun : x context with
  | mk outcome events =>
    rw [hrun] at hx
    cases outcome with
    | done result =>
      have hnext := hf result (context.after events)
      rw [hx.depth_after rfl] at hnext
      have hadmits : (context.after events).Admits = context.Admits :=
        funext fun depth => propext Context.admits_after
      rw [hadmits] at hnext
      rw [Logged.bind_done hrun]
      exact hx.append hnext
    | failed error => rw [Logged.bind_failed hrun]; exact hx
    | faulted fault => rw [Logged.bind_faulted hrun]; exact hx
    | exhausted => rw [Logged.bind_exhausted hrun]; exact hx

theorem stamp {x : Logged α} (location : Option Data) (h : x.Orderly) :
    Logged.Orderly (Effects.stamp location x) := by
  intro context
  rw [Logged.stamp_apply]
  exact h context

theorem traceWith (message : Except Fault String) :
    Logged.Orderly (Effects.traceWith message) := by
  intro context
  obtain ⟨text, h⟩ | ⟨fault, -, h⟩ | h := Logged.traceWith_cases message context
  · rw [h]; exact .traced .nil
  · rw [h]; exact .nil
  · rw [h]; exact .nil

theorem inCall {x : Logged α} (h : x.Orderly) : Logged.Orderly (Effects.inCall x) := by
  intro context
  cases hpassed : context.passed? (context.depth + 1) with
  | error fault => rw [Logged.inCall_faulted hpassed]; exact .nil
  | ok passed =>
    cases passed with
    | some limit => rw [Logged.inCall_refused hpassed]; exact .nil
    | none =>
      rw [Logged.inCall_entered hpassed]
      exact .enclosed hpassed (h context.enter)

/-- Every operation is orderly. -/
def simulation : Simulation Logged Logged where
  rel action _ := action.Orderly
  pure _ := fun _ => .nil
  bind := bind
  fail _ := fun _ => .nil
  fault _ := fun _ => .nil
  emit _ := fun _ => .printed .nil
  trace _ := fun _ => .traced .nil
  traceWith := traceWith
  stamp := stamp

end Logged.Orderly

/-- The calls of every run are nested. -/
theorem Term.orderly_evalIn (limit : Nat) (term : Term) (env : Env) :
    (term.evalIn Logged limit env).Orderly :=
  Logged.Orderly.simulation.evalIn Logged.Orderly.inCall (fun _ => .nil) limit term env

/-- What every run leaves as it was, and how far the greatest depth can go. -/
structure Context.Balanced (before after : Context) : Prop where
  depth_eq : after.depth = before.depth
  maxDepth_eq : after.maxDepth = before.maxDepth
  debug_eq : after.debug = before.debug
  le_deepest : before.deepest ≤ after.deepest
  deepest_admitted : after.deepest = before.deepest ∨ before.Admits after.deepest
  deepest_le (limit : Int) :
    before.maxDepth = some (.int limit) → after.deepest ≤ max before.deepest limit

/-- A depth that is the first one or admitted is not beyond both the first one and the limit. -/
theorem Context.le_max_of_admits {context : Context} {limit first depth : Int}
    (hlimit : context.maxDepth = some (.int limit)) (h : depth = first ∨ context.Admits depth) :
    depth ≤ max first limit := by
  obtain rfl | hadmits := h
  · exact Int.le_max_left _ _
  · exact Int.le_trans (le_of_admits hlimit hadmits) (Int.le_max_right _ _)

theorem Term.balanced_eval (limit : Nat) (term : Term) (env : Env) (context : Context) :
    context.Balanced (term.eval limit env context).2 := by
  have horderly := term.orderly_evalIn limit env context
  rw [term.eval_eq_logged]
  exact {
    depth_eq := horderly.depth_after rfl
    maxDepth_eq := Context.maxDepth_after context _
    debug_eq := Context.debug_after context _
    le_deepest := Context.deepest_le_after context _
    deepest_admitted := horderly.deepest_allowed rfl
    deepest_le := fun _ hlimit => Context.le_max_of_admits hlimit (horderly.deepest_allowed rfl) }

/-- However a run ends, the calls are counted out, the settings are kept and the greatest depth has
not passed the limit.  At every moment of the run the depth is the one it began with or one that the
context admits, so it is not beyond both the first one and the limit.  The moments are what the
beginnings of the log lead to, and the whole log leads to the end of the run. -/
theorem Term.run_balanced (limit : Nat) (term : Term) (env : Env) (context : Context) :
    let log := (term.evalIn Logged limit env context).2
    (∀ run ∈ [term.eval limit env, term.evalRoot limit env],
      context.Balanced (run context).2 ∧ (run context).2 = context.after log) ∧
    ∀ past, past <+: log →
      ((context.after past).depth = context.depth ∨
        context.Admits (context.after past).depth) ∧
      ∀ bound : Int, context.maxDepth = some (.int bound) →
        (context.after past).depth ≤ max context.depth bound := by
  have hafter : (term.eval limit env context).2
      = context.after (term.evalIn Logged limit env context).2 := by rw [term.eval_eq_logged]
  refine ⟨?_, fun past hpast => ?_⟩
  · intro run hrun
    have hsnd : (run context).2 = (term.eval limit env context).2 := by
      obtain rfl | rfl := List.mem_pair.mp hrun
      · rfl
      · exact term.evalRoot_snd limit env context
    rw [hsnd]
    exact ⟨term.balanced_eval limit env context, hafter⟩
  · have hallowed := (term.orderly_evalIn limit env context).depth_allowed rfl hpast
    exact ⟨hallowed, fun _ hbound => Context.le_max_of_admits hbound hallowed⟩

/-- A call whose body calls again: `(fn () => (fn () => 1)())()`. -/
def callInCall : Term :=
  .call none (.function none (.ok [])
    (.call none (.function none (.ok []) (.int none (.ok 1))) [])) []

/-- Under the limit 1 the outer call is counted in, and the inner one is refused. -/
theorem Term.run_balanced_callInCall :
    let context := Context.new .collector false (some (.int 1))
    let past := [.traced "Evaluating: Call", .traced "Evaluating: Function", .entered]
    context.maxDepth = some (.int 1) ∧
      past <+: (callInCall.evalIn Logged 2 .empty context).2 ∧
      (context.after past).depth ≤ max context.depth 1 :=
  have hpast : [.traced "Evaluating: Call", .traced "Evaluating: Function", .entered] <+:
      (callInCall.evalIn Logged 2 .empty (Context.new .collector false (some (.int 1)))).2 := by
    decide +kernel
  ⟨rfl, hpast, ((callInCall.run_balanced 2 .empty _).2 _ hpast).2 1 rfl⟩

end Rinha
