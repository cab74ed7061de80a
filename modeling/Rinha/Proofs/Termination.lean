import Rinha.Proofs.DepthLimit
import Rinha.Proofs.Endings

/-!
# Rinha.Proofs.Termination

A limit on the call depth makes every evaluation end.  The body of a function is no part of the call
that runs it, so evaluation is no recursion on the term.  But each call inside another one is
counted in one deeper, and none is beyond the limit.  So it is a recursion on the number of calls
that are left and, for each of them, on the term, which no machine has to cut off
(`Term.evalWithin`):

```
term.eval limit env context = term.evalWithin bound context.depth env context
```

under the limit `bound` on the call depth, on every machine that can follow `bound - context.depth`
calls inside each other (`Term.eval_eq_evalWithin`).
-/

namespace Rinha

open Effects

/-! ## evaluation without a machine limit -/

/-- Evaluate a term at some depth under a limit on the call depth.

The recursion is on the calls that are left up to the limit, and `Term.evalWith` is one on the term.
A call at the limit is refused, so what stands for its body there is never run. -/
def Term.evalWithin (bound depth : Int) : Term → Env → Eval Value :=
  Term.evalWith fun body env =>
    if depth < bound then evalWithin bound (depth + 1) body env else exhaust
termination_by (bound - depth).toNat

/-- Two runs that are the same, do not exhaust the machine, and end under a limit at a depth. -/
structure Eval.SettledRun {α : Type} (bound depth : Int) (one other : Outcome α × Context) :
    Prop where
  same : one = other
  ne_exhausted : one.1 ≠ .exhausted
  maxDepth_eq : one.2.maxDepth = some (.int bound)
  depth_eq : one.2.depth = depth

/-- Two computations that do the same in all contexts under a limit and at a depth, to which they
come back without exhausting the machine. -/
def Eval.Settled {α : Type} (bound depth : Int) (one other : Eval α) : Prop :=
  ∀ context : Context, context.maxDepth = some (.int bound) → context.depth = depth →
    SettledRun bound depth (one context) (other context)

namespace Eval.Settled

variable {α β : Type} {bound depth : Int}

theorem bind {x y : Eval α} {f g : α → Eval β} (h : Settled bound depth x y)
    (hfg : ∀ result, Settled bound depth (f result) (g result)) :
    Settled bound depth (x >>= f) (y >>= g) := by
  intro context hmax hdepth
  obtain ⟨hsame, hexhausted, hmax', hdepth'⟩ := h context hmax hdepth
  cases hx : x context with
  | mk outcome after =>
    have hy : y context = (outcome, after) := hsame.symm.trans hx
    rw [hx] at hexhausted hmax' hdepth'
    cases outcome with
    | done result =>
      rw [Eval.bind_done hx, Eval.bind_done hy]
      exact hfg result after hmax' hdepth'
    | failed error =>
      rw [Eval.bind_failed hx, Eval.bind_failed hy]
      exact ⟨rfl, by rintro ⟨⟩, hmax', hdepth'⟩
    | faulted fault =>
      rw [Eval.bind_faulted hx, Eval.bind_faulted hy]
      exact ⟨rfl, by rintro ⟨⟩, hmax', hdepth'⟩
    | exhausted => exact absurd rfl hexhausted

theorem stamp {x y : Eval α} (location : Option Data) (h : Settled bound depth x y) :
    Settled bound depth (Effects.stamp location x) (Effects.stamp location y) := by
  intro context hmax hdepth
  obtain ⟨hsame, hexhausted, hmax', hdepth'⟩ := h context hmax hdepth
  show SettledRun bound depth (Eval.stamp location x context) (Eval.stamp location y context)
  unfold Eval.stamp
  rw [← hsame]
  cases hx : x context with
  | mk outcome after =>
    rw [hx] at hexhausted hmax' hdepth'
    cases outcome with
    | failed error => exact ⟨rfl, by rintro ⟨⟩, hmax', hdepth'⟩
    | _ => exact ⟨rfl, hexhausted, hmax', hdepth'⟩

theorem trace (message : String) :
    Settled bound depth (Effects.trace message) (Effects.trace message) := by
  intro context hmax hdepth
  have hmax' : (context.trace message).maxDepth = some (.int bound) := by
    rw [← hmax]
    exact (context.settings_apply (.traced message)).2.2
  have hdepth' : (context.trace message).depth = depth := by
    rw [← hdepth]
    exact context.depth_trace message
  exact ⟨rfl, by rintro ⟨⟩, hmax', hdepth'⟩

theorem traceWith (message : Except Fault String) :
    Settled bound depth (Effects.traceWith message) (Effects.traceWith message) := by
  intro context hmax hdepth
  show SettledRun bound depth (Eval.traceWith message context) (Eval.traceWith message context)
  unfold Eval.traceWith
  by_cases hdebug : context.debug = true
  · rw [if_pos hdebug]
    cases message with
    | ok text => exact trace text context hmax hdepth
    | error fault => exact ⟨rfl, by rintro ⟨⟩, hmax, hdepth⟩
  · rw [if_neg hdebug]
    exact ⟨rfl, by rintro ⟨⟩, hmax, hdepth⟩

/-- A call is refused at the limit, and below it its body is run one deeper. -/
theorem inCall {x y : Eval α} (h : depth < bound → Settled bound (depth + 1) x y) :
    Settled bound depth (Effects.inCall x) (Effects.inCall y) := by
  intro context hmax hdepth
  have hpassed := Context.passed?_int hmax (context.depth + 1)
  by_cases hlt : depth < bound
  · rw [if_neg (by omega)] at hpassed
    have henter : context.enter.depth = depth + 1 := by rw [← hdepth]; rfl
    obtain ⟨hsame, hexhausted, hmax', hdepth'⟩ := h hlt context.enter hmax henter
    have hleave : (x context.enter).2.leave.depth = depth := by
      simp only [Context.leave, hdepth']
      omega
    rw [Eval.inCall_entered hpassed, Eval.inCall_entered hpassed, ← hsame]
    exact ⟨rfl, hexhausted, hmax', hleave⟩
  · rw [if_pos (by omega)] at hpassed
    rw [Eval.inCall_refused hpassed, Eval.inCall_refused hpassed]
    exact ⟨rfl, by rintro ⟨⟩, hmax, hdepth⟩

/-- Every operation settles. -/
def simulation (bound depth : Int) : Simulation Eval Eval where
  rel := Settled bound depth
  pure _ := fun _ hmax hdepth => ⟨rfl, by rintro ⟨⟩, hmax, hdepth⟩
  bind := bind
  fail _ := fun _ hmax hdepth => ⟨rfl, by rintro ⟨⟩, hmax, hdepth⟩
  fault _ := fun _ hmax hdepth => ⟨rfl, by rintro ⟨⟩, hmax, hdepth⟩
  emit _ := fun _ hmax hdepth => ⟨rfl, by rintro ⟨⟩, hmax, hdepth⟩
  trace := trace
  traceWith := traceWith
  stamp := stamp

end Eval.Settled

/-! ## runs under a limit -/

/-- Everything, but an exhausted stack only with the limit on the call depth. -/
def Judgement.stackLimit (bound : Int) : Judgement where
  term _ _ := True
  value _ := True
  cause cause := cause.name = "StackExhausted" → cause = .stackExhausted (.int bound)
  fault _ := True
  bool _ := trivial
  int _ := trivial
  string _ := trivial
  part _ _ := trivial
  next _ _ := trivial
  found _ _ := trivial
  function _ := trivial
  body _ _ _ _ := trivial
  ofValues h := by
    intro hname
    cases h <;> simp [Cause.name] at hname
  unbound _ hlookup := by
    obtain ⟨-, rfl⟩ := Env.lookup_eq_error_iff.mp hlookup
    intro hname
    simp [Cause.name] at hname
  malformed _ _ := trivial
  unbindable _ _ _ := trivial
  untold _ _ _ := trivial

theorem Judgement.stackLimit_allows {bound : Int} {context : Context}
    (hmax : context.maxDepth = some (.int bound)) : (stackLimit bound).Allows context := by
  constructor
  · intro depth limit hpassed _
    rw [Context.passed?_int hmax] at hpassed
    by_cases hlt : bound < depth
    · rw [if_pos hlt] at hpassed
      cases hpassed
      rfl
    · rw [if_neg hlt] at hpassed
      cases hpassed
  · intro depth fault _
    trivial

namespace Term

/-- A machine that can follow all calls up to the limit does not cut any of them off. -/
theorem settled_evalIn {bound depth : Int} {limit : Nat} (hlimit : bound - depth ≤ limit)
    (term : Term) (env : Env) :
    Eval.Settled bound depth (term.evalIn Eval limit env) (term.evalWithin bound depth env) := by
  induction limit generalizing depth term env with
  | zero =>
    -- No call is left: whatever body the machine would not follow is not run either.
    rw [evalWithin]
    apply (Eval.Settled.simulation bound depth).evalWith _ term env
    intro body env
    apply Eval.Settled.inCall
    intro hlt
    omega
  | succ limit ih =>
    rw [evalWithin]
    apply (Eval.Settled.simulation bound depth).evalWith _ term env
    intro body env
    apply Eval.Settled.inCall
    intro hlt
    rw [if_pos hlt]
    exact ih (by omega) body env

variable {bound : Int} {context : Context} {limit : Nat}

theorem eval_eq_evalWithin (hmax : context.maxDepth = some (.int bound))
    (hlimit : bound - context.depth ≤ limit) (term : Term) (env : Env) :
    term.eval limit env context = term.evalWithin bound context.depth env context ∧
      (term.eval limit env context).1 ≠ .exhausted := by
  obtain ⟨hsame, hexhausted, -⟩ := term.settled_evalIn hlimit env context hmax rfl
  exact ⟨hsame, hexhausted⟩

/-- At every moment of a run there are at most as many calls counted in and not out as are left up
to the limit. -/
theorem calls_le_of_prefix (hmax : context.maxDepth = some (.int bound)) (limit : Nat) (term : Term)
    (env : Env) {past : List Event} (hpast : past <+: (term.evalIn Logged limit env context).2) :
    (past.count .entered : Int) - past.count .left ≤ max 0 (bound - context.depth) := by
  have hallowed := (term.orderly_evalIn limit env context).depth_allowed rfl hpast
  have hle := Context.le_max_of_admits hmax hallowed
  rw [Context.depth_after] at hle
  omega

/-- A limit on the call depth makes every evaluation end.

In a context under the limit `bound`, all machines that can follow the calls that are left up to the
limit

* do what the recursion on these calls and on the term does (`Term.evalWithin`),
* so none of them is exhausted, and every error that tells an exhausted stack tells the limit.

On every machine there are, at every moment of a run, at most as many calls inside each other as are
left up to the limit when it begins. -/
theorem ends_under_limit (term : Term) (env : Env) (hmax : context.maxDepth = some (.int bound)) :
    (∀ limit : Nat, bound - context.depth ≤ limit →
      ∀ run ∈ [term.eval limit env, term.evalRoot limit env],
        run context = term.evalWithin bound context.depth env context ∧
        (run context).1 ≠ .exhausted ∧
        (∀ error, (run context).1 = .failed error → error.cause.name = "StackExhausted" →
          error.cause = .stackExhausted (.int bound))) ∧
    ∀ limit past, past <+: (term.evalIn Logged limit env context).2 →
      (past.count .entered : Int) - past.count .left ≤ max 0 (bound - context.depth) := by
  refine ⟨fun limit hlimit run hrun => ?_, fun limit past => term.calls_le_of_prefix hmax limit env⟩
  obtain ⟨hsame, hexhausted⟩ := term.eval_eq_evalWithin hmax hlimit env
  have heval : run context = term.eval limit env context := by
    obtain rfl | rfl := List.mem_pair.mp hrun
    · rfl
    · exact evalRoot_of_ne_exhausted hexhausted
  rw [heval]
  refine ⟨hsame, hexhausted, fun error herror => ?_⟩
  have hterm : (Judgement.stackLimit bound).term term env := trivial
  have hends := (Judgement.stackLimit bound).ends_eval limit hterm
    (Judgement.stackLimit_allows hmax)
  rw [herror] at hends
  cases hends with
  | failed hcause => exact hcause

/-- A function that calls itself for ever: `let f = fn (f) => f(f); f(f)`. -/
def selfCall : Term :=
  let f : Term := .var none (.ok (.text "f"))
  .letIn none (.ok (.text "f")) (.function none (.ok [.text "f"]) (.call none f [f]))
    (.call none f [f])

/-- Under the limit 2 it is refused the third call, when two are inside each other. -/
theorem ends_under_limit_selfCall :
    let context := Context.new .collector false (some (.int 2))
    let past := (selfCall.evalIn Logged 2 .empty context).2.take 10
    context.maxDepth = some (.int 2) ∧ (2 : Int) - context.depth ≤ (2 : Nat) ∧
      selfCall.evalRoot 2 .empty context = selfCall.evalWithin 2 0 .empty context ∧
      (∃ error, (selfCall.evalRoot 2 .empty context).1 = .failed error ∧
        error.cause.name = "StackExhausted" ∧ error.cause = .stackExhausted (.int 2)) ∧
      past <+: (selfCall.evalIn Logged 2 .empty context).2 ∧ past.count .entered = 2 ∧
      (past.count .entered : Int) - past.count .left ≤ max 0 (2 - context.depth) := by
  intro context past
  have hmax : context.maxDepth = some (.int 2) := rfl
  have hlimit : (2 : Int) - context.depth ≤ (2 : Nat) := by decide
  have hpast : past <+: (selfCall.evalIn Logged 2 .empty context).2 := List.take_prefix _ _
  obtain ⟨hruns, hcalls⟩ := ends_under_limit selfCall .empty hmax
  obtain ⟨hsame, -, herrors⟩ := hruns 2 hlimit _ (.tail _ (.head _))
  have hdeep : ∃ depth ∈ selfCall.callDepths 2 .empty context, 2 < depth := by decide +kernel
  obtain ⟨location, hrefused⟩ := (selfCall.threshold_evalRoot 2 .empty context).refused 2 hdeep
  exact ⟨hmax, hlimit, hsame, ⟨_, hrefused, rfl, herrors _ hrefused rfl⟩, hpast,
    by decide +kernel, hcalls 2 past hpast⟩

end Term

end Rinha
