import Rinha.Proofs.Endings
import Rinha.Proofs.Everywhere
import Rinha.Proofs.FreeNames

/-!
# Rinha.Proofs.WellScoped

Scope is sound: a variable that a run does not find is a free name of its term that the environment
does not bind, however far from there the run has got (`Term.unbound_is_free`).

A function is well-scoped if each free name of its body is a parameter or bound where the function
was made (`Closure.WellScoped`).  Not all functions of a run are, since a term with an unbound free
name may put it into the body of a function and call that somewhere else.  What a run keeps is
scope up to some names that are left loose (`Closure.ScopedUpTo`); the theorem takes for them the
free names of the whole term that are not bound.
-/

namespace Rinha

/-! ## names that are bound -/

/-- An environment binds a name. -/
def Env.Binds (env : Env) (name : Name) : Prop :=
  (env.lookup? name).isSome

namespace Env

variable {env result : Env} {name other : Name} {value : Value}

instance : Decidable (env.Binds name) :=
  inferInstanceAs (Decidable (_ = true))

theorem not_binds_iff : ¬ env.Binds name ↔ env.lookup? name = none := by
  simp [Binds]

theorem binds_bind_iff :
    (env.bind name value).Binds other ↔ sameName name other = true ∨ env.Binds other := by
  by_cases hsame : sameName name other = true <;> simp [Binds, lookup?_bind, hsame]

/-- Parameters that all have arguments are bound afterwards, and so is what was bound before. -/
theorem binds_bindAll_iff {parameters : List Data} {arguments : List Value}
    (hle : parameters.length ≤ arguments.length)
    (hbind : env.bindAll parameters arguments = .ok result) :
    result.Binds other ↔
      (∃ parameter ∈ parameters, parameter.names other = true) ∨ env.Binds other := by
  induction parameters generalizing env arguments with
  | nil => cases hbind; simp
  | cons parameter parameters ih =>
    cases arguments with
    | nil => simp at hle
    | cons value arguments =>
      have hle' : parameters.length ≤ arguments.length := by simpa using hle
      cases parameter with
      | scalar name =>
        have hname : (Data.scalar name).names other = sameName name other := rfl
        rw [ih hle' hbind, binds_bind_iff]
        simp only [List.mem_cons, exists_eq_or_imp, hname]
        rw [or_left_comm, or_assoc]
      | list items => cases hbind
      | object fields => cases hbind

end Env

/-! ## functions in scope -/

/-- Each free name of the body is a parameter, or bound where the function was made, or loose. -/
def Closure.ScopedUpTo (loose : Name → Prop) (closure : Closure) : Prop :=
  ∀ name ∈ closure.body.free,
    (∃ parameter ∈ closure.parameters, parameter.names name = true) ∨
      closure.env.Binds name ∨ loose name

/-- Each free name of the body is a parameter or bound where the function was made. -/
def Closure.WellScoped (closure : Closure) : Prop :=
  ∀ name ∈ closure.body.free,
    (∃ parameter ∈ closure.parameters, parameter.names name = true) ∨ closure.env.Binds name

/-- All functions in a value, captured ones included, are well-scoped. -/
def Value.WellScoped (value : Value) : Prop :=
  value.Everywhere Closure.WellScoped

/-- All functions in an environment, captured ones included, are well-scoped. -/
def Env.WellScoped (env : Env) : Prop :=
  env.Everywhere Closure.WellScoped

theorem Closure.WellScoped.upTo {closure : Closure} (h : closure.WellScoped)
    (loose : Name → Prop) : closure.ScopedUpTo loose := by
  intro name hname
  obtain hparameter | hbinds := h name hname
  · exact .inl hparameter
  · exact .inr (.inl hbinds)

/-- Where nothing is loose, scope is sound without exceptions. -/
theorem Closure.ScopedUpTo.wellScoped {closure : Closure} {loose : Name → Prop}
    (h : closure.ScopedUpTo loose) (hloose : ∀ name, ¬ loose name) : closure.WellScoped := by
  intro name hname
  obtain hparameter | hbinds | hname := h name hname
  · exact .inl hparameter
  · exact .inr hbinds
  · exact absurd hname (hloose name)

/-! ## what a run keeps -/

namespace Term

/-- The free names of a part that is evaluated in the same environment are free in the whole. -/
theorem Embeds.mem_free {whole inner : Term} (h : whole.Embeds inner) {name : Name}
    (hname : name ∈ inner.free) : name ∈ whole.free := by
  cases h with
  | callee => simp [free, hname]
  | argument hmem => exact List.mem_append_right _ (mem_freeAll.mpr ⟨inner, hmem, hname⟩)
  | lhs | rhs | condition | consequent | alternative | printed => simp [free, hname]
  | @value location bound => cases bound <;> simp [free, hname]

/-- Each free name of a term is bound or loose, and all functions in reach are scoped up to loose
names. -/
structure InScope (loose : Name → Prop) (term : Term) (env : Env) : Prop where
  binds : ∀ name ∈ term.free, env.Binds name ∨ loose name
  everywhere : env.Everywhere (Closure.ScopedUpTo loose)

namespace InScope

variable {loose : Name → Prop} {term : Term} {env : Env} {location : Location}

theorem part (h : term.InScope loose env) {inner : Term} (hembeds : term.Embeds inner) :
    inner.InScope loose env :=
  ⟨fun name hname => h.binds name (hembeds.mem_free hname), h.everywhere⟩

theorem next {name : Name} {bound next : Term} {value : Value}
    (h : (Term.letIn location (.ok name) bound next).InScope loose env)
    (hvalue : value.Everywhere (Closure.ScopedUpTo loose)) :
    next.InScope loose (env.bind name value) := by
  refine ⟨fun other hother => ?_, h.everywhere.bind name hvalue⟩
  rw [Env.binds_bind_iff]
  by_cases hsame : Env.sameName name other = true
  · exact .inl (.inl hsame)
  · have hbeyond : other ∈ beyond [.scalar name] next.free := by
      simp [mem_beyond, Data.names, hother, hsame]
    have hfree : other ∈ (Term.letIn location (.ok name) bound next).free := by
      simp [free, hbeyond]
    obtain hbinds | hloose := h.binds other hfree
    · exact .inl (.inr hbinds)
    · exact .inr hloose

theorem closure {parameters : List Data} {body : Term}
    (h : (Term.function location (.ok parameters) body).InScope loose env) :
    (Value.closure parameters body env).Everywhere (Closure.ScopedUpTo loose) := by
  refine ⟨fun name hname => ?_, h.everywhere⟩
  by_cases hparameter : ∃ parameter ∈ parameters, parameter.names name = true
  · exact .inl hparameter
  · have hfree : name ∈ (Term.function location (.ok parameters) body).free := by
      simpa [free, mem_beyond, hname] using hparameter
    exact .inr (h.binds name hfree)

theorem body {parameters : List Data} {body : Term} {captured : Env} {arguments : List Value}
    (h : (Value.closure parameters body captured).Everywhere (Closure.ScopedUpTo loose))
    (harguments : ∀ argument ∈ arguments, argument.Everywhere (Closure.ScopedUpTo loose))
    (hle : parameters.length ≤ arguments.length)
    (hbind : captured.bindAll parameters arguments = .ok env) : body.InScope loose env := by
  obtain ⟨hscoped, hcaptured⟩ := h
  refine ⟨fun name hname => ?_, hcaptured.bindAll harguments hbind⟩
  rw [Env.binds_bindAll_iff hle hbind, or_assoc]
  exact hscoped name hname

theorem loose_of_unbound {name : Name} (h : (Term.var location (.ok name)).InScope loose env)
    (hlookup : env.lookup? name = none) : loose name := by
  obtain hbinds | hloose := h.binds name (by simp [free])
  · exact absurd hbinds (Env.not_binds_iff.mpr hlookup)
  · exact hloose

end InScope

end Term

/-- Terms and values in scope up to loose names, which are all that is not found. -/
def Judgement.scope (loose : Name → Prop) : Judgement where
  term := Term.InScope loose
  value := Value.Everywhere (Closure.ScopedUpTo loose)
  cause cause := ∀ name, cause = .unboundVariable name → ∃ free, name = .scalar free ∧ loose free
  fault _ := True
  bool _ := trivial
  int _ := trivial
  string _ := trivial
  part h hembeds := h.part hembeds
  next h hvalue := h.next hvalue
  found h hlookup := h.everywhere.lookup? (Env.lookup_eq_ok_iff.mp hlookup)
  function h := h.closure
  body := Term.InScope.body
  ofValues h := by
    rintro name rfl
    cases h
  unbound h hlookup := by
    obtain ⟨hnone, rfl⟩ := Env.lookup_eq_error_iff.mp hlookup
    rintro _ ⟨⟩
    exact ⟨_, rfl, h.loose_of_unbound hnone⟩
  malformed _ _ := trivial
  unbindable _ _ _ := trivial
  untold _ _ _ := trivial

/-! ## scope is sound -/

namespace Term

variable {limit : Nat} {term : Term} {env : Env} {loose : Name → Prop}

/-- How a run in scope up to loose names ends, at the root as well. -/
theorem InScope.ends (h : term.InScope loose env) (context : Context) {run : Eval Value}
    (hrun : run ∈ [term.eval limit env, term.evalRoot limit env]) :
    (Judgement.scope loose).Ends (Value.Everywhere (Closure.ScopedUpTo loose))
      (run context).1 := by
  have hallows : (Judgement.scope loose).Allows context := by
    constructor
    · intro depth limit _ name hcause
      cases hcause
    · intro depth fault _
      trivial
  obtain rfl | rfl := List.mem_pair.mp hrun
  · exact (Judgement.scope loose).ends_eval limit h hallows
  · apply (Judgement.scope loose).ends_evalRoot _ limit h hallows
    intro deepest name hcause
    cases hcause

/-- A variable that a run does not find is a free name of the term that the environment does not
bind.  So if all free names of the term are bound, a run finds all variables, and the value that it
gives is well-scoped.

All that is supposed of the environment is that functions in it are well-scoped.  The term may be
malformed. -/
theorem unbound_is_free (limit : Nat) (term : Term) {env : Env} (henv : env.WellScoped)
    (context : Context) :
    ∀ run ∈ [term.eval limit env, term.evalRoot limit env],
      (∀ error name, (run context).1 = .failed error → error.cause = .unboundVariable name →
        ∃ free ∈ term.free, name = .scalar free ∧ ¬ env.Binds free) ∧
      ((∀ name ∈ term.free, env.Binds name) →
        (∀ error name, (run context).1 = .failed error → error.cause ≠ .unboundVariable name) ∧
        ∀ value, (run context).1 = .done value → value.WellScoped) := by
  intro run hrun
  constructor
  · intro error name herror hcause
    -- Loose are the free names of the term that are not bound, whatever is evaluated later.
    have hscope : term.InScope (fun name => name ∈ term.free ∧ ¬ env.Binds name) env :=
      ⟨fun name hname => by tauto, henv.mono fun _ h => h.upTo _⟩
    have hends := hscope.ends context hrun
    rw [herror] at hends
    cases hends with
    | failed hloose =>
      obtain ⟨free, rfl, hfree, hbinds⟩ := hloose name hcause
      exact ⟨free, hfree, rfl, hbinds⟩
  · intro hbound
    have hscope : term.InScope (fun _ => False) env :=
      ⟨fun name hname => .inl (hbound name hname), henv.mono fun _ h => h.upTo _⟩
    have hends := hscope.ends context hrun
    constructor
    · intro error name herror hcause
      rw [herror] at hends
      cases hends with
      | failed hloose =>
        obtain ⟨free, -, hfalse⟩ := hloose name hcause
        exact hfalse
    · intro value hvalue
      rw [hvalue] at hends
      cases hends with
      | done hscoped => exact hscoped.mono fun _ h => h.wellScoped fun _ hfalse => hfalse

/-- Where `f` adds what was bound to `k` where it was made: a function that uses `z`, which nothing
binds, fails when it is called, by that name; and a function that uses `f` is well-scoped. -/
theorem unbound_is_free_lateCall :
    let use (name : String) : Term := .var none (.ok (.text name))
    let adder : Value :=
      .closure [.text "x"] (.binary none (.ok .add) (use "x") (use "k"))
        (Env.empty.bind (.text "k") (.int 1))
    let env := Env.empty.bind (.text "f") adder
    let context := Context.new .collector false none
    let missing : Term := .letIn none (.ok (.text "g")) (.function none (.ok []) (use "z"))
      (.call none (use "g") [])
    let bound : Term := .letIn none (.ok (.text "g"))
      (.function none (.ok [.text "y"]) (.call none (use "f") [use "y"])) (use "g")
    env.WellScoped ∧
      (∃ error, (missing.eval 1 env context).1 = .failed error ∧
        error.cause = .unboundVariable (.text "z") ∧
        ∃ free ∈ missing.free, Data.text "z" = .scalar free ∧ ¬ env.Binds free) ∧
      (∀ name ∈ bound.free, env.Binds name) ∧
      ∃ value, (bound.evalRoot 0 env context).1 = .done value ∧ value.WellScoped := by
  intro use adder env context missing bound
  have henv : env.WellScoped := by
    refine ⟨⟨?_, trivial, trivial⟩, trivial⟩
    intro name hname
    have hnames : name = .text "x" ∨ name = .text "k" := by
      simpa [use, Term.free] using hname
    obtain rfl | rfl := hnames
    · exact .inl ⟨_, List.mem_singleton_self _, rfl⟩
    · exact .inr (by decide)
  have hbound : ∀ name ∈ bound.free, env.Binds name := by decide
  have hmissing := unbound_is_free 1 missing henv context _ (.head _)
  have hvalue := unbound_is_free 0 bound henv context _ (.tail _ (.head _))
  exact ⟨henv, ⟨_, rfl, rfl, hmissing.1 _ _ rfl rfl⟩, hbound, _, rfl, (hvalue.2 hbound).2 _ rfl⟩

end Term

end Rinha
