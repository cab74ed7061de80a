import Rinha.Proofs.Judgement

/-!
# Rinha.Proofs.WellFormed

Well-formed terms, values and environments.  A term is well-formed if it is one of the ten kinds,
every part of it can be read, its names are texts and its subterms are well-formed.  A value is so
if it is of one of the language's own kinds; a function has texts for parameters, a well-formed body
and well-formed values captured, and so on inside those.

What a call does with well-formed parts meets no fault:

* `Env.WellFormed.bindAll` — parameters can be bound;
* `Value.WellFormed.callMessage` — calls can be told in a trace.
-/

namespace Rinha

/-- A term of the language with nothing malformed in it. -/
inductive Term.WellFormed : Term → Prop where
  | bool {location : Location} {b : Bool} : WellFormed (.bool location (.ok b))
  | int {location : Location} {n : Int} : WellFormed (.int location (.ok n))
  | string {location : Location} {s : String} : WellFormed (.string location (.ok s))
  | var {location : Location} {name : String} : WellFormed (.var location (.ok (.text name)))
  | function {location : Location} {parameters : List String} {body : Term} :
    body.WellFormed → WellFormed (.function location (.ok (parameters.map .text)) body)
  | call {location : Location} {callee : Term} {arguments : List Term} :
    callee.WellFormed → (∀ argument ∈ arguments, argument.WellFormed) →
      WellFormed (.call location callee arguments)
  | binary {location : Location} {op : BinaryOp} {lhs rhs : Term} :
    lhs.WellFormed → rhs.WellFormed → WellFormed (.binary location (.ok op) lhs rhs)
  | letIn {location : Location} {name : String} {value next : Term} :
    value.WellFormed → next.WellFormed →
      WellFormed (.letIn location (.ok (.text name)) value next)
  | ifElse {location : Location} {condition consequent alternative : Term} :
    condition.WellFormed → consequent.WellFormed → alternative.WellFormed →
      WellFormed (.ifElse location condition consequent alternative)
  | print {location : Location} {value : Term} :
    value.WellFormed → WellFormed (.print location value)

mutual

/-- A value of the language with nothing malformed in it. -/
inductive Value.WellFormed : Value → Prop where
  | bool {b : Bool} : Value.WellFormed (.bool b)
  | int {n : Int} : Value.WellFormed (.int n)
  | string {s : String} : Value.WellFormed (.string s)
  | closure {parameters : List String} {body : Term} {env : Env} :
    body.WellFormed → Env.WellFormed env →
      Value.WellFormed (.closure (parameters.map .text) body env)

/-- An environment of well-formed values. -/
inductive Env.WellFormed : Env → Prop where
  | empty : Env.WellFormed .empty
  | binding {name : Name} {value : Value} {rest : Env} :
    Value.WellFormed value → Env.WellFormed rest → Env.WellFormed (.binding name value rest)

end

/-! ## terms -/

namespace Term.WellFormed

variable {whole inner : Term}

theorem part (h : whole.WellFormed) (hembeds : whole.Embeds inner) : inner.WellFormed := by
  cases hembeds with
  | argument hmem => cases h with | call _ harguments => exact harguments _ hmem
  | _ => cases h; assumption

theorem not_malformed (h : whole.WellFormed) {fault : Fault} : ¬ whole.Malformed fault := by
  intro hmalformed
  cases hmalformed <;> cases h

end Term.WellFormed

/-! ## environments -/

namespace Env.WellFormed

theorem lookup? {env : Env} {name : Name} {value : Value} (h : env.WellFormed)
    (hlookup : env.lookup? name = some value) : value.WellFormed := by
  match env with
  | .empty => cases hlookup
  | .binding bound old rest =>
    cases h with
    | binding hold hrest =>
      rw [Env.lookup?] at hlookup
      split at hlookup
      · cases hlookup
        exact hold
      · exact hrest.lookup? hlookup

theorem bind {env : Env} {name : Name} {value : Value} (h : env.WellFormed)
    (hvalue : value.WellFormed) : (env.bind name value).WellFormed := by
  match env with
  | .empty => exact .binding hvalue .empty
  | .binding bound old rest =>
    cases h with
    | binding hold hrest =>
      rw [Env.bind]
      split
      · exact .binding hvalue hrest
      · exact .binding hold (hrest.bind hvalue)

/-- Parameters of a well-formed function can be bound to well-formed arguments. -/
theorem bindAll {env : Env} (h : env.WellFormed) (parameters : List String)
    {arguments : List Value} (hvalues : ∀ value ∈ arguments, value.WellFormed) :
    ∃ result, env.bindAll (parameters.map .text) arguments = .ok result ∧ result.WellFormed := by
  induction parameters generalizing env arguments with
  | nil => exact ⟨env, rfl, h⟩
  | cons parameter parameters ih =>
    cases arguments with
    | nil => exact ⟨env, rfl, h⟩
    | cons value arguments =>
      rw [List.forall_mem_cons] at hvalues
      exact ih (h.bind hvalues.1) hvalues.2

end Env.WellFormed

/-! ## values -/

namespace Value

/-- A function with texts for parameters can be shown. -/
theorem display_closure_texts (names : List String) (body : Term) (env : Env) :
    ∃ text, (closure (names.map .text) body env).display = .ok text := by
  have hnames : (names.map Data.text).mapM displayParameter = .ok names := by
    induction names with
    | nil => rfl
    | cons name names ih => rw [List.map_cons, List.mapM_cons, ih]; rfl
  exact ⟨_, by rw [display, hnames]; rfl⟩

/-- A value can be shown if it is no function, or one with texts for parameters. -/
theorem display_of_texts {value : Value}
    (h : ∀ parameters body env, value = closure parameters body env →
      ∃ names : List String, parameters = names.map .text) :
    ∃ text, value.display = .ok text := by
  cases value with
  | bool b => cases b <;> exact ⟨_, rfl⟩
  | int n => exact ⟨_, rfl⟩
  | string s => exact ⟨_, rfl⟩
  | closure parameters body env =>
    obtain ⟨names, rfl⟩ := h parameters body env rfl
    exact display_closure_texts names body env
  | foreign kind content => exact ⟨_, rfl⟩

/-- A call can be told if its function and its arguments can be shown. -/
theorem callMessage_of_display {callee : Value} {arguments : List Value}
    (hcallee : ∃ text, callee.display = .ok text)
    (harguments : ∀ argument ∈ arguments, ∃ text, argument.display = .ok text) :
    ∃ message, Effects.callMessage callee arguments = .ok message := by
  obtain ⟨function, hfunction⟩ := hcallee
  have hshown : ∃ shown, arguments.mapM display = .ok shown := by
    induction arguments with
    | nil => exact ⟨[], rfl⟩
    | cons value arguments ih =>
      rw [List.forall_mem_cons] at harguments
      obtain ⟨text, htext⟩ := harguments.1
      obtain ⟨shown, hshown⟩ := ih harguments.2
      exact ⟨text :: shown, by rw [List.mapM_cons, htext, hshown]; rfl⟩
  obtain ⟨shown, hshown⟩ := hshown
  exact ⟨_, by rw [Effects.callMessage, hfunction, hshown]; rfl⟩

namespace WellFormed

theorem display {value : Value} (h : value.WellFormed) : ∃ text, value.display = .ok text := by
  refine display_of_texts fun parameters body env heq => ?_
  subst heq
  cases h with
  | closure _ _ => exact ⟨_, rfl⟩

/-- The call of a well-formed function with well-formed arguments can be told. -/
theorem callMessage {callee : Value} {arguments : List Value} (hcallee : callee.WellFormed)
    (h : ∀ value ∈ arguments, value.WellFormed) :
    ∃ message, Effects.callMessage callee arguments = .ok message :=
  callMessage_of_display hcallee.display fun argument hmem => (h argument hmem).display

end WellFormed

end Value

end Rinha
