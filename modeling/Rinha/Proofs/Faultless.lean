import Rinha.Program
import Rinha.Term.Build
import Rinha.Proofs.ErrorLocation
import Rinha.Proofs.Safety
import Rinha.Proofs.TermShape

/-!
# Rinha.Proofs.Faultless

Well-formed programs end in a value or in an error of the language.  A run of a well-formed term is
safe (`Term.safe_evalIn`); what is added here is which errors there are, and where well-formed terms
come from:

* `Term.class_mem_of_eval_failed` — every error of a run, of a malformed term as well, is of one of
  six classes;
* `Build.Composed.isTerm` — what the builders of terms give, one applied to what others gave, is in
  the shape of a term;
* `Term.wellFormed_run_faultless` — both together, for the runs of well-formed terms.
-/

namespace Rinha

/-! ## classes of errors -/

/-- The classes of errors that programs can end in. -/
def Cause.classes : List String :=
  ["UnboundVariable", "TypeMismatch", "UnsupportedOperation", "MissingArgument", "DivisionByZero",
    "StackExhausted"]

theorem BinaryOp.Refuses.class_mem {op : BinaryOp} {lhs rhs : Value} {cause : Cause}
    (h : op.Refuses lhs rhs cause) : cause.name ∈ Cause.classes := by
  cases h with
  | mismatch _ hmismatch => cases hmismatch <;> simp [Cause.name, Cause.classes]
  | zero _ => simp [Cause.name, Cause.classes]
  | incomparable _ _ => simp [Cause.name, Cause.classes]

namespace Term

theorem Raises.class_mem {term : Term} {cause : Cause} (h : term.Raises cause) :
    cause.name ∈ Cause.classes := by
  cases h with
  | refused hrefuses => exact hrefuses.class_mem
  | _ => simp [Cause.name, Cause.classes, Value.mismatch]

theorem Leads.class_mem {term : Term} {cause : Cause} {path : List Term}
    (h : term.Leads cause path) : cause.name ∈ Cause.classes := by
  induction h with
  | here hraises => exact hraises.class_mem
  | into _ _ ih => exact ih

/-- Every error of a run is of one of the six classes. -/
theorem class_mem_of_eval_failed {limit : Nat} {term : Term} {env : Env} {context after : Context}
    {error : Error} (h : term.eval limit env context = (.failed error, after)) :
    error.cause.name ∈ Cause.classes := by
  obtain ⟨path, hpath, -⟩ := leads_of_eval_failed h
  exact hpath.class_mem

end Term

/-! ## builders -/

namespace Build

/-- What builders of terms give, one applied to what others gave before: names are texts, operators
are among the fourteen, and payloads are of the kind of their literal or can be turned into it. -/
inductive Composed : Except Fault Data → Prop where
  | bool {value place} : Composed (.ok (Build.bool value place))
  | int {value place n} : value.toInt = .ok n → Composed (Build.int value place)
  | string {value place} : Composed (.ok (Build.string value place))
  | var {name place} : Composed (.ok (Build.var (.text name) place))
  | function {parameters body place} {names : List String} :
    parameters.items = .ok (names.map .text) → Composed (.ok body) →
      Composed (Build.function parameters body place)
  | call {callee arguments place items} :
    Composed (.ok callee) → arguments.items = .ok items →
      (∀ argument ∈ items, Composed (.ok argument)) → Composed (Build.call callee arguments place)
  | binary {lhs rhs place} {op : BinaryOp} :
    Composed (.ok lhs) → Composed (.ok rhs) → Composed (Build.binary (.text op.name) lhs rhs place)
  | letIn {name value next place} :
    Composed (.ok value) → Composed (.ok next) →
      Composed (.ok (Build.letIn (.text name) value next place))
  | ifElse {condition consequent alternative place} :
    Composed (.ok condition) → Composed (.ok consequent) → Composed (.ok alternative) →
      Composed (.ok (Build.ifElse condition consequent alternative place))
  | print {value place} : Composed (.ok value) → Composed (.ok (Build.print value place))

theorem gives_name (name : String) (place : Option Data) :
    (Build.name (.text name) place).Gives name := rfl

theorem forall₂_gives_name (names : List String) (place : Option Data) :
    List.Forall₂ Data.Gives ((names.map Data.text).map fun text => Build.name text place)
      names := by
  induction names with
  | nil => exact .nil
  | cons name names ih => exact .cons (gives_name name place) ih

/-- Builders give terms, which are in the shape of a term. -/
theorem Composed.isTerm {built : Except Fault Data} (h : Composed built) :
    ∃ data, built = .ok data ∧ data.IsTerm := by
  have hpart {data : Data} (h : ∃ other, Except.ok data = (.ok other : Except Fault Data) ∧
      other.IsTerm) : data.IsTerm := by
    obtain ⟨other, hother, hterm⟩ := h
    cases hother
    exact hterm
  induction h with
  | bool => exact ⟨_, rfl, .bool rfl rfl⟩
  | int hvalue =>
    refine ⟨_, by rw [Build.int, hvalue]; rfl, ?_⟩
    exact .int rfl rfl
  | string => exact ⟨_, rfl, .string rfl rfl⟩
  | var => exact ⟨_, rfl, .var rfl rfl⟩
  | function hparameters _ ih =>
    refine ⟨_, by rw [Build.function, hparameters]; rfl, ?_⟩
    exact .function rfl rfl (forall₂_gives_name _ none) rfl (hpart ih)
  | call _ hitems _ ihcallee iharguments =>
    refine ⟨_, by rw [Build.call, hitems]; rfl, ?_⟩
    exact .call rfl rfl (hpart ihcallee) rfl fun argument hmem => hpart (iharguments argument hmem)
  | binary _ _ ihlhs ihrhs =>
    refine ⟨_, Build.binary_name _ _ _ _, ?_⟩
    exact .binary rfl rfl rfl (hpart ihlhs) rfl (hpart ihrhs)
  | letIn _ _ ihvalue ihnext =>
    exact ⟨_, rfl, .letIn rfl rfl (gives_name _ none) rfl (hpart ihvalue) rfl (hpart ihnext)⟩
  | ifElse _ _ _ ihcondition ihconsequent ihalternative =>
    exact ⟨_, rfl,
      .ifElse rfl rfl (hpart ihcondition) rfl (hpart ihconsequent) rfl (hpart ihalternative)⟩
  | print _ ih => exact ⟨_, rfl, .print rfl rfl (hpart ih)⟩

end Build

/-! ## runs of well-formed terms -/

namespace Term

/-- Well-formed programs meet no fault.

* In a context whose limit on the call depth, if there is one, is a number, the run of a well-formed
  term in a well-formed environment ends in a well-formed value or in an error of one of the six
  classes.  A run that the machine cannot follow is among the errors.
* Whatever the builders of terms give, one applied to what others gave, is read as a well-formed
  term, and so is all data in the shape of a term.
* So is the root term of a program that is built around such data. -/
theorem wellFormed_run_faultless (limit : Nat) :
    (∀ (term : Term) (env : Env) (context : Context), term.WellFormed → env.WellFormed →
      (∀ bound ∈ context.maxDepth, ∃ n, bound.toNumber = .ok n) →
      (∃ value, (term.evalRoot limit env context).1 = .done value ∧ value.WellFormed) ∨
      ∃ error, (term.evalRoot limit env context).1 = .failed error ∧
        error.cause.name ∈ Cause.classes) ∧
    (∀ built, Build.Composed built → ∃ data, built = .ok data ∧ (ofData data).WellFormed) ∧
    (∀ data : Data, data.IsTerm → (ofData data).WellFormed) ∧
    ∀ (data name : Data) (place : Option Data), data.IsTerm →
      ∃ program, Program.ofData (Build.program data name place) = .ok program ∧
        program.name = name ∧ program.expression.WellFormed := by
  refine ⟨fun term env context hterm henv hnumber => ?_, fun built hbuilt => ?_,
    fun data hdata => wellFormed_ofData hdata, fun data name place hdata => ?_⟩
  · have hsafe := term.safe_evalIn limit hterm henv context (Context.countable_iff.mpr hnumber)
    have hlogged := term.eval_eq_logged limit env context
    rcases hrun : term.eval limit env context with ⟨outcome, after⟩
    rw [hrun, Prod.mk.injEq] at hlogged
    rw [← hlogged.1] at hsafe
    cases hsafe with
    | done hvalue => exact .inl ⟨_, by rw [evalRoot, hrun], hvalue⟩
    | failed => exact .inr ⟨_, by rw [evalRoot, hrun], class_mem_of_eval_failed hrun⟩
    | exhausted =>
      exact .inr ⟨_, by rw [evalRoot_of_exhausted hrun], by simp [Cause.name, Cause.classes]⟩
  · obtain ⟨data, rfl, hdata⟩ := hbuilt.isTerm
    exact ⟨data, rfl, wellFormed_ofData hdata⟩
  · exact ⟨⟨name, ofData data⟩, rfl, rfl, wellFormed_ofData hdata⟩

/-- The call `f(7)` as the builders give it, with the payload given as a text. -/
def builtCall : Except Fault Data := do
  let argument ← Build.int (.text " 7 ") none
  Build.call (Build.var (.text "f") none) (.list [argument]) none

/-- The call divides by a name that is captured, under the limit 1, and all of its parts are
well-formed. -/
theorem wellFormed_run_faultless_builtCall :
    let body : Term :=
      .binary none (.ok .div) (.var none (.ok (.text "n"))) (.var none (.ok (.text "k")))
    let divide : Value := .closure [.text "n"] body (Env.empty.bind (.text "k") (.int 0))
    let env := Env.empty.bind (.text "f") divide
    let context := Context.new .collector true (some (.int 1))
    ∃ data, builtCall = .ok data ∧ Build.Composed builtCall ∧ data.IsTerm ∧
      (ofData data).WellFormed ∧ env.WellFormed ∧
      (∀ bound ∈ context.maxDepth, ∃ n, bound.toNumber = .ok n) ∧
      ((∃ value, ((ofData data).evalRoot 2 env context).1 = .done value ∧ value.WellFormed) ∨
        ∃ error, ((ofData data).evalRoot 2 env context).1 = .failed error ∧
          error.cause.name ∈ Cause.classes) ∧
      ∃ program, Program.ofData (Build.program data (.text "main") none) = .ok program ∧
        program.name = .text "main" ∧ program.expression.WellFormed := by
  intro body divide env context
  have hargument : (Data.text " 7 ").toInt = .ok 7 := by decide +kernel
  have hint : ∃ argument, Build.int (.text " 7 ") none = .ok argument :=
    ⟨_, by rw [Build.int, hargument]; rfl⟩
  obtain ⟨argument, hint⟩ := hint
  have hbuilt : builtCall = Build.call (Build.var (.text "f") none) (.list [argument]) none := by
    rw [builtCall, hint]
    rfl
  have hcomposed : Build.Composed builtCall := by
    rw [hbuilt]
    refine .call .var rfl fun other hmem => ?_
    rw [List.mem_singleton.mp hmem, ← hint]
    exact .int hargument
  have henv : env.WellFormed := by
    have hdivide : divide.WellFormed :=
      @Value.WellFormed.closure ["n"] _ _ (.binary .var .var) (.binding .int .empty)
    exact .binding hdivide .empty
  have hnumber : ∀ bound ∈ context.maxDepth, ∃ n, bound.toNumber = .ok n := by
    rintro bound ⟨⟩
    exact ⟨.int 1, rfl⟩
  obtain ⟨hrun, hread, -, hprogram⟩ := wellFormed_run_faultless 2
  obtain ⟨data, hdata, hterm⟩ := hread builtCall hcomposed
  obtain ⟨other, hother, hshape⟩ := hcomposed.isTerm
  obtain rfl : data = other := by
    rw [hdata] at hother
    cases hother
    rfl
  exact ⟨data, hdata, hcomposed, hshape, hterm, henv, hnumber, hrun _ _ _ hterm henv hnumber,
    hprogram data _ _ hshape⟩

end Term

end Rinha
