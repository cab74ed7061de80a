import Rinha.Proofs.Correspondence
import Rinha.Proofs.TermShape
import Mathlib.Logic.Function.Basic

/-!
# Rinha.Proofs.Renaming

Names matter only through equality.  If every name of a program is replaced by another text, and
different ones by different ones, then its run is the same but for these names: in functions that it
ends with, and in the errors that tell a name (`Term.run_renamed`).  Only a trace shows the names
themselves.

A program and its like under other names correspond (`Correspondence.otherNames`), so nothing is to
be shown here but that renaming commutes with reading terms (`Term.ofData_renames`) and with taking
values and environments apart.
-/

namespace Rinha

/-! ## programs under other names -/

/-- A name that is a text under its other text.  A name of another sort stays. -/
def Scalar.renamed (s : String → String) : Scalar → Scalar
  | .text name => .text (s name)
  | other => other

section

variable (rename : Name → Name)

namespace Term

mutual

/-- A term with its variables, lets and parameters under other names. -/
def renamed : Term → Term
  | hole fault => .hole fault
  | unknown location kind => .unknown location kind
  | bool location value => .bool location value
  | int location value => .int location value
  | string location value => .string location value
  | var location name => .var location (rename <$> name)
  | function location parameters body =>
    .function location (List.map (Data.renamed rename) <$> parameters) body.renamed
  | call location callee arguments => .call location callee.renamed (renamedAll arguments)
  | binary location op lhs rhs => .binary location op lhs.renamed rhs.renamed
  | letIn location name value next => .letIn location (rename <$> name) value.renamed next.renamed
  | ifElse location condition consequent alternative =>
    .ifElse location condition.renamed consequent.renamed alternative.renamed
  | print location value => .print location value.renamed

/-- Terms under other names. -/
def renamedAll : List Term → List Term
  | [] => []
  | term :: rest => term.renamed :: renamedAll rest

end

theorem renamedAll_eq_map (terms : List Term) :
    renamedAll rename terms = terms.map (renamed rename) := by
  induction terms with
  | nil => rfl
  | cons term rest ih => simp [renamedAll, ih]

end Term

mutual

/-- A value with the functions in it under other names. -/
def Value.renamed : Value → Value
  | .closure parameters body env =>
    .closure (parameters.map (Data.renamed rename)) (body.renamed rename) env.renamed
  | .bool b => .bool b
  | .int n => .int n
  | .string s => .string s
  | .foreign kind content => .foreign kind content

/-- An environment under other names. -/
def Env.renamed : Env → Env
  | .empty => .empty
  | .binding name value rest => .binding (rename name) value.renamed rest.renamed

end

/-- An outcome with its value, or the name that its error tells, under other names. -/
def Outcome.renamed : Outcome Value → Outcome Value
  | .done value => .done (value.renamed rename)
  | .failed error => .failed (error.renamed rename)
  | .faulted fault => .faulted fault
  | .exhausted => .exhausted

end

namespace Scalar

variable {s : String → String}

theorem renamed_injective (hs : s.Injective) : (Scalar.renamed s).Injective := by
  intro a b h
  cases a <;> cases b <;> simp_all [renamed, hs.eq_iff]

/-- Only texts are renamed, and they are all that a name of a text is compared by. -/
theorem key_renamed (name : Name) : (name.renamed s).key = name.key.renamed s := by
  cases name with
  | floating x =>
    simp only [renamed, key]
    split <;> rfl
  | _ => rfl

/-- Two other names are the same name if and only if the two names are. -/
theorem sameName_renamed (hs : s.Injective) (a b : Name) :
    Env.sameName (a.renamed s) (b.renamed s) = Env.sameName a b := by
  rw [Env.sameName, Env.sameName, key_renamed, key_renamed]
  exact decide_eq_decide.mpr (renamed_injective hs).eq_iff

end Scalar

/-! ## renaming is a correspondence -/

variable {rename : Name → Name}

/-- A term is matched by its like under other names. -/
theorem Term.matched_renamed (term : Term) :
    term.Matched rename (fun term term' => term.renamed rename = term') (term.renamed rename) := by
  cases term with
  | call location callee arguments =>
    refine .call rfl ?_
    rw [renamedAll_eq_map, List.forall₂_map_right_iff, List.forall₂_same]
    exact fun _ _ => rfl
  | _ => constructor <;> rfl

mutual

theorem Value.matched_renamed : (value : Value) →
    value.Matched rename (fun term term' => term.renamed rename = term') (value.renamed rename)
  | .bool _ => .bool
  | .int _ => .int
  | .string _ => .string
  | .foreign _ _ => .foreign
  | .closure _ _ env => .closure rfl env.matched_renamed

theorem Env.matched_renamed : (env : Env) →
    env.Matched rename (fun term term' => term.renamed rename = term') (env.renamed rename)
  | .empty => .empty
  | .binding _ value rest => .binding value.matched_renamed rest.matched_renamed

end

mutual

theorem Value.Matched.renamed_eq : {value value' : Value} →
    value.Matched rename (fun term term' => term.renamed rename = term') value' →
      value.renamed rename = value'
  | _, _, .bool => rfl
  | _, _, .int => rfl
  | _, _, .string => rfl
  | _, _, .foreign => rfl
  | _, _, .closure hbody henv => by rw [Value.renamed, hbody, henv.renamed_eq]

theorem Env.Matched.renamed_eq : {env env' : Env} →
    env.Matched rename (fun term term' => term.renamed rename = term') env' →
      env.renamed rename = env'
  | _, _, .empty => rfl
  | _, _, .binding hvalue hrest => by rw [Env.renamed, hvalue.renamed_eq, hrest.renamed_eq]

end

/-- Programs correspond to their likes under other names, with no fault excused. -/
def Correspondence.otherNames (s : String → String) (hs : s.Injective) : Correspondence where
  rename := Scalar.renamed s
  term term term' := term.renamed (Scalar.renamed s) = term'
  excused _ := False
  sameName_rename := Scalar.sameName_renamed hs
  matched h := .inr (h ▸ Term.matched_renamed _)

/-- What corresponds to a run under other names is told by it. -/
theorem Correspondence.Ends.eq_renamed {s : String → String} {hs : s.Injective}
    {one other : Outcome Value × Context}
    (h : (otherNames s hs).Ends (otherNames s hs).value one other) :
    other = (one.1.renamed (Scalar.renamed s), one.2) := by
  obtain ⟨_, hexcused, -⟩ | ⟨houtcome, hafter⟩ := h
  · exact hexcused.elim
  · obtain ⟨outcome, after⟩ := one
    obtain ⟨outcome', after'⟩ := other
    obtain rfl : after = after' := hafter
    cases houtcome with
    | done hvalue => exact Prod.ext (congrArg Outcome.done hvalue.renamed_eq.symm) rfl
    | failed he => exact Prod.ext (congrArg Outcome.failed he.symm) rfl
    | faulted => rfl
    | exhausted => rfl

/-! ## reading -/

namespace Data

/-- Two data of one kind of term at one location. -/
structure SameNode (data data' : Data) (kind : TermKind) : Prop where
  kind_left : data.HasKind kind
  kind_right : data'.HasKind kind
  location_eq : Term.locationOf data = Term.locationOf data'

/-- What two data have in a field. -/
structure BothHave (data data' : Data) (key : String) (value value' : Data) : Prop where
  left : data.field? key = some value
  right : data'.field? key = some value'

/-- Data in the shape of a term, and data in the same shape that has every variable, let name and
parameter by its other text.  Payloads, operators and locations are the same. -/
inductive Renames (s : String → String) : Data → Data → Prop where
  | literal {data data' value : Data} {kind : TermKind} :
    kind = .bool ∨ kind = .int ∨ kind = .string → data.SameNode data' kind →
      data.BothHave data' "value" value value → Renames s data data'
  | var {data data' : Data} {name : String} :
    data.SameNode data' .var → data.Gives name → data'.Gives (s name) → Renames s data data'
  | function {data data' body body' : Data} {parameters parameters' : List Data}
      {names : List String} :
    data.SameNode data' .function →
      data.BothHave data' "parameters" (.list parameters) (.list parameters') →
      List.Forall₂ Gives parameters names → List.Forall₂ Gives parameters' (names.map s) →
      data.BothHave data' "value" body body' → Renames s body body' → Renames s data data'
  | call {data data' callee callee' : Data} {arguments arguments' : List Data} :
    data.SameNode data' .call →
      data.BothHave data' "callee" callee callee' → Renames s callee callee' →
      data.BothHave data' "arguments" (.list arguments) (.list arguments') →
      arguments.length = arguments'.length →
      (∀ pair ∈ arguments.zip arguments', Renames s pair.1 pair.2) → Renames s data data'
  | binary {data data' lhs lhs' rhs rhs' : Data} {op : BinaryOp} :
    data.SameNode data' .binary → data.BothHave data' "op" (.text op.name) (.text op.name) →
      data.BothHave data' "lhs" lhs lhs' → Renames s lhs lhs' →
      data.BothHave data' "rhs" rhs rhs' → Renames s rhs rhs' → Renames s data data'
  | letIn {data data' binder binder' value value' next next' : Data} {name : String} :
    data.SameNode data' .letIn →
      data.BothHave data' "name" binder binder' → binder.Gives name → binder'.Gives (s name) →
      data.BothHave data' "value" value value' → Renames s value value' →
      data.BothHave data' "next" next next' → Renames s next next' → Renames s data data'
  | ifElse {data data' condition condition' consequent consequent' alternative
        alternative' : Data} :
    data.SameNode data' .ifElse →
      data.BothHave data' "condition" condition condition' → Renames s condition condition' →
      data.BothHave data' "then" consequent consequent' → Renames s consequent consequent' →
      data.BothHave data' "otherwise" alternative alternative' →
      Renames s alternative alternative' → Renames s data data'
  | print {data data' value value' : Data} :
    data.SameNode data' .print → data.BothHave data' "value" value value' →
      Renames s value value' → Renames s data data'

end Data

namespace Term

/-- It makes no difference whether names are replaced before reading or after it. -/
theorem ofData_renames {s : String → String} {data data' : Data} (h : data.Renames s data') :
    ofData data' = (ofData data).renamed (Scalar.renamed s) := by
  induction h with
  | literal hkind hnode hvalue =>
    obtain rfl | rfl | rfl := hkind
    · rw [ofData_bool hnode.kind_left hvalue.left, ofData_bool hnode.kind_right hvalue.right,
        hnode.location_eq, renamed]
    · rw [ofData_int hnode.kind_left hvalue.left, ofData_int hnode.kind_right hvalue.right,
        hnode.location_eq, renamed]
    · rw [ofData_string hnode.kind_left hvalue.left, ofData_string hnode.kind_right hvalue.right,
        hnode.location_eq, renamed]
  | var hnode hname hname' =>
    rw [ofData_var hnode.kind_left hname, ofData_var hnode.kind_right hname', hnode.location_eq]
    rfl
  | function hnode hparameters hnames hnames' hbody _ ih =>
    rw [ofData_function hnode.kind_left hparameters.left hnames hbody.left,
      ofData_function hnode.kind_right hparameters.right hnames' hbody.right, hnode.location_eq, ih]
    simp [renamed, Functor.map, Except.map, Data.renamed, Scalar.renamed]
  | @call _ _ _ _ arguments arguments' hnode hcallee _ harguments hlength _ ihcallee iharguments =>
    rw [ofData_call hnode.kind_left hcallee.left harguments.left,
      ofData_call hnode.kind_right hcallee.right harguments.right, hnode.location_eq, ihcallee]
    have hall : arguments.map (renamed (Scalar.renamed s) ∘ ofData) = arguments'.map ofData := by
      rw [← List.forall₂_eq_eq_eq, List.forall₂_map_left_iff, List.forall₂_map_right_iff]
      exact List.forall₂_iff_zip.mpr ⟨hlength, fun hmem => (iharguments _ hmem).symm⟩
    rw [renamed, renamedAll_eq_map, List.map_map, hall]
  | binary hnode hop hlhs _ hrhs _ ihlhs ihrhs =>
    rw [ofData_binary hnode.kind_left hop.left hlhs.left hrhs.left,
      ofData_binary hnode.kind_right hop.right hlhs.right hrhs.right, hnode.location_eq,
      ihlhs, ihrhs, renamed]
  | letIn hnode hbinder hname hname' hvalue _ hnext _ ihvalue ihnext =>
    rw [ofData_letIn hnode.kind_left hbinder.left hname hvalue.left hnext.left,
      ofData_letIn hnode.kind_right hbinder.right hname' hvalue.right hnext.right,
      hnode.location_eq, ihvalue, ihnext]
    rfl
  | ifElse hnode hcondition _ hconsequent _ halternative _ ihcondition ihconsequent
      ihalternative =>
    rw [ofData_ifElse hnode.kind_left hcondition.left hconsequent.left halternative.left,
      ofData_ifElse hnode.kind_right hcondition.right hconsequent.right halternative.right,
      hnode.location_eq, ihcondition, ihconsequent, ihalternative, renamed]
  | print hnode hvalue _ ih =>
    rw [ofData_print hnode.kind_left hvalue.left, ofData_print hnode.kind_right hvalue.right,
      hnode.location_eq, ih, renamed]

/-! ## runs -/

/-- Names matter only through equality.

* Data that has every variable, let name and parameter by another text is read as the term under
  other names.
* If different texts become different ones and nothing is traced, then the run under other names is
  the same: it prints the same lines, leaves the same context behind and ends in the same way, with
  names replaced in the functions of its value, and in an error that tells a name. -/
theorem run_renamed {s : String → String} (hs : s.Injective) :
    (∀ data data' : Data, data.Renames s data' →
      ofData data' = (ofData data).renamed (Scalar.renamed s)) ∧
    ∀ (limit : Nat) (term : Term) (env : Env) (context : Context), context.debug = false →
      let outcome := (term.eval limit env context).1
      let root := (term.evalRoot limit env context).1
      (term.renamed (Scalar.renamed s)).eval limit (env.renamed (Scalar.renamed s)) context
        = (outcome.renamed (Scalar.renamed s), (term.eval limit env context).2) ∧
      (term.renamed (Scalar.renamed s)).evalRoot limit (env.renamed (Scalar.renamed s)) context
        = (root.renamed (Scalar.renamed s), (term.evalRoot limit env context).2) := by
  refine ⟨fun _ _ => ofData_renames, fun limit term env context hdebug => ?_⟩
  let C := Correspondence.otherNames s hs
  have hterm : C.term term (term.renamed (Scalar.renamed s)) := rfl
  have henv : C.env env (env.renamed (Scalar.renamed s)) := env.matched_renamed
  have hadmits : C.Admits context := fun htraced => by rw [hdebug] at htraced; cases htraced
  exact ⟨(C.ends_eval limit hterm henv hadmits).eq_renamed,
    (C.ends_evalRoot limit hterm henv hadmits).eq_renamed⟩

/-- A let of `x` and a call of `f` that prints `x` and lacks an argument for the parameter `y`, and
the same with an underscore before every name: both print the line, and the error tells the
parameter by the name that it has. -/
theorem run_renamed_underscore :
    let s (name : String) : String := "_" ++ name
    let var (name : String) : Data := .object [("kind", .text "Var"), ("text", .text name)]
    let data (s : String → String) : Data := .object [("kind", .text "Let"),
      ("name", .object [("text", .text (s "x"))]),
      ("value", .object [("kind", .text "String"), ("value", .text "a")]),
      ("next", .object [("kind", .text "Call"), ("location", .int 3), ("callee", var (s "f")),
        ("arguments", .list [.object [("kind", .text "Print"), ("value", var (s "x"))]])])]
    let env (s : String → String) : Env := .binding (.text (s "f"))
      (.closure [.text (s "x"), .text (s "y")] (.var none (.ok (.text (s "x")))) .empty) .empty
    let context := Context.new .collector false none
    s.Injective ∧ (data id).Renames s (data s) ∧
      (env id).renamed (Scalar.renamed s) = env s ∧
      ((ofData (data id)).evalRoot 1 (env id) context).1
        = .failed ⟨.missingArgument (.text "y"), some (.int 3)⟩ ∧
      ((ofData (data s)).evalRoot 1 (env s) context).1
        = .failed ⟨.missingArgument (.text "_y"), some (.int 3)⟩ ∧
      ((ofData (data s)).evalRoot 1 (env s) context).2.streams.collected = ["a"] := by
  intro s var data env context
  have hs : s.Injective := fun a b h => by simpa [s] using h
  have hrenames : (data id).Renames s (data s) := by
    refine .letIn ⟨rfl, rfl, rfl⟩ ⟨rfl, rfl⟩ rfl rfl ⟨rfl, rfl⟩ ?_ ⟨rfl, rfl⟩ ?_
    · exact .literal (.inr (.inr rfl)) ⟨rfl, rfl, rfl⟩ ⟨rfl, rfl⟩
    · refine .call ⟨rfl, rfl, rfl⟩ ⟨rfl, rfl⟩ (.var ⟨rfl, rfl, rfl⟩ rfl rfl) ⟨rfl, rfl⟩ rfl ?_
      intro pair hmem
      obtain rfl := List.mem_singleton.mp hmem
      exact .print ⟨rfl, rfl, rfl⟩ ⟨rfl, rfl⟩ (.var ⟨rfl, rfl, rfl⟩ rfl rfl)
  have henv : (env id).renamed (Scalar.renamed s) = env s := rfl
  obtain ⟨hread, hrun⟩ := run_renamed hs
  obtain ⟨-, hroot⟩ := hrun 1 (ofData (data id)) (env id) context rfl
  rw [← hread _ _ hrenames, henv] at hroot
  refine ⟨hs, hrenames, henv, rfl, ?_, ?_⟩
  · rw [hroot]
    rfl
  · rw [hroot]
    rfl

end Term

end Rinha
