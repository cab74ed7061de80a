import Rinha.Proofs.WellFormed
import Mathlib.Data.List.Forall2

/-!
# Rinha.Proofs.TermShape

The shape in which terms are exchanged.  A term is an object that names its kind and has the fields
of that kind, each of its own type: payloads, texts for names, one of the fourteen operators, and
terms in turn (`Data.IsTerm`).  Locations and all other fields may be anything.

* `Term.ofData_binary` and its like for the other kinds — which field of the data is which part of
  the term, as in

  ```
  {"kind": "Binary", "op": "Sub", "lhs": a, "rhs": b}        a - b
  ```

* `Term.wellFormed_ofData` — data of that shape is read as a well-formed term.
-/

namespace Rinha

/-- Data that names a kind of term. -/
def Data.HasKind (data : Data) (kind : TermKind) : Prop :=
  data.field? "kind" = some (.text kind.name)

/-- Data that gives a name, as parameters and lets do. -/
def Data.Gives (data : Data) (name : String) : Prop :=
  data.field? "text" = some (.text name)

/-- Data in the shape of a term. -/
inductive Data.IsTerm : Data → Prop where
  | bool {data : Data} {b : Bool} :
    data.HasKind .bool → data.field? "value" = some (.bool b) → IsTerm data
  | int {data : Data} {n : Int} :
    data.HasKind .int → data.field? "value" = some (.int n) → IsTerm data
  | string {data : Data} {s : String} :
    data.HasKind .string → data.field? "value" = some (.text s) → IsTerm data
  | var {data : Data} {name : String} :
    data.HasKind .var → data.Gives name → IsTerm data
  | function {data body : Data} {parameters : List Data} {names : List String} :
    data.HasKind .function → data.field? "parameters" = some (.list parameters) →
      List.Forall₂ Data.Gives parameters names → data.field? "value" = some body → IsTerm body →
      IsTerm data
  | call {data callee : Data} {arguments : List Data} :
    data.HasKind .call → data.field? "callee" = some callee → IsTerm callee →
      data.field? "arguments" = some (.list arguments) →
      (∀ argument ∈ arguments, IsTerm argument) → IsTerm data
  | binary {data lhs rhs : Data} {op : BinaryOp} :
    data.HasKind .binary → data.field? "op" = some (.text op.name) →
      data.field? "lhs" = some lhs → IsTerm lhs → data.field? "rhs" = some rhs → IsTerm rhs →
      IsTerm data
  | letIn {data binder value next : Data} {name : String} :
    data.HasKind .letIn → data.field? "name" = some binder → binder.Gives name →
      data.field? "value" = some value → IsTerm value → data.field? "next" = some next →
      IsTerm next → IsTerm data
  | ifElse {data condition consequent alternative : Data} :
    data.HasKind .ifElse → data.field? "condition" = some condition → IsTerm condition →
      data.field? "then" = some consequent → IsTerm consequent →
      data.field? "otherwise" = some alternative → IsTerm alternative → IsTerm data
  | print {data value : Data} :
    data.HasKind .print → data.field? "value" = some value → IsTerm value → IsTerm data

namespace Term

/-! ## reading one object -/

/-- Data that names a kind is an object, and it is read as a term of that kind. -/
theorem ofData_of_hasKind {data : Data} {kind : TermKind} (h : data.HasKind kind) :
    ∃ fields, data = .object fields ∧ ofData data = ofKind kind data (ofFields fields) := by
  cases data with
  | object fields =>
    refine ⟨fields, rfl, ?_⟩
    rw [Data.HasKind] at h
    rw [ofData, ofObject, h]
    dsimp only
    rw [TermKind.ofName?_name]
  | scalar s => cases h
  | list items => cases h

theorem childTerm_of_field? {fields : List (String × Data)} {key : String} {data : Data}
    (h : (Data.object fields).field? key = some data) :
    childTerm (ofFields fields) key = ofData data := by
  rw [Data.field?] at h
  rw [childTerm_ofFields, h]

theorem childArguments_of_field? {fields : List (String × Data)} {key : String}
    {arguments : List Data} (h : (Data.object fields).field? key = some (.list arguments)) :
    childArguments (ofFields fields) key = arguments.map ofData := by
  rw [Data.field?] at h
  rw [childArguments, lookup_ofFields, h, ← ofItems_eq_map]
  rfl

theorem nameIn_of_gives {data : Data} {name : String} (h : data.Gives name) :
    nameIn data = .ok (.text name) := by
  rw [nameIn, Data.field_eq_ok_iff.mpr h]
  rfl

theorem mapM_text_of_gives {parameters : List Data} {names : List String}
    (h : List.Forall₂ Data.Gives parameters names) :
    parameters.mapM (fun parameter => parameter.field "text") = .ok (names.map Data.text) := by
  induction h with
  | nil => rfl
  | cons hname _ ih => rw [List.mapM_cons, Data.field_eq_ok_iff.mpr hname, ih]; rfl

theorem functionParameters_of_gives {data body : Data} {parameters : List Data}
    {names : List String} (hparameters : data.field? "parameters" = some (.list parameters))
    (hnames : List.Forall₂ Data.Gives parameters names) (hbody : data.field? "value" = some body) :
    functionParameters data = .ok (names.map .text) := by
  have hread : parametersOf data = .ok (names.map .text) := by
    rw [parametersOf, Data.field_eq_ok_iff.mpr hparameters, ← mapM_text_of_gives hnames]
    rfl
  rw [functionParameters, hread, Data.field_eq_ok_iff.mpr hbody]
  rfl

theorem operatorOf_of_field? {data : Data} {op : BinaryOp}
    (h : data.field? "op" = some (.text op.name)) : operatorOf data = .ok op := by
  rw [operatorOf, Data.field_eq_ok_iff.mpr h, ← BinaryOp.named_name op]
  rfl

/-! ## reading terms

Each kind by its own fields: what stands in which field of the data is what stands in which place of
the term, and the term has the location of the data. -/

section

variable {data : Data}

theorem ofData_bool {value : Data} (hkind : data.HasKind .bool)
    (hvalue : data.field? "value" = some value) :
    ofData data = .bool (locationOf data) (.ok value.toBool) := by
  obtain ⟨fields, rfl, hread⟩ := ofData_of_hasKind hkind
  rw [hread, ofKind, Data.field_eq_ok_iff.mpr hvalue]
  rfl

theorem ofData_int {value : Data} (hkind : data.HasKind .int)
    (hvalue : data.field? "value" = some value) :
    ofData data = .int (locationOf data) value.toInt := by
  obtain ⟨fields, rfl, hread⟩ := ofData_of_hasKind hkind
  rw [hread, ofKind, Data.field_eq_ok_iff.mpr hvalue]
  rfl

theorem ofData_string {value : Data} (hkind : data.HasKind .string)
    (hvalue : data.field? "value" = some value) :
    ofData data = .string (locationOf data) (.ok value.toText) := by
  obtain ⟨fields, rfl, hread⟩ := ofData_of_hasKind hkind
  rw [hread, ofKind, Data.field_eq_ok_iff.mpr hvalue]
  rfl

theorem ofData_var {name : String} (hkind : data.HasKind .var) (hname : data.Gives name) :
    ofData data = .var (locationOf data) (.ok (.text name)) := by
  obtain ⟨fields, rfl, hread⟩ := ofData_of_hasKind hkind
  rw [hread, ofKind, nameIn_of_gives hname]

theorem ofData_function {body : Data} {parameters : List Data} {names : List String}
    (hkind : data.HasKind .function)
    (hparameters : data.field? "parameters" = some (.list parameters))
    (hnames : List.Forall₂ Data.Gives parameters names) (hbody : data.field? "value" = some body) :
    ofData data = .function (locationOf data) (.ok (names.map .text)) (ofData body) := by
  obtain ⟨fields, rfl, hread⟩ := ofData_of_hasKind hkind
  rw [hread, ofKind, functionParameters_of_gives hparameters hnames hbody]
  rw [childTerm_of_field? hbody]

theorem ofData_call {callee : Data} {arguments : List Data} (hkind : data.HasKind .call)
    (hcallee : data.field? "callee" = some callee)
    (harguments : data.field? "arguments" = some (.list arguments)) :
    ofData data = .call (locationOf data) (ofData callee) (arguments.map ofData) := by
  obtain ⟨fields, rfl, hread⟩ := ofData_of_hasKind hkind
  rw [hread, ofKind]
  rw [childTerm_of_field? hcallee, childArguments_of_field? harguments]

theorem ofData_binary {op : BinaryOp} {lhs rhs : Data} (hkind : data.HasKind .binary)
    (hop : data.field? "op" = some (.text op.name)) (hlhs : data.field? "lhs" = some lhs)
    (hrhs : data.field? "rhs" = some rhs) :
    ofData data = .binary (locationOf data) (.ok op) (ofData lhs) (ofData rhs) := by
  obtain ⟨fields, rfl, hread⟩ := ofData_of_hasKind hkind
  rw [hread, ofKind, operatorOf_of_field? hop]
  rw [childTerm_of_field? hlhs, childTerm_of_field? hrhs]

theorem ofData_letIn {binder value next : Data} {name : String} (hkind : data.HasKind .letIn)
    (hbinder : data.field? "name" = some binder) (hname : binder.Gives name)
    (hvalue : data.field? "value" = some value) (hnext : data.field? "next" = some next) :
    ofData data
      = .letIn (locationOf data) (.ok (.text name)) (ofData value) (ofData next) := by
  obtain ⟨fields, rfl, hread⟩ := ofData_of_hasKind hkind
  have hbind : (Except.ok binder >>= nameIn) = .ok (.text name) := nameIn_of_gives hname
  rw [hread, ofKind, Data.field_eq_ok_iff.mpr hbinder, hbind]
  rw [childTerm_of_field? hvalue, childTerm_of_field? hnext]

theorem ofData_ifElse {condition consequent alternative : Data} (hkind : data.HasKind .ifElse)
    (hcondition : data.field? "condition" = some condition)
    (hconsequent : data.field? "then" = some consequent)
    (halternative : data.field? "otherwise" = some alternative) :
    ofData data
      = .ifElse (locationOf data) (ofData condition) (ofData consequent) (ofData alternative) := by
  obtain ⟨fields, rfl, hread⟩ := ofData_of_hasKind hkind
  rw [hread, ofKind]
  rw [childTerm_of_field? hcondition, childTerm_of_field? hconsequent,
    childTerm_of_field? halternative]

theorem ofData_print {value : Data} (hkind : data.HasKind .print)
    (hvalue : data.field? "value" = some value) :
    ofData data = .print (locationOf data) (ofData value) := by
  obtain ⟨fields, rfl, hread⟩ := ofData_of_hasKind hkind
  rw [hread, ofKind]
  rw [childTerm_of_field? hvalue]

end

/-- Data in the shape of a term is read as a well-formed term. -/
theorem wellFormed_ofData {data : Data} (h : data.IsTerm) : (ofData data).WellFormed := by
  induction h with
  | bool hkind hvalue =>
    rw [ofData_bool hkind hvalue]
    exact .bool
  | int hkind hvalue =>
    rw [ofData_int hkind hvalue]
    exact .int
  | string hkind hvalue =>
    rw [ofData_string hkind hvalue]
    exact .string
  | var hkind hname =>
    rw [ofData_var hkind hname]
    exact .var
  | function hkind hparameters hnames hbody _ ih =>
    rw [ofData_function hkind hparameters hnames hbody]
    exact .function ih
  | call hkind hcallee _ harguments _ ihcallee iharguments =>
    rw [ofData_call hkind hcallee harguments]
    refine .call ihcallee fun argument hmem => ?_
    obtain ⟨data, hdata, rfl⟩ := List.mem_map.mp hmem
    exact iharguments data hdata
  | binary hkind hop hlhs _ hrhs _ ihlhs ihrhs =>
    rw [ofData_binary hkind hop hlhs hrhs]
    exact .binary ihlhs ihrhs
  | letIn hkind hbinder hname hvalue _ hnext _ ihvalue ihnext =>
    rw [ofData_letIn hkind hbinder hname hvalue hnext]
    exact .letIn ihvalue ihnext
  | ifElse hkind hcondition _ hconsequent _ halternative _ ihcondition ihconsequent
      ihalternative =>
    rw [ofData_ifElse hkind hcondition hconsequent halternative]
    exact .ifElse ihcondition ihconsequent ihalternative
  | print hkind hvalue _ ih =>
    rw [ofData_print hkind hvalue]
    exact .print ih

end Term

end Rinha
