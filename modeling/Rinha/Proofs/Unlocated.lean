import Rinha.Proofs.OperatorRules
import Rinha.Proofs.Related

/-!
# Rinha.Proofs.Unlocated

Taking locations away.  A location stands in every node of a term, and terms stand in function
values and in what those captured.  `Term.unlocated`, `Value.unlocated` and `Env.unlocated` take all
of them away; two programs differ in nothing but locations if they are the same afterwards.

In the data that a term is exchanged as, locations are fields of objects, and only of those that are
read as terms or as names: a field `location` in a payload or in a kind is like any other.  So
`Data.unlocated` follows what each part is read as (`Data.Role`), and it makes no difference whether
locations are taken away before reading or after it (`Term.ofData_unlocated`).
-/

namespace Rinha

/-! ## terms -/

namespace Term

mutual

/-- A term without its locations. -/
def unlocated : Term → Term
  | hole fault => .hole fault
  | unknown _ kind => .unknown none kind
  | bool _ value => .bool none value
  | int _ value => .int none value
  | string _ value => .string none value
  | var _ name => .var none name
  | function _ parameters body => .function none parameters body.unlocated
  | call _ callee arguments => .call none callee.unlocated (unlocatedAll arguments)
  | binary _ op lhs rhs => .binary none op lhs.unlocated rhs.unlocated
  | letIn _ name value next => .letIn none name value.unlocated next.unlocated
  | ifElse _ condition consequent alternative =>
    .ifElse none condition.unlocated consequent.unlocated alternative.unlocated
  | print _ value => .print none value.unlocated

/-- Terms without their locations. -/
def unlocatedAll : List Term → List Term
  | [] => []
  | term :: rest => term.unlocated :: unlocatedAll rest

end

theorem unlocatedAll_eq_map (terms : List Term) : unlocatedAll terms = terms.map unlocated := by
  induction terms with
  | nil => rfl
  | cons term rest ih => simp [unlocatedAll, ih]

end Term

/-! ## values and environments -/

mutual

/-- A value without the locations in functions. -/
def Value.unlocated : Value → Value
  | .closure parameters body env => .closure parameters body.unlocated env.unlocated
  | .bool b => .bool b
  | .int n => .int n
  | .string s => .string s
  | .foreign kind content => .foreign kind content

/-- An environment without the locations in functions. -/
def Env.unlocated : Env → Env
  | .empty => .empty
  | .binding name value rest => .binding name value.unlocated rest.unlocated

end

/-- Locations make no difference to anything but a call. -/
theorem Value.alike_unlocated (value : Value) : value.Alike value.unlocated := by
  cases value with
  | closure => exact .closure
  | _ => exact .refl _

/-- There are no locations in what an operator computes. -/
theorem BinaryOp.Computes.unlocated_eq {op : BinaryOp} {lhs rhs result : Value}
    (h : op.Computes lhs rhs result) : result.unlocated = result := by
  cases h <;> rfl

namespace Env

@[simp] theorem lookup?_unlocated (env : Env) (name : Name) :
    env.unlocated.lookup? name = (env.lookup? name).map Value.unlocated := by
  induction env with
  | empty => rfl
  | binding bound value rest ih =>
    rw [Env.unlocated, lookup?, lookup?, ih]
    split <;> rfl

@[simp] theorem unlocated_bind (env : Env) (name : Name) (value : Value) :
    (env.bind name value).unlocated = env.unlocated.bind name value.unlocated := by
  induction env with
  | empty => rfl
  | binding bound old rest ih =>
    rw [Env.unlocated, bind, bind, ← ih]
    split <;> rfl

theorem bindAll_unlocated (env : Env) (parameters : List Data) (arguments : List Value) :
    env.unlocated.bindAll parameters (arguments.map Value.unlocated)
      = Env.unlocated <$> env.bindAll parameters arguments := by
  induction parameters generalizing env arguments with
  | nil => rfl
  | cons parameter parameters ih =>
    cases arguments with
    | nil => rfl
    | cons value arguments =>
      cases parameter with
      | scalar name =>
        have hrest := ih (env.bind name value) arguments
        rw [unlocated_bind] at hrest
        exact hrest
      | list items => rfl
      | object fields => rfl

end Env

/-! ## data -/

/-- What a part of a term's data is read as. -/
inductive Data.Role where
  /-- A term. -/
  | term
  /-- A list of terms, if it is a list. -/
  | terms
  /-- An object that gives a name. -/
  | name
  /-- A list of objects that give names, if it is a list. -/
  | names
  /-- Data as it is. -/
  | plain
deriving DecidableEq, Repr

/-- What the fields of a term of this kind are read as. -/
def TermKind.role : TermKind → String → Data.Role
  | function, "parameters" => .names
  | function, "value" => .term
  | call, "callee" => .term
  | call, "arguments" => .terms
  | binary, "lhs" => .term
  | binary, "rhs" => .term
  | letIn, "name" => .name
  | letIn, "value" => .term
  | letIn, "next" => .term
  | ifElse, "condition" => .term
  | ifElse, "then" => .term
  | ifElse, "otherwise" => .term
  | print, "value" => .term
  | _, _ => .plain

/-- The kind that data names, if it is one of the ten. -/
def TermKind.ofData? : Option Data → Option TermKind
  | some (.text name) => ofName? name
  | _ => none

/-- Exactly the names of the ten kinds are kinds. -/
theorem TermKind.ofData?_eq_some_iff {data : Data} {kind : TermKind} :
    ofData? (some data) = some kind ↔ data = .text kind.name := by
  constructor
  · intro h
    cases data with
    | scalar s =>
      cases s with
      | text name => rw [ofName?_eq_some_iff.mp h]
      | _ => cases h
    | _ => cases h
  · rintro rfl
    exact ofName?_name kind

/-- What the fields of an object are read as, if the object is a term. -/
def Data.fieldRole (data : Data) (key : String) : Data.Role :=
  match TermKind.ofData? (data.field? "kind") with
  | some kind => kind.role key
  | none => .plain

/-- The kind of an object is read as it is. -/
theorem Data.fieldRole_kind (data : Data) : data.fieldRole "kind" = .plain := by
  unfold fieldRole
  split
  · next kind _ => cases kind <;> rfl
  · rfl

namespace Data

mutual

/-- Data without the locations of the terms and names in it. -/
def unlocated : Data → Role → Data
  | .object fields, .term => .object (unlocatedFields (fieldRole (.object fields)) fields)
  | .object fields, .name => .object (unlocatedFields (fun _ => .plain) fields)
  | .list items, .terms => .list (unlocatedItems .term items)
  | .list items, .names => .list (unlocatedItems .name items)
  | data, _ => data

/-- The items of a list without the locations in them. -/
def unlocatedItems (role : Role) : List Data → List Data
  | [] => []
  | item :: rest => item.unlocated role :: unlocatedItems role rest

/-- The fields of an object without its location and those in it. -/
def unlocatedFields (role : String → Role) : List (String × Data) → List (String × Data)
  | [] => []
  | (key, value) :: rest =>
    if key = "location" then unlocatedFields role rest
    else (key, value.unlocated (role key)) :: unlocatedFields role rest

end

@[simp] theorem unlocated_plain (data : Data) : data.unlocated .plain = data := by
  cases data <;> rfl

theorem unlocatedItems_eq_map (role : Role) (items : List Data) :
    unlocatedItems role items = items.map fun item => item.unlocated role := by
  induction items with
  | nil => rfl
  | cons item rest ih => simp [unlocatedItems, ih]

section

variable {role : String → Role} {fields : List (String × Data)} {key : String}

theorem mem_of_lookup {value : Data} (h : fields.lookup key = some value) :
    (key, value) ∈ fields := by
  obtain ⟨before, after, rfl, -⟩ := List.lookup_eq_some_iff.mp h
  exact List.mem_append_cons_self

/-- Taking locations away takes no other field away. -/
theorem lookup_unlocatedFields (hkey : key ≠ "location") :
    (unlocatedFields role fields).lookup key
      = (fields.lookup key).map fun value => value.unlocated (role key) := by
  induction fields with
  | nil => rfl
  | cons field rest ih =>
    obtain ⟨name, value⟩ := field
    rw [unlocatedFields, List.lookup_cons]
    by_cases hname : key = name
    · subst hname
      simp [hkey]
    · have hbeq : (key == name) = false := beq_false_of_ne hname
      split <;> simp [List.lookup_cons, hbeq, ih]

theorem lookup_location_unlocatedFields :
    (unlocatedFields role fields).lookup "location" = none := by
  induction fields with
  | nil => rfl
  | cons field rest ih =>
    obtain ⟨name, value⟩ := field
    rw [unlocatedFields]
    split
    · exact ih
    · next hname =>
      have hbeq : ("location" == name) = false := beq_false_of_ne (Ne.symm hname)
      simp [List.lookup_cons, hbeq, ih]

theorem field_unlocatedFields (hkey : key ≠ "location") :
    (object (unlocatedFields role fields)).field key
      = (fun value => value.unlocated (role key)) <$> (object fields).field key := by
  rw [field, field, lookup_unlocatedFields hkey]
  cases fields.lookup key <;> rfl

/-- What is read as it is stays as it is. -/
theorem field_unlocatedFields_of_plain (hkey : key ≠ "location") (hrole : role key = .plain) :
    (object (unlocatedFields role fields)).field key = (object fields).field key := by
  rw [field_unlocatedFields hkey, hrole]
  simp

end

end Data

/-! ## reading -/

namespace Term

theorem field_text_unlocated (data : Data) :
    (data.unlocated .name).field "text" = data.field "text" := by
  cases data with
  | object fields => exact Data.field_unlocatedFields_of_plain (by decide) rfl
  | _ => rfl

theorem nameIn_unlocated (data : Data) : nameIn (data.unlocated .name) = nameIn data := by
  rw [nameIn, nameIn, field_text_unlocated]

theorem mapM_text_unlocated (items : List Data) :
    (Data.unlocatedItems .name items).mapM (fun item => item.field "text")
      = items.mapM fun item => item.field "text" := by
  rw [Data.unlocatedItems_eq_map, List.mapM_map]
  exact congrArg (List.mapM · items) (funext field_text_unlocated)

section

variable {role : String → Data.Role} {fields : List (String × Data)}

theorem locationOf_unlocatedFields :
    locationOf (.object (Data.unlocatedFields role fields)) = none := by
  rw [locationOf, Data.optional, Data.field?, Data.lookup_location_unlocatedFields]

theorem parametersOf_unlocatedFields (hrole : role "parameters" = .names) :
    parametersOf (.object (Data.unlocatedFields role fields)) = parametersOf (.object fields) := by
  rw [parametersOf, parametersOf, Data.field_unlocatedFields (by decide), hrole]
  cases (Data.object fields).field "parameters" with
  | error cause => rfl
  | ok parameters =>
    cases parameters with
    | list items => exact mapM_text_unlocated items
    | _ => rfl

theorem functionParameters_unlocatedFields (hrole : role "parameters" = .names) :
    functionParameters (.object (Data.unlocatedFields role fields))
      = functionParameters (.object fields) := by
  rw [functionParameters, functionParameters, parametersOf_unlocatedFields hrole,
    Data.field_unlocatedFields (by decide)]
  cases parametersOf (.object fields) with
  | error cause => rfl
  | ok parameters => cases (Data.object fields).field "value" <;> rfl

variable {key : String}

theorem childTerm_unlocatedFields (hkey : key ≠ "location") (hrole : role key = .term)
    (h : ∀ field ∈ fields, ofData (field.2.unlocated .term) = (ofData field.2).unlocated) :
    childTerm (ofFields (Data.unlocatedFields role fields)) key
      = (childTerm (ofFields fields) key).unlocated := by
  rw [childTerm_ofFields, childTerm_ofFields, Data.lookup_unlocatedFields hkey, hrole]
  cases hlookup : fields.lookup key with
  | none => rfl
  | some data => exact h (key, data) (Data.mem_of_lookup hlookup)

theorem childArguments_unlocatedFields (hkey : key ≠ "location") (hrole : role key = .terms)
    (h : ∀ field ∈ fields,
      argumentsOf (field.2.unlocated .terms) = unlocatedAll (argumentsOf field.2)) :
    childArguments (ofFields (Data.unlocatedFields role fields)) key
      = unlocatedAll (childArguments (ofFields fields) key) := by
  rw [childArguments, childArguments, lookup_ofFields, lookup_ofFields,
    Data.lookup_unlocatedFields hkey, hrole]
  cases hlookup : fields.lookup key with
  | none => rfl
  | some data => exact h (key, data) (Data.mem_of_lookup hlookup)

end

/-- An object is a term of the kind that it names, or of none. -/
theorem ofObject_eq (data : Data) (children : List (String × Child)) :
    ofObject data children
      = match TermKind.ofData? (data.field? "kind") with
        | some kind => ofKind kind data children
        | none => .unknown (locationOf data) (data.field? "kind") := by
  rw [ofObject]
  cases data.field? "kind" with
  | none => rfl
  | some kind =>
    cases kind with
    | scalar s =>
      cases s with
      | text name => cases hname : TermKind.ofName? name <;> simp [TermKind.ofData?, hname]
      | _ => rfl
    | _ => rfl

theorem ofKind_unlocatedFields (kind : TermKind) {fields : List (String × Data)}
    (hterm : ∀ field ∈ fields, ofData (field.2.unlocated .term) = (ofData field.2).unlocated)
    (hterms : ∀ field ∈ fields,
      argumentsOf (field.2.unlocated .terms) = unlocatedAll (argumentsOf field.2)) :
    ofKind kind (.object (Data.unlocatedFields kind.role fields))
        (ofFields (Data.unlocatedFields kind.role fields))
      = (ofKind kind (.object fields) (ofFields fields)).unlocated := by
  cases kind with
  | bool | int | string =>
    rw [ofKind, ofKind, locationOf_unlocatedFields,
      Data.field_unlocatedFields_of_plain (by decide) rfl]
    rfl
  | var =>
    rw [ofKind, ofKind, locationOf_unlocatedFields, nameIn, nameIn,
      Data.field_unlocatedFields_of_plain (by decide) rfl]
    rfl
  | function =>
    rw [ofKind, ofKind, locationOf_unlocatedFields, functionParameters_unlocatedFields rfl,
      childTerm_unlocatedFields (by decide) rfl hterm]
    rfl
  | call =>
    rw [ofKind, ofKind, locationOf_unlocatedFields, childTerm_unlocatedFields (by decide) rfl hterm,
      childArguments_unlocatedFields (by decide) rfl hterms]
    rfl
  | binary =>
    rw [ofKind, ofKind, locationOf_unlocatedFields, operatorOf, operatorOf,
      Data.field_unlocatedFields_of_plain (by decide) rfl,
      childTerm_unlocatedFields (by decide) rfl hterm,
      childTerm_unlocatedFields (by decide) rfl hterm]
    rfl
  | letIn =>
    have hname : (Data.object (Data.unlocatedFields TermKind.letIn.role fields)).field "name"
        >>= nameIn = (Data.object fields).field "name" >>= nameIn := by
      rw [Data.field_unlocatedFields (by decide)]
      cases (Data.object fields).field "name" with
      | error cause => rfl
      | ok name => exact nameIn_unlocated name
    rw [ofKind, ofKind, locationOf_unlocatedFields, hname,
      childTerm_unlocatedFields (by decide) rfl hterm,
      childTerm_unlocatedFields (by decide) rfl hterm]
    rfl
  | ifElse =>
    rw [ofKind, ofKind, locationOf_unlocatedFields,
      childTerm_unlocatedFields (by decide) rfl hterm,
      childTerm_unlocatedFields (by decide) rfl hterm,
      childTerm_unlocatedFields (by decide) rfl hterm]
    rfl
  | print =>
    rw [ofKind, ofKind, locationOf_unlocatedFields, childTerm_unlocatedFields (by decide) rfl hterm]
    rfl

/-- The kind is no location, and nothing in it is one. -/
theorem field?_kind_unlocatedFields (fields : List (String × Data)) :
    (Data.object (Data.unlocatedFields (Data.fieldRole (.object fields)) fields)).field? "kind"
      = (Data.object fields).field? "kind" := by
  rw [Data.field?, Data.field?, Data.lookup_unlocatedFields (by decide), Data.fieldRole_kind]
  simp

/-- Reading data without its locations, as a term or as arguments. -/
theorem read_unlocated (data : Data) :
    ofData (data.unlocated .term) = (ofData data).unlocated ∧
      argumentsOf (data.unlocated .terms) = unlocatedAll (argumentsOf data) := by
  induction data using Data.induct with
  | scalar s =>
    refine ⟨rfl, ?_⟩
    cases s with
    | text s => simp [Data.unlocated, argumentsOf, unlocatedAll_eq_map, unlocated]
    | _ => rfl
  | list items ih =>
    refine ⟨rfl, ?_⟩
    rw [Data.unlocated, argumentsOf, argumentsOf, ofItems_eq_map, ofItems_eq_map,
      Data.unlocatedItems_eq_map, unlocatedAll_eq_map, List.map_map, List.map_map]
    exact List.map_congr_left fun item hmem => (ih item hmem).1
  | object fields ih =>
    constructor
    · rw [Data.unlocated, ofData, ofData, ofObject_eq, ofObject_eq, field?_kind_unlocatedFields]
      unfold Data.fieldRole
      cases TermKind.ofData? ((Data.object fields).field? "kind") with
      | none => rw [locationOf_unlocatedFields, unlocated]
      | some kind =>
        exact ofKind_unlocatedFields kind (fun field hmem => (ih field hmem).1)
          fun field hmem => (ih field hmem).2
    · simp [Data.unlocated, argumentsOf, unlocatedAll_eq_map, unlocated]

/-- It makes no difference whether locations are taken away before reading or after it. -/
theorem ofData_unlocated (data : Data) :
    ofData (data.unlocated .term) = (ofData data).unlocated :=
  (read_unlocated data).1

end Term

end Rinha
