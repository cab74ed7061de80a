import Rinha.Number.Basic

/-!
# Rinha.Data.Basic

The data that terms, locations and reports are exchanged in: scalars, lists, and objects with named
fields.  A read either gives the part that is asked for or the fault of the place:

* `Data.field` reads a field of an object;
* `Data.items` goes through a list, the characters of a text, or the field names of an object;
* `Scalar.key` decides which scalars are the same name.
-/

namespace Rinha

/-- Data without parts. -/
inductive Scalar where
  | null
  | bool (b : Bool)
  | int (n : Int)
  | floating (x : Floating)
  | text (s : String)
deriving DecidableEq, Repr, Inhabited

/-- Scalars, lists and objects.  The fields of an object stand in their written order, each name
once. -/
inductive Data where
  | scalar (s : Scalar)
  | list (items : List Data)
  | object (fields : List (String × Data))
deriving Repr, Inhabited

/-- Induction on data; what is shown of a list or an object may use that it holds of every part. -/
theorem Data.induct {motive : Data → Prop}
    (scalar : ∀ s, motive (.scalar s))
    (list : ∀ items, (∀ item ∈ items, motive item) → motive (.list items))
    (object : ∀ fields, (∀ field ∈ fields, motive field.2) → motive (.object fields))
    (data : Data) : motive data :=
  @Data.rec motive (fun items => ∀ item ∈ items, motive item)
    (fun fields => ∀ field ∈ fields, motive field.2) (fun field => motive field.2)
    scalar list object
    (fun _ h => nomatch h)
    (fun _ _ hhead htail => List.forall_mem_cons.mpr ⟨hhead, htail⟩)
    (fun _ h => nomatch h)
    (fun _ _ hhead htail => List.forall_mem_cons.mpr ⟨hhead, htail⟩)
    (fun _ _ hdata => hdata) data

/-! The scalars as data, each under its own name. -/

@[match_pattern] abbrev Data.null : Data := .scalar .null
@[match_pattern] abbrev Data.bool (b : Bool) : Data := .scalar (.bool b)
@[match_pattern] abbrev Data.int (n : Int) : Data := .scalar (.int n)
@[match_pattern] abbrev Data.floating (x : Floating) : Data := .scalar (.floating x)
@[match_pattern] abbrev Data.text (s : String) : Data := .scalar (.text s)

/-! ## names -/

/-- What a variable or a parameter is called.  Programs use texts; any scalar will do. -/
abbrev Name := Scalar

/-- The scalar by which a name is compared: a truth value counts as 0 or 1, and a number without a
fraction is the same name however it is written. -/
def Scalar.key : Scalar → Scalar
  | .bool b => .int (if b then 1 else 0)
  | .floating x =>
    match x.whole? with
    | some n => .int n
    | none => .floating x
  | s => s

@[simp] theorem Scalar.key_text (s : String) : (Scalar.text s).key = .text s := rfl

/-- Data as a name.  A list or an object is none. -/
def Data.toName : Data → Except Fault Name
  | .scalar s => .ok s
  | .list _ | .object _ => .error .wrongShape

/-! ## parts -/

/-- A field of an object, if it is one and has it. -/
def Data.field? (data : Data) (key : String) : Option Data :=
  match data with
  | .object fields => fields.lookup key
  | _ => none

/-- A field of an object. -/
def Data.field (data : Data) (key : String) : Except Fault Data :=
  match data with
  | .object fields =>
    match fields.lookup key with
    | some value => .ok value
    | none => .error (.missingField key)
  | _ => .error .wrongShape

/-- The parts of data in order. -/
def Data.items : Data → Except Fault (List Data)
  | .list items => .ok items
  | .text s => .ok (s.toList.map fun c => .text (String.singleton c))
  | .object fields => .ok (fields.map fun (key, _) => .text key)
  | _ => .error .wrongShape

/-- A field that may be missing, or null to the same effect. -/
def Data.optional (data : Data) (key : String) : Option Data :=
  match data.field? key with
  | some .null | none => none
  | some value => some value

/-- A successful read is the look-up. -/
theorem Data.field_eq_ok_iff {data value : Data} {key : String} :
    data.field key = .ok value ↔ data.field? key = some value := by
  cases data with
  | object fields => cases h : fields.lookup key <;> simp [field, field?, h]
  | scalar s => simp [field, field?]
  | list items => simp [field, field?]

/-- An optional field that is there holds something, which is not null. -/
theorem Data.optional_eq_some_iff {data value : Data} {key : String} :
    data.optional key = some value ↔ data.field? key = some value ∧ value ≠ .null := by
  rw [optional]
  split
  · next h => simp +contextual [h, eq_comm]
  · next h => simp [h]
  · next found hne h =>
    rw [h]
    constructor
    · rintro ⟨⟩
      exact ⟨rfl, hne⟩
    · exact And.left

end Rinha
