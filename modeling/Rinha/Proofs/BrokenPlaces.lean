import Rinha.Proofs.Correspondence
import Rinha.Proofs.Unlocated

/-!
# Rinha.Proofs.BrokenPlaces

Broken places matter only when they are reached.  An object whose kind is none of the ten ends every
run that gets to it, in the fault of its kind.  A run that ends in any other way got to none, so it
is the same whatever stands there instead: in branches that are not taken, in the bodies of
functions that are not called, behind the place at which a run ends early.

`Term.Patched` is a term with anything else in some of its broken places, and `Data.Patched` is the
same for the data that terms are read from, where only what is read as a term is such a place.  A
term and its patches correspond, with the fault of the broken places excused
(`Correspondence.patched`).
-/

namespace Rinha

/-! ## terms -/

/-- A term, and the same with anything else in some of the places where the broken term stands. -/
inductive Term.Patched (broken : Term) : Term → Term → Prop where
  | replaced {other : Term} : Patched broken broken other
  | kept {term other : Term} :
    term.Matched id (Term.Patched broken) other → Patched broken term other

/-- A value, and the same with patches in the bodies of functions. -/
abbrev Value.Patched (broken : Term) : Value → Value → Prop :=
  Value.Matched id (Term.Patched broken)

/-- An environment, and the same with patches in the bodies of functions. -/
abbrev Env.Patched (broken : Term) : Env → Env → Prop :=
  Env.Matched id (Term.Patched broken)

namespace Term.Patched

variable {broken : Term}

/-! Names stay, so the terms with names are patched like the others. -/

theorem var {location : Location} {name : Except Fault Name} :
    Patched broken (.var location name) (.var location name) := by
  have h : Matched id (Patched broken) (.var location name) (.var location (id <$> name)) := .var
  rw [id_map] at h
  exact .kept h

theorem function {location : Location} {parameters : Except Fault (List Data)} {body body' : Term}
    (hbody : Patched broken body body') :
    Patched broken (.function location parameters body) (.function location parameters body') := by
  have h : Matched id (Patched broken) (.function location parameters body)
    (.function location (List.map (Data.renamed id) <$> parameters) body') := .function hbody
  rw [Data.map_renamed_id, id_map] at h
  exact .kept h

theorem letIn {location : Location} {name : Except Fault Name} {value value' next next' : Term}
    (hvalue : Patched broken value value') (hnext : Patched broken next next') :
    Patched broken (.letIn location name value next) (.letIn location name value' next') := by
  have h : Matched id (Patched broken) (.letIn location name value next)
    (.letIn location (id <$> name) value' next') := .letIn hvalue hnext
  rw [id_map] at h
  exact .kept h

/-- No place has to be replaced. -/
theorem refl (term : Term) : Patched broken term term := by
  induction term with
  | hole cause => exact .kept .hole
  | unknown location kind => exact .kept .unknown
  | bool location value => exact .kept .bool
  | int location value => exact .kept .int
  | string location value => exact .kept .string
  | var location name => exact .var
  | function location parameters body ih => exact .function ih
  | call location callee arguments ihcallee iharguments =>
    exact .kept (.call ihcallee (List.forall₂_same.mpr iharguments))
  | binary location op lhs rhs ihlhs ihrhs => exact .kept (.binary ihlhs ihrhs)
  | letIn location name value next ihvalue ihnext => exact .letIn ihvalue ihnext
  | ifElse location condition consequent alternative ihcondition ihconsequent ihalternative =>
    exact .kept (.ifElse ihcondition ihconsequent ihalternative)
  | print location value ih => exact .kept (.print ih)

end Term.Patched

/-! ## data -/

mutual

/-- Data in some role, and the same with anything else in some of the places where the broken data
stands as a term. -/
inductive Data.Patched (broken : Data) : Data.Role → Data → Data → Prop where
  | same {role : Data.Role} {data : Data} : Data.Patched broken role data data
  | replaced {other : Data} : Data.Patched broken .term broken other
  | object {fields fields' : List (String × Data)} :
    Data.PatchedFields broken (Data.fieldRole (.object fields)) fields fields' →
      Data.Patched broken .term (.object fields) (.object fields')
  | list {items items' : List Data} :
    List.Forall₂ (Data.Patched broken .term) items items' →
      Data.Patched broken .terms (.list items) (.list items')

/-- Fields in their roles, and the same with patches in some of them. -/
inductive Data.PatchedFields (broken : Data) :
    (String → Data.Role) → List (String × Data) → List (String × Data) → Prop where
  | nil {role : String → Data.Role} : Data.PatchedFields broken role [] []
  | cons {role : String → Data.Role} {key : String} {value value' : Data}
      {fields fields' : List (String × Data)} :
    Data.Patched broken (role key) value value' → Data.PatchedFields broken role fields fields' →
      Data.PatchedFields broken role ((key, value) :: fields) ((key, value') :: fields')

end

namespace Data

variable {broken : Data}

/-- What is read neither as a term nor as terms has no broken places. -/
theorem Patched.eq {role : Role} {data data' : Data} (h : Patched broken role data data')
    (hterm : role ≠ .term) (hterms : role ≠ .terms) : data = data' := by
  cases h with
  | same => rfl
  | replaced => exact absurd rfl hterm
  | object _ => exact absurd rfl hterm
  | list _ => exact absurd rfl hterms

namespace PatchedFields

variable {role : String → Role} {fields fields' : List (String × Data)}

/-- A field is missing in both, or there in both and patched in its role. -/
theorem lookup_cases (h : PatchedFields broken role fields fields') (key : String) :
    (fields.lookup key = none ∧ fields'.lookup key = none) ∨
    ∃ data data', (key, data) ∈ fields ∧ fields.lookup key = some data ∧
      fields'.lookup key = some data' ∧ Patched broken (role key) data data' := by
  induction fields generalizing fields' with
  | nil =>
    cases h with
    | nil => exact .inl ⟨rfl, rfl⟩
  | cons field rest ih =>
    cases h with
    | @cons _ name value value' _ _ hvalue hrest =>
      rw [List.lookup_cons, List.lookup_cons]
      by_cases hname : key = name
      · subst hname
        exact .inr ⟨value, value', List.mem_cons_self, by simp, by simp, hvalue⟩
      · have hbeq : (key == name) = false := beq_false_of_ne hname
        simpa [hbeq, hname] using ih hrest

/-- A field that is read neither as a term nor as terms is the same. -/
theorem lookup_eq (h : PatchedFields broken role fields fields') {key : String}
    (hterm : role key ≠ .term) (hterms : role key ≠ .terms) :
    fields'.lookup key = fields.lookup key := by
  obtain ⟨hnone, hnone'⟩ | ⟨data, data', -, hdata, hdata', hpatched⟩ := h.lookup_cases key
  · rw [hnone, hnone']
  · rw [hdata, hdata', hpatched.eq hterm hterms]

end PatchedFields

end Data

/-! ## reading -/

namespace Term

/-- Data whose patches are read as patches, as a term and as arguments. -/
structure ReadsPatched (broken data : Data) : Prop where
  term {data' : Data} : Data.Patched broken .term data data' →
    Patched (ofData broken) (ofData data) (ofData data')
  terms {data' : Data} : Data.Patched broken .terms data data' →
    List.Forall₂ (Patched (ofData broken)) (argumentsOf data) (argumentsOf data')

section

variable {broken : Data} {role : String → Data.Role} {fields fields' : List (String × Data)}
  {key : String}

theorem field_of_patched (h : Data.PatchedFields broken role fields fields')
    (hterm : role key ≠ .term) (hterms : role key ≠ .terms) :
    (Data.object fields').field key = (Data.object fields).field key := by
  rw [Data.field, Data.field, h.lookup_eq hterm hterms]

theorem locationOf_of_patched (h : Data.PatchedFields broken role fields fields')
    (hrole : role "location" = .plain) :
    locationOf (.object fields') = locationOf (.object fields) := by
  rw [locationOf, locationOf, Data.optional, Data.optional, Data.field?, Data.field?,
    h.lookup_eq (by simp [hrole]) (by simp [hrole])]

/-- Parameters are read together with the presence of a body, whatever that is. -/
theorem functionParameters_of_patched (h : Data.PatchedFields broken role fields fields')
    (hrole : role "parameters" = .names) :
    functionParameters (.object fields') = functionParameters (.object fields) := by
  have hparameters : parametersOf (.object fields') = parametersOf (.object fields) := by
    rw [parametersOf, parametersOf, field_of_patched h (by simp [hrole]) (by simp [hrole])]
  rw [functionParameters, functionParameters, hparameters, Data.field, Data.field]
  obtain ⟨hnone, hnone'⟩ | ⟨_, _, -, hbody, hbody', -⟩ := h.lookup_cases "value"
  · rw [hnone, hnone']
  · rw [hbody, hbody']
    rfl

theorem childTerm_of_patched (h : Data.PatchedFields broken role fields fields')
    (hrole : role key = .term) (hread : ∀ field ∈ fields, ReadsPatched broken field.2) :
    Patched (ofData broken) (childTerm (ofFields fields) key)
      (childTerm (ofFields fields') key) := by
  rw [childTerm_ofFields, childTerm_ofFields]
  obtain ⟨hnone, hnone'⟩ | ⟨data, data', hmem, hdata, hdata', hpatched⟩ := h.lookup_cases key
  · rw [hnone, hnone']
    exact .refl _
  · rw [hdata, hdata']
    exact (hread (key, data) hmem).term (hrole ▸ hpatched)

theorem childArguments_of_patched (h : Data.PatchedFields broken role fields fields')
    (hrole : role key = .terms) (hread : ∀ field ∈ fields, ReadsPatched broken field.2) :
    List.Forall₂ (Patched (ofData broken)) (childArguments (ofFields fields) key)
      (childArguments (ofFields fields') key) := by
  rw [childArguments, childArguments, lookup_ofFields, lookup_ofFields]
  obtain ⟨hnone, hnone'⟩ | ⟨data, data', hmem, hdata, hdata', hpatched⟩ := h.lookup_cases key
  · rw [hnone, hnone']
    exact .cons (.refl _) .nil
  · rw [hdata, hdata']
    exact (hread (key, data) hmem).terms (hrole ▸ hpatched)

theorem ofKind_of_patched (kind : TermKind)
    (h : Data.PatchedFields broken kind.role fields fields')
    (hread : ∀ field ∈ fields, ReadsPatched broken field.2) :
    Patched (ofData broken) (ofKind kind (.object fields) (ofFields fields))
      (ofKind kind (.object fields') (ofFields fields')) := by
  cases kind with
  | bool | int | string =>
    rw [ofKind, ofKind, locationOf_of_patched h rfl, field_of_patched h (by decide) (by decide)]
    exact .refl _
  | var =>
    rw [ofKind, ofKind, locationOf_of_patched h rfl, nameIn, nameIn,
      field_of_patched h (by decide) (by decide)]
    exact .refl _
  | function =>
    rw [ofKind, ofKind, locationOf_of_patched h rfl, functionParameters_of_patched h rfl]
    exact .function (childTerm_of_patched h rfl hread)
  | call =>
    rw [ofKind, ofKind, locationOf_of_patched h rfl]
    exact .kept (.call (childTerm_of_patched h rfl hread) (childArguments_of_patched h rfl hread))
  | binary =>
    rw [ofKind, ofKind, locationOf_of_patched h rfl, operatorOf, operatorOf,
      field_of_patched h (by decide) (by decide)]
    exact .kept (.binary (childTerm_of_patched h rfl hread) (childTerm_of_patched h rfl hread))
  | letIn =>
    rw [ofKind, ofKind, locationOf_of_patched h rfl, field_of_patched h (by decide) (by decide)]
    exact .letIn (childTerm_of_patched h rfl hread) (childTerm_of_patched h rfl hread)
  | ifElse =>
    rw [ofKind, ofKind, locationOf_of_patched h rfl]
    exact .kept (.ifElse (childTerm_of_patched h rfl hread) (childTerm_of_patched h rfl hread)
      (childTerm_of_patched h rfl hread))
  | print =>
    rw [ofKind, ofKind, locationOf_of_patched h rfl]
    exact .kept (.print (childTerm_of_patched h rfl hread))

/-- An object and its patches name the same kind, so both are read with the fields of that kind or
with none. -/
theorem ofData_of_patched
    (h : Data.PatchedFields broken (Data.fieldRole (.object fields)) fields fields')
    (hread : ∀ field ∈ fields, ReadsPatched broken field.2) :
    Patched (ofData broken) (ofData (.object fields)) (ofData (.object fields')) := by
  have hkind : (Data.object fields').field? "kind" = (Data.object fields).field? "kind" := by
    rw [Data.field?, Data.field?,
      h.lookup_eq (by simp [Data.fieldRole_kind]) (by simp [Data.fieldRole_kind])]
  rw [ofData, ofData, ofObject_eq, ofObject_eq, hkind]
  cases hknown : TermKind.ofData? ((Data.object fields).field? "kind") with
  | none =>
    have hrole : Data.fieldRole (.object fields) "location" = .plain := by
      rw [Data.fieldRole, hknown]
    rw [locationOf_of_patched h hrole]
    exact .refl _
  | some kind =>
    have hrole : Data.fieldRole (.object fields) = kind.role := by
      funext key
      rw [Data.fieldRole, hknown]
    rw [hrole] at h
    exact ofKind_of_patched kind h hread

/-- All data is read like its patches. -/
theorem readsPatched (data : Data) : ReadsPatched broken data := by
  have hsame (terms : List Term) : List.Forall₂ (Patched (ofData broken)) terms terms :=
    List.forall₂_same.mpr fun term _ => .refl term
  induction data using Data.induct with
  | scalar s =>
    constructor
    · intro data' h
      cases h with
      | same => exact .refl _
      | replaced => exact .replaced
    · intro data' h
      cases h with
      | same => exact hsame _
  | list items ih =>
    constructor
    · intro data' h
      cases h with
      | same => exact .refl _
      | replaced => exact .replaced
    · intro data' h
      cases h with
      | same => exact hsame _
      | list hitems =>
        -- The items are read one by one, so this is about two lists of the same length.
        rw [argumentsOf, argumentsOf, ofItems_eq_map, ofItems_eq_map, List.forall₂_map_left_iff,
          List.forall₂_map_right_iff]
        induction hitems with
        | nil => exact .nil
        | cons hitem _ ihitems =>
          rw [List.forall_mem_cons] at ih
          exact .cons (ih.1.term hitem) (ihitems ih.2)
  | object fields ih =>
    constructor
    · intro data' h
      cases h with
      | same => exact .refl _
      | replaced => exact .replaced
      | object hfields => exact ofData_of_patched hfields ih
    · intro data' h
      cases h with
      | same => exact hsame _

end

/-- An object whose kind is none of the ten is read as a term of no known kind. -/
theorem ofData_of_unknown {broken kind : Data} (hkind : broken.field? "kind" = some kind)
    (hunknown : ∀ known : TermKind, kind ≠ .text known.name) :
    ofData broken = .unknown (locationOf broken) (some kind) := by
  cases broken with
  | object fields =>
    have hnone : TermKind.ofData? (some kind) = none :=
      Option.eq_none_iff_forall_ne_some.mpr fun known h =>
        hunknown known (TermKind.ofData?_eq_some_iff.mp h)
    rw [ofData, ofObject_eq, hkind, hnone]
  | scalar s => cases hkind
  | list items => cases hkind

end Term

/-! ## runs -/

/-- A term and its patches correspond, with the fault of the broken places excused. -/
def Correspondence.patched (location : Location) (kind : Data) : Correspondence where
  rename := id
  term := Term.Patched (.unknown location (some kind))
  excused fault := fault = .unknownKind kind.display
  sameName_rename _ _ := rfl
  matched h := by
    cases h with
    | replaced => exact .inl ⟨location, kind, rfl, rfl⟩
    | kept hmatched => exact .inr hmatched

namespace Term

/-- What is left behind by two runs that are the same up to patches: the same context, the same
error or the same fault, or values that are the same up to patches in the bodies of functions. -/
structure SameUpToPatches (broken : Term) (one other : Outcome Value × Context) : Prop where
  outcome : Outcome.Rel Eq (Value.Patched broken) one.1 other.1
  context_eq : one.2 = other.2

/-- Two ends that correspond, of which the first one is at no broken place. -/
theorem sameUpToPatches_of_ends {location : Location} {kind : Data}
    {one other : Outcome Value × Context}
    (h : (Correspondence.patched location kind).Ends (Correspondence.patched location kind).value
      one other)
    (hne : one.1 ≠ .faulted (.unknownKind kind.display)) :
    SameUpToPatches (.unknown location (some kind)) one other := by
  obtain ⟨fault, rfl, hfault⟩ | ⟨houtcome, hafter⟩ := h
  · exact absurd hfault hne
  · refine ⟨?_, hafter⟩
    have herror : (Correspondence.patched location kind).error = Eq := by
      funext error error'
      exact congrArg (· = error') error.renamed_id
    rwa [herror] at houtcome

/-- Broken places matter only when they are reached.  Take an object whose kind is none of the ten.

* Data in which anything else stands in some of its places is read as a patch of the term that the
  data is.
* If a run does not end in the fault of the object's kind, then the run of every patch, in an
  environment with patches in the bodies of functions, is the same in every context: it leaves the
  same context behind, and ends with the same error, or with the same value up to patches. -/
theorem broken_places_unreached {broken kind : Data} (hkind : broken.field? "kind" = some kind)
    (hunknown : ∀ known : TermKind, kind ≠ .text known.name) :
    (∀ data data' : Data, Data.Patched broken .term data data' →
      Patched (ofData broken) (ofData data) (ofData data')) ∧
    ∀ (limit : Nat) (term term' : Term) (env env' : Env) (context : Context),
      Patched (ofData broken) term term' → env.Patched (ofData broken) env' →
      ∀ runs ∈ [(term.eval limit env context, term'.eval limit env' context),
          (term.evalRoot limit env context, term'.evalRoot limit env' context)],
        runs.1.1 ≠ .faulted (.unknownKind kind.display) →
          SameUpToPatches (ofData broken) runs.1 runs.2 := by
  refine ⟨fun data _ => (readsPatched data).term, ?_⟩
  rw [ofData_of_unknown hkind hunknown]
  intro limit term term' env env' context hterm henv runs hruns hne
  let C := Correspondence.patched (locationOf broken) kind
  have hadmits : C.Admits context := fun _ => rfl
  obtain rfl | rfl := List.mem_pair.mp hruns
  · exact sameUpToPatches_of_ends (C.ends_eval limit hterm henv hadmits) hne
  · exact sameUpToPatches_of_ends (C.ends_evalRoot limit hterm henv hadmits) hne

/-- A let of a function `g` with a broken body, in the environment of another such function, and a
condition with a broken branch that gives `g`.  With null for the body of `g`, a number for the
branch and a list for the other body, the traced run is the same, and gives `g` with its new
body. -/
theorem broken_places_unreached_branch :
    let broken : Data := .object [("kind", .text "Nope")]
    let data (body branch : Data) : Data := .object [("kind", .text "Let"),
      ("name", .object [("text", .text "g")]),
      ("value", .object [("kind", .text "Function"), ("parameters", .list []), ("value", body)]),
      ("next", .object [("kind", .text "If"),
        ("condition", .object [("kind", .text "Bool"), ("value", .bool true)]),
        ("then", .object [("kind", .text "Var"), ("text", .text "g")]),
        ("otherwise", branch)])]
    let env (body : Data) : Env := .binding (.text "f") (.closure [] (ofData body) .empty) .empty
    let context := Context.new .console true none
    let one := (ofData (data broken broken)).evalRoot 0 (env broken) context
    let other := (ofData (data .null (.int 1))).evalRoot 0 (env (.list [])) context
    Data.Patched broken .term (data broken broken) (data .null (.int 1)) ∧
      (env broken).Patched (ofData broken) (env (.list [])) ∧
      SameUpToPatches (ofData broken) one other ∧
      other.1 = .done (.closure [] (.hole .wrongShape) (env (.list []))) := by
  intro broken data env context one other
  have hdata : Data.Patched broken .term (data broken broken) (data .null (.int 1)) :=
    .object (.cons .same (.cons .same (.cons
      (.object (.cons .same (.cons .same (.cons .replaced .nil)))) (.cons
      (.object (.cons .same (.cons .same (.cons .same (.cons .replaced .nil))))) .nil))))
  have henv : (env broken).Patched (ofData broken) (env (.list [])) :=
    .binding (.closure .replaced .empty) .empty
  have hkind : broken.field? "kind" = some (.text "Nope") := rfl
  have hunknown (known : TermKind) : Data.text "Nope" ≠ .text known.name := by
    cases known <;> simp [TermKind.name]
  obtain ⟨hread, hruns⟩ := broken_places_unreached hkind hunknown
  have hsame := hruns 0 _ _ _ _ context (hread _ _ hdata) henv _ (.tail _ (.head _)) nofun
  exact ⟨hdata, henv, hsame, rfl⟩

end Term

end Rinha
