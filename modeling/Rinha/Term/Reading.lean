import Rinha.Data.Coerce
import Rinha.Term.Basic

/-!
# Rinha.Term.Reading

Reading terms from data.  `Term.ofData` takes any data: what is missing or of the wrong shape
becomes the fault of its place and is not looked at before.  Where two things are wrong with one
term, the order in which they are read decides:

* a function's parameters come before the presence of its body (`Term.functionParameters`);
* a binary term's operator is looked up before its operands are evaluated, a let's name is read
  after its value is evaluated; both are parts of their own here, and the evaluator takes them in
  turn.
-/

namespace Rinha.Term

/-! ## parts of one object -/

/-- The kind that data carries. -/
def kindOf (data : Data) : Except Fault Data :=
  data.field "kind"

/-- The location that data carries, if any; asking for it is never a fault. -/
def locationOf (data : Data) : Location :=
  data.optional "location"

/-- The names of a function's parameters in order. -/
def parametersOf (data : Data) : Except Fault (List Data) := do
  let parameters ← data.field "parameters"
  (← parameters.items).mapM fun parameter => parameter.field "text"

/-- The parameters of a function that has a body. -/
def functionParameters (data : Data) : Except Fault (List Data) := do
  let parameters ← parametersOf data
  let _ ← data.field "value"
  return parameters

/-- The name in a field of data. -/
def nameIn (data : Data) : Except Fault Name := do
  (← data.field "text").toName

/-- The operator of a binary term. -/
def operatorOf (data : Data) : Except Fault BinaryOp := do
  (← data.field "op").toOperator

/-! ## whole terms -/

/-- What a field of an object is, read as a term and read as a list of arguments. -/
structure Child where
  term : Term
  arguments : List Term

/-- The subterm in a field. -/
def childTerm (children : List (String × Child)) (key : String) : Term :=
  match children.lookup key with
  | some child => child.term
  | none => .hole (.missingField key)

/-- The arguments in a field. -/
def childArguments (children : List (String × Child)) (key : String) : List Term :=
  match children.lookup key with
  | some child => child.arguments
  | none => [.hole (.missingField key)]

/-- The term that an object of a known kind is, with its fields already read as children. -/
def ofKind (kind : TermKind) (data : Data) (children : List (String × Child)) : Term :=
  let location := locationOf data
  let child := childTerm children
  match kind with
  | .bool => .bool location (Data.toBool <$> data.field "value")
  | .int => .int location (data.field "value" >>= Data.toInt)
  | .string => .string location (Data.toText <$> data.field "value")
  | .var => .var location (nameIn data)
  | .function => .function location (functionParameters data) (child "value")
  | .call => .call location (child "callee") (childArguments children "arguments")
  | .binary => .binary location (operatorOf data) (child "lhs") (child "rhs")
  | .letIn => .letIn location (data.field "name" >>= nameIn) (child "value") (child "next")
  | .ifElse => .ifElse location (child "condition") (child "then") (child "otherwise")
  | .print => .print location (child "value")

/-- The term that an object is, with its fields already read as children. -/
def ofObject (data : Data) (children : List (String × Child)) : Term :=
  match data.field? "kind" with
  | some (.text name) =>
    match TermKind.ofName? name with
    | some kind => ofKind kind data children
    | none => .unknown (locationOf data) (some (.text name))
  | kind => .unknown (locationOf data) kind

/-! Every field of an object is read both ways, whatever the object's kind, so that the recursion
follows the data; the kind then picks the fields that it has. -/

mutual

/-- The term that data is. -/
def ofData : Data → Term
  | .object fields => ofObject (.object fields) (ofFields fields)
  | _ => .hole .wrongShape

/-- The arguments that data is: its parts as terms. -/
def argumentsOf : Data → List Term
  | .list items => ofItems items
  | .text s => s.toList.map fun _ => .hole .wrongShape
  | .object fields => fields.map fun _ => .hole .wrongShape
  | _ => [.hole .wrongShape]

/-- The items of a list as terms. -/
def ofItems : List Data → List Term
  | [] => []
  | data :: rest => ofData data :: ofItems rest

/-- The fields of an object as children. -/
def ofFields : List (String × Data) → List (String × Child)
  | [] => []
  | (key, data) :: rest => (key, ⟨ofData data, argumentsOf data⟩) :: ofFields rest

end

theorem ofItems_eq_map (items : List Data) : ofItems items = items.map ofData := by
  induction items with
  | nil => rfl
  | cons data rest ih => simp [ofItems, ih]

theorem lookup_ofFields (fields : List (String × Data)) (key : String) :
    (ofFields fields).lookup key
      = (fields.lookup key).map fun data => ⟨ofData data, argumentsOf data⟩ := by
  induction fields with
  | nil => rfl
  | cons field rest ih =>
    obtain ⟨k, data⟩ := field
    simp only [ofFields, List.lookup_cons, ih]
    split <;> rfl

/-- The subterm in a field is the term that the field is. -/
theorem childTerm_ofFields (fields : List (String × Data)) (key : String) :
    childTerm (ofFields fields) key
      = match fields.lookup key with
        | some data => ofData data
        | none => .hole (.missingField key) := by
  rw [childTerm, lookup_ofFields]
  cases fields.lookup key <;> rfl

end Rinha.Term
