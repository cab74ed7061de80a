import Rinha.Data.Display

/-!
# Rinha.Value.Kind

The kinds of value.  The language has four; a host that embeds it may hand in values of other kinds,
which programs can carry about and show but not compute with.  Such a kind is any scalar that is not
the name of one of the four (`ForeignKind`).
-/

namespace Rinha

/-- The kinds of value that the language has. -/
inductive ValueKind where
  | bool | int | string | closure
deriving DecidableEq, Repr, Inhabited

namespace ValueKind

/-- All kinds in the order in which they are listed. -/
def all : List ValueKind :=
  [bool, int, string, closure]

/-- The name of a kind. -/
def name : ValueKind → String
  | bool => "bool"
  | int => "int"
  | string => "string"
  | closure => "closure"

/-- The kind of a name. -/
def ofName? (name : String) : Option ValueKind :=
  all.find? fun kind => kind.name == name

/-- The kind that a scalar names.  Only texts name one. -/
def ofScalar? : Scalar → Option ValueKind
  | .text name => ofName? name
  | _ => none

/-- What messages call a value of a kind. -/
def description : ValueKind → String
  | bool => "a bool"
  | int => "an int"
  | string => "a string"
  | closure => "a function"

/-- Whether two values of a kind can be compared. -/
def isEquatable : ValueKind → Bool
  | bool | int | string => true
  | closure => false

theorem mem_all (kind : ValueKind) : kind ∈ all := by
  cases kind <;> decide

@[simp] theorem ofName?_name (kind : ValueKind) : ofName? kind.name = some kind := by
  cases kind <;> decide

end ValueKind

/-- The name of a kind that the language does not have. -/
structure ForeignKind where
  name : Scalar
  foreign : ValueKind.ofScalar? name = none
deriving DecidableEq

/-- No foreign kind bears the name of one of the language's. -/
theorem ForeignKind.name_ne (foreign : ForeignKind) (kind : ValueKind) :
    foreign.name ≠ .text kind.name := by
  intro h
  have := foreign.foreign
  rw [h, ValueKind.ofScalar?, ValueKind.ofName?_name] at this
  cases this

/-- What messages call a value, by the name of its kind: the language's own kinds by their
descriptions, any other by its name after the article. -/
def kindInWords (kind : Scalar) : String :=
  match ValueKind.ofScalar? kind with
  | some known => known.description
  | none => "a " ++ kind.display

@[simp] theorem kindInWords_name (kind : ValueKind) :
    kindInWords (.text kind.name) = kind.description := by
  simp [kindInWords, ValueKind.ofScalar?]

end Rinha
