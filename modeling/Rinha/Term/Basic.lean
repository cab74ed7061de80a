import Rinha.BinaryOp
import Rinha.Data.Basic

/-!
# Rinha.Term.Basic

The syntax tree.  There are ten kinds of term; beside them stand two constructors for what is not a
term of the language but may stand in the place of one:

* `Term.hole` for a place that holds nothing readable, with the fault that going there ends in;
* `Term.unknown` for an object whose kind is none of the ten, or is missing.

In the same way a part that is no subterm, such as a literal's payload or a variable's name, is
either there or a fault.  So a tree can be built from any data at all, and what is wrong with a
place matters only to an evaluation that reaches it.
-/

namespace Rinha

/-- The ten kinds of term. -/
inductive TermKind where
  | bool | int | string | var | function | call | binary | letIn | ifElse | print
deriving DecidableEq, Repr, Inhabited

namespace TermKind

/-- All kinds in the order in which they are listed. -/
def all : List TermKind :=
  [bool, int, string, var, function, call, binary, letIn, ifElse, print]

/-- The name that a term carries for its kind. -/
def name : TermKind → String
  | bool => "Bool"
  | int => "Int"
  | string => "String"
  | var => "Var"
  | function => "Function"
  | call => "Call"
  | binary => "Binary"
  | letIn => "Let"
  | ifElse => "If"
  | print => "Print"

/-- The kind of a name. -/
def ofName? (name : String) : Option TermKind :=
  all.find? fun kind => kind.name == name

theorem mem_all (kind : TermKind) : kind ∈ all := by
  cases kind <;> decide

@[simp] theorem ofName?_name (kind : TermKind) : ofName? kind.name = some kind := by
  cases kind <;> decide

/-- Exactly the names of the kinds are read. -/
theorem ofName?_eq_some_iff {name : String} {kind : TermKind} :
    ofName? name = some kind ↔ kind.name = name := by
  constructor
  · intro h
    simpa using List.find?_some h
  · rintro rfl
    exact ofName?_name kind

end TermKind

/-- A place in source text as a term carries it.  It is passed on and never looked into, so any
data will do; a missing one and null are no location. -/
abbrev Location := Option Data

/-- A syntax tree.  Every node has its location first. -/
inductive Term where
  /-- Nothing readable: going there ends in the fault. -/
  | hole (fault : Fault)
  /-- An object whose kind is none of the ten; without a kind it lacks the field. -/
  | unknown (location : Location) (kind : Option Data)
  | bool (location : Location) (value : Except Fault Bool)
  | int (location : Location) (value : Except Fault Int)
  | string (location : Location) (value : Except Fault String)
  | var (location : Location) (name : Except Fault Name)
  /-- A function with its parameters.  They are read together with the presence of a body, so one
  fault stands for both. -/
  | function (location : Location) (parameters : Except Fault (List Data)) (body : Term)
  /-- A call.  Arguments that cannot be gone through are a single hole. -/
  | call (location : Location) (callee : Term) (arguments : List Term)
  | binary (location : Location) (op : Except Fault BinaryOp) (lhs rhs : Term)
  | letIn (location : Location) (name : Except Fault Name) (value next : Term)
  | ifElse (location : Location) (condition consequent alternative : Term)
  | print (location : Location) (value : Term)
deriving Inhabited

namespace Term

/-- Induction on terms; what is shown of a call may use that it holds of every argument. -/
@[induction_eliminator]
theorem induct {motive : Term → Prop}
    (hole : ∀ fault, motive (.hole fault))
    (unknown : ∀ location kind, motive (.unknown location kind))
    (bool : ∀ location value, motive (.bool location value))
    (int : ∀ location value, motive (.int location value))
    (string : ∀ location value, motive (.string location value))
    (var : ∀ location name, motive (.var location name))
    (function : ∀ location parameters body, motive body →
      motive (.function location parameters body))
    (call : ∀ location callee arguments, motive callee →
      (∀ argument ∈ arguments, motive argument) → motive (.call location callee arguments))
    (binary : ∀ location op lhs rhs, motive lhs → motive rhs →
      motive (.binary location op lhs rhs))
    (letIn : ∀ location name value next, motive value → motive next →
      motive (.letIn location name value next))
    (ifElse : ∀ location condition consequent alternative, motive condition →
      motive consequent → motive alternative →
      motive (.ifElse location condition consequent alternative))
    (print : ∀ location value, motive value → motive (.print location value))
    (term : Term) : motive term :=
  @Term.rec motive (fun terms => ∀ term ∈ terms, motive term)
    hole unknown bool int string var function call binary letIn ifElse print
    (fun _ h => nomatch h)
    (fun _ _ hhead htail => List.forall_mem_cons.mpr ⟨hhead, htail⟩) term

/-- The location of a term.  What holds nothing readable has none. -/
def location : Term → Location
  | hole _ => none
  | unknown location _ | bool location _ | int location _ | string location _ | var location _
  | function location _ _ | call location _ _ | binary location _ _ _ | letIn location _ _ _
  | ifElse location _ _ _ | print location _ => location

/-- The kind that a term carries, whether it is one of the ten or not. -/
def kind? : Term → Option Data
  | hole _ => none
  | unknown _ kind => kind
  | bool _ _ => some (.text TermKind.bool.name)
  | int _ _ => some (.text TermKind.int.name)
  | string _ _ => some (.text TermKind.string.name)
  | var _ _ => some (.text TermKind.var.name)
  | function _ _ _ => some (.text TermKind.function.name)
  | call _ _ _ => some (.text TermKind.call.name)
  | binary _ _ _ _ => some (.text TermKind.binary.name)
  | letIn _ _ _ _ => some (.text TermKind.letIn.name)
  | ifElse _ _ _ _ => some (.text TermKind.ifElse.name)
  | print _ _ => some (.text TermKind.print.name)

end Term

end Rinha
