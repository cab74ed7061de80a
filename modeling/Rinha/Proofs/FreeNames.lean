import Rinha.Value.Env

/-!
# Rinha.Proofs.FreeNames

The free names of a term: those that it may look up in the environment that it is evaluated in.  A
function takes its parameters out of the free names of its body, and a let takes its name out of
those of what comes next, though not out of those of its own value.  Names are compared as
environments compare them, so a binding takes out every spelling of its name.
-/

namespace Rinha

/-- Whether a parameter binds a name.  What is no name binds none. -/
def Data.names : Data → Name → Bool
  | .scalar bound, name => Env.sameName bound name
  | .list _, _ | .object _, _ => false

namespace Term

/-- The names that none of the parameters binds. -/
def beyond (parameters : List Data) (names : List Name) : List Name :=
  names.filter fun name => !parameters.any fun parameter => parameter.names name

theorem mem_beyond {parameters : List Data} {names : List Name} {name : Name} :
    name ∈ beyond parameters names ↔
      name ∈ names ∧ ∀ parameter ∈ parameters, parameter.names name = false := by
  simp [beyond]

@[simp] theorem beyond_nil (names : List Name) : beyond [] names = names := by
  simp [beyond]

mutual

/-- The free names of a term. -/
def free : Term → List Name
  | hole _ | unknown _ _ | bool _ _ | int _ _ | string _ _ => []
  | var _ (.ok name) => [name]
  | var _ (.error _) => []
  | function _ (.ok parameters) body => beyond parameters body.free
  | function _ (.error _) _ => []
  | call _ callee arguments => callee.free ++ freeAll arguments
  | binary _ _ lhs rhs => lhs.free ++ rhs.free
  | letIn _ (.ok name) value next => value.free ++ beyond [.scalar name] next.free
  | letIn _ (.error _) value _ => value.free
  | ifElse _ condition consequent alternative =>
    condition.free ++ (consequent.free ++ alternative.free)
  | print _ value => value.free

/-- The free names of terms. -/
def freeAll : List Term → List Name
  | [] => []
  | term :: rest => term.free ++ freeAll rest

end

theorem mem_freeAll {terms : List Term} {name : Name} :
    name ∈ freeAll terms ↔ ∃ term ∈ terms, name ∈ term.free := by
  induction terms with
  | nil => simp [freeAll]
  | cons term rest ih => simp [freeAll, ih]

end Term

end Rinha
