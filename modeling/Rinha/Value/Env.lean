import Rinha.Value.Basic

/-!
# Rinha.Value.Env

Looking up and binding names.  An environment is never changed: `Env.bind` gives a new one, in which
the name has the new value and every other name its old one.  `Env.lookup?_bind` is that rule, and
with it the order of the bindings is of no account to a program.
-/

namespace Rinha.Env

/-- Induction on the bindings; nothing is shown of the values. -/
@[induction_eliminator]
theorem induct {motive : Env → Prop} (empty : motive .empty)
    (binding : ∀ name value rest, motive rest → motive (.binding name value rest)) (env : Env) :
    motive env :=
  @Env.rec (fun _ => True) motive (fun _ => trivial) (fun _ => trivial) (fun _ => trivial)
    (fun _ _ _ _ => trivial) (fun _ _ => trivial) empty
    (fun name value rest _ hrest => binding name value rest hrest) env

/-- Whether two names are the same name. -/
def sameName (a b : Name) : Bool :=
  decide (a.key = b.key)

/-- Two texts are the same name only if they are the same text. -/
@[simp] theorem sameName_text (a b : String) :
    sameName (.text a) (.text b) = decide (a = b) := by
  simp [sameName]

theorem sameName_comm (a b : Name) : sameName a b = sameName b a := by
  simp [sameName, eq_comm]

/-! ## bindings -/

/-- The value that a name is bound to. -/
def lookup? : Env → Name → Option Value
  | .empty, _ => none
  | .binding bound value rest, name =>
    if sameName bound name then some value else rest.lookup? name

/-- The value of a variable. -/
def lookup (env : Env) (name : Name) : Except Cause Value :=
  match env.lookup? name with
  | some value => .ok value
  | none => .error (.unboundVariable (.scalar name))

/-- The environment with a name bound to a value.  A name that is bound already keeps its place and
its spelling; a new one comes last. -/
def bind : Env → Name → Value → Env
  | .empty, name, value => .binding name value .empty
  | .binding bound old rest, name, value =>
    if sameName bound name then .binding bound value rest
    else .binding bound old (rest.bind name value)

/-- Bind names to values pairwise, in order, as far as both go.  What cannot be a name is noticed
when it is about to be bound. -/
def bindAll (env : Env) : List Data → List Value → Except Fault Env
  | name :: names, value :: values => do (env.bind (← name.toName) value).bindAll names values
  | _, _ => .ok env

/-- The environment of a row of bindings. -/
def ofList (bindings : List (Name × Value)) : Env :=
  bindings.foldl (fun env (name, value) => env.bind name value) .empty

/-- The bindings in order. -/
def toList : Env → List (Name × Value)
  | .empty => []
  | .binding name value rest => (name, value) :: rest.toList

theorem lookup_eq_ok_iff {env : Env} {name : Name} {value : Value} :
    env.lookup name = .ok value ↔ env.lookup? name = some value := by
  cases h : env.lookup? name <;> simp [lookup, h]

theorem lookup_eq_error_iff {env : Env} {name : Name} {cause : Cause} :
    env.lookup name = .error cause ↔
      env.lookup? name = none ∧ .unboundVariable (.scalar name) = cause := by
  cases h : env.lookup? name <;> simp [lookup, h]

/-! ## what a name is bound to afterwards -/

@[simp] theorem lookup?_empty (name : Name) : Env.empty.lookup? name = none := rfl

/-- Being the same name is an equivalence: two names that are the same as one are so to every
other. -/
theorem sameName_congr {a b : Name} (h : sameName a b = true) (c : Name) :
    sameName a c = sameName b c := by
  simp only [sameName, decide_eq_true_eq] at h
  simp [sameName, h]

/-- Binding a name changes that name and no other. -/
theorem lookup?_bind (env : Env) (name other : Name) (value : Value) :
    (env.bind name value).lookup? other
      = if sameName name other then some value else env.lookup? other := by
  match env with
  | .empty => rfl
  | .binding bound old rest =>
    rw [bind]
    split
    · next h => simp only [lookup?, sameName_congr h]; split <;> rfl
    · next h =>
      simp only [lookup?, lookup?_bind rest]
      split
      · next ho =>
        have : ¬ sameName name other = true := fun hn =>
          h (by rwa [sameName_congr ho, sameName_comm])
        simp [this]
      · rfl

/-- A name that was just bound has its new value. -/
@[simp] theorem lookup?_bind_self (env : Env) (name : Name) (value : Value) :
    (env.bind name value).lookup? name = some value := by
  simp [lookup?_bind, sameName]

end Rinha.Env
