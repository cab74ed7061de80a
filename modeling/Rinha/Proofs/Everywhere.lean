import Rinha.Value.Env

/-!
# Rinha.Proofs.Everywhere

Functions inside values.  A function captures an environment, the functions in there have captured
others, and so on.  A condition on functions holds everywhere in a value if it holds of every
function that is to be found in it in this way (`Value.Everywhere`, `Env.Everywhere`); values of
other kinds hold no functions.

Looking up and binding names neither make functions nor lose any, so `Env.Everywhere` is kept by
`Env.lookup?`, `Env.bind` and `Env.bindAll`.
-/

namespace Rinha

mutual

/-- A condition holds of every function in a value. -/
def Value.Everywhere (P : Closure → Prop) : Value → Prop
  | .closure parameters body env => P ⟨parameters, body, env⟩ ∧ env.Everywhere P
  | .bool _ | .int _ | .string _ | .foreign _ _ => True

/-- A condition holds of every function in the values of an environment. -/
def Env.Everywhere (P : Closure → Prop) : Env → Prop
  | .empty => True
  | .binding _ value rest => value.Everywhere P ∧ rest.Everywhere P

end

mutual

/-- What holds everywhere does so if it is weakened. -/
theorem Value.Everywhere.mono {P Q : Closure → Prop} (hPQ : ∀ closure, P closure → Q closure) :
    {value : Value} → value.Everywhere P → value.Everywhere Q
  | .closure _ _ _, h => ⟨hPQ _ h.1, Env.Everywhere.mono hPQ h.2⟩
  | .bool _, _ | .int _, _ | .string _, _ | .foreign _ _, _ => trivial

theorem Env.Everywhere.mono {P Q : Closure → Prop} (hPQ : ∀ closure, P closure → Q closure) :
    {env : Env} → env.Everywhere P → env.Everywhere Q
  | .empty, _ => trivial
  | .binding _ _ _, h => ⟨Value.Everywhere.mono hPQ h.1, Env.Everywhere.mono hPQ h.2⟩

end

namespace Env.Everywhere

variable {P : Closure → Prop} {env : Env} {name : Name} {value : Value}

theorem lookup? (h : env.Everywhere P) (hlookup : env.lookup? name = some value) :
    value.Everywhere P := by
  induction env with
  | empty => simp at hlookup
  | binding bound old rest ih =>
    rw [Env.lookup?] at hlookup
    by_cases hsame : sameName bound name = true
    · rw [if_pos hsame, Option.some.injEq] at hlookup
      exact hlookup ▸ h.1
    · rw [if_neg hsame] at hlookup
      exact ih h.2 hlookup

theorem bind (h : env.Everywhere P) (name : Name) (hvalue : value.Everywhere P) :
    (env.bind name value).Everywhere P := by
  induction env with
  | empty => exact ⟨hvalue, trivial⟩
  | binding bound old rest ih =>
    rw [Env.bind]
    by_cases hsame : sameName bound name = true
    · rw [if_pos hsame]
      exact ⟨hvalue, h.2⟩
    · rw [if_neg hsame]
      exact ⟨h.1, ih h.2⟩

theorem bindAll {parameters : List Data} {arguments : List Value} {result : Env}
    (h : env.Everywhere P) (harguments : ∀ argument ∈ arguments, argument.Everywhere P)
    (hbind : env.bindAll parameters arguments = .ok result) : result.Everywhere P := by
  induction parameters generalizing env arguments with
  | nil => cases hbind; exact h
  | cons parameter parameters ih =>
    cases arguments with
    | nil => cases hbind; exact h
    | cons value arguments =>
      rw [List.forall_mem_cons] at harguments
      cases parameter with
      | scalar name => exact ih (h.bind name harguments.1) harguments.2 hbind
      | list items => cases hbind
      | object fields => cases hbind

end Env.Everywhere

end Rinha
