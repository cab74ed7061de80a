import Rinha.Proofs.Exhaustion
import Rinha.Proofs.NaturalSemantics
import Rinha.Proofs.Printed
import Rinha.Proofs.Visible

/-!
# Rinha.Proofs.Adequacy

The evaluator and the natural semantics give the same outcomes.  Both are compared where nothing but
the outcome and the printed lines is seen (`Rinha.Visible`):

* `Term.yields_of_evalIn` — what the evaluator gives at some limit is derivable, by induction on the
  limit and below that on the term;
* `Term.Yields.eventually` — what is derivable the evaluator gives at all limits that are great
  enough, by induction on the derivation;
* `Term.yields_iff_evalRoot` — both together, for runs of well-formed terms in a context.

An exhausted run is an error at the root term.  No derivation ends in it, and it is not what a run
comes to at all great limits either, because the depth that it tells grows with the limit.
-/

namespace Rinha

open Effects

/-- Parameters extend an environment as far as there are arguments for all of them. -/
theorem Env.extends_iff {env extended : Env} {parameters : List Data} {arguments : List Value} :
    env.Extends parameters arguments extended ↔
      parameters.length ≤ arguments.length ∧ env.bindAll parameters arguments = .ok extended := by
  constructor
  · intro h
    induction h with
    | nil => exact ⟨Nat.zero_le _, rfl⟩
    | cons _ ih => exact ⟨Nat.succ_le_succ ih.1, ih.2⟩
  · rintro ⟨hle, hbind⟩
    induction parameters generalizing env arguments with
    | nil => cases hbind; exact .nil
    | cons parameter parameters ih =>
      cases arguments with
      | nil => cases hle
      | cons value arguments =>
        cases parameter with
        | scalar name => exact .cons (ih (Nat.le_of_succ_le_succ hle) hbind)
        | list items => cases hbind
        | object fields => cases hbind

namespace Term

/-! ## what the evaluator gives, the rules derive -/

section

variable {invoke : Term → Env → Visible Value}

theorem yieldsAll_of_evalAllWith {terms : List Term} {env : Env}
    (h : ∀ term ∈ terms, ∀ {outcome lines}, term.evalWith invoke env = ⟨some outcome, lines⟩ →
      Yields env term outcome lines)
    {outcome : Except Cause (List Value)} {lines : List String}
    (hrun : evalAllWith invoke terms env = ⟨some outcome, lines⟩) :
    YieldsAll env terms outcome lines := by
  induction terms generalizing outcome lines with
  | nil => cases hrun; exact .nil
  | cons term rest ih =>
    rw [List.forall_mem_cons] at h
    rw [evalAllWith, Visible.bind_eq_iff] at hrun
    obtain ⟨cause, hterm, rfl⟩ | ⟨value, past, more, hterm, hrest, rfl⟩ := hrun
    · exact .headError (h.1 hterm)
    · rw [Visible.bind_eq_iff] at hrest
      obtain ⟨cause, hrest, rfl⟩ | ⟨values, past', more', hrest, hpure, rfl⟩ := hrest
      · exact .tailError (h.1 hterm) (ih h.2 hrest)
      · cases hpure
        rw [List.append_nil]
        exact .cons (h.1 hterm) (ih h.2 hrest)

/-- What a call gives, once the callee and the arguments have their values. -/
theorem yields_of_apply
    (hinvoke : ∀ {body env outcome lines}, invoke body env = ⟨some outcome, lines⟩ →
      Yields env body outcome lines)
    {env captured : Env} {location : Location} {callee body : Term} {arguments : List Term}
    {parameters : List Data} {values : List Value} {past more last : List String}
    {outcome : Except Cause Value}
    (hcallee : Yields env callee (.ok (.closure parameters body captured)) past)
    (harguments : YieldsAll env arguments (.ok values) more) {value : Value}
    (hrun : apply invoke value ⟨parameters, body, captured⟩ values = ⟨some outcome, last⟩) :
    Yields env (.call location callee arguments) outcome (past ++ (more ++ last)) := by
  rw [apply, callEnv] at hrun
  dsimp only at hrun
  cases hdrop : parameters.drop values.length with
  | cons parameter rest =>
    rw [hdrop] at hrun
    obtain ⟨rfl, rfl⟩ : .error (.missingArgument parameter) = outcome ∧ [] = last := by
      cases hrun
      exact ⟨rfl, rfl⟩
    have hmissing : parameters[values.length]? = some parameter := by
      rw [← List.head?_drop, hdrop, List.head?_cons]
    rw [List.append_nil]
    exact .missingArgument hcallee harguments hmissing
  | nil =>
    rw [hdrop] at hrun
    cases hbind : captured.bindAll parameters values with
    | error fault => rw [hbind] at hrun; cases hrun
    | ok extended =>
      rw [hbind] at hrun
      exact .call hcallee harguments
        (Env.extends_iff.mpr ⟨List.drop_eq_nil_iff.mp hdrop, hbind⟩) (hinvoke hrun)

/-- What the evaluator gives is derivable, if that holds for the bodies that it runs. -/
theorem yields_of_evalWith
    (hinvoke : ∀ {body env outcome lines}, invoke body env = ⟨some outcome, lines⟩ →
      Yields env body outcome lines)
    {term : Term} {env : Env} {outcome : Except Cause Value} {lines : List String}
    (h : term.evalWith invoke env = ⟨some outcome, lines⟩) : Yields env term outcome lines := by
  induction term generalizing env outcome lines with
  | hole cause => cases h
  | unknown location kind => cases kind <;> cases h
  | bool location value =>
    cases value with
    | error fault => cases h
    | ok b => cases h; exact .bool
  | int location value =>
    cases value with
    | error fault => cases h
    | ok n => cases h; exact .int
  | string location value =>
    cases value with
    | error fault => cases h
    | ok s => cases h; exact .string
  | var location name =>
    cases name with
    | error fault => cases h
    | ok name =>
      rw [evalWith, Visible.node_eq, orFault_ok, Visible.pure_bind, Env.lookup] at h
      cases hlookup : env.lookup? name with
      | none => rw [hlookup] at h; cases h; exact .unbound hlookup
      | some value => rw [hlookup] at h; cases h; exact .var hlookup
  | function location parameters body =>
    cases parameters with
    | error fault => cases h
    | ok parameters => cases h; exact .function
  | call location callee arguments ihcallee iharguments =>
    rw [evalWith, Visible.node_eq, Visible.bind_eq_iff] at h
    obtain ⟨cause, hcallee, rfl⟩ | ⟨value, past, more, hcallee, h, rfl⟩ := h
    · exact .calleeError (ihcallee hcallee)
    · rw [Visible.orFail_bind_eq_iff] at h
      obtain ⟨cause, hclosure, rfl, rfl⟩ | ⟨⟨parameters, body, captured⟩, hclosure, h⟩ := h
      · obtain ⟨hkind, rfl⟩ := Value.toClosure_eq_error_iff.mp hclosure
        rw [List.append_nil]
        exact .noFunction (ihcallee hcallee) hkind
      · obtain rfl := Value.toClosure_eq_ok_iff.mp hclosure
        rw [Visible.bind_eq_iff] at h
        obtain ⟨cause, harguments, rfl⟩ | ⟨values, more, last, harguments, happly, rfl⟩ := h
        · exact .argumentError (ihcallee hcallee)
            (yieldsAll_of_evalAllWith (fun term hmem => iharguments term hmem) harguments)
        · exact yields_of_apply hinvoke (ihcallee hcallee)
            (yieldsAll_of_evalAllWith (fun term hmem => iharguments term hmem) harguments) happly
  | binary location op lhs rhs ihlhs ihrhs =>
    cases op with
    | error fault => cases h
    | ok op =>
      rw [evalWith, Visible.node_eq, orFault_ok, Visible.pure_bind, Visible.bind_eq_iff] at h
      obtain ⟨cause, hlhs, rfl⟩ | ⟨a, past, more, hlhs, h, rfl⟩ := h
      · exact .lhsError (ihlhs hlhs)
      · rw [Visible.bind_eq_iff] at h
        obtain ⟨cause, hrhs, rfl⟩ | ⟨b, more, last, hrhs, h, rfl⟩ := h
        · exact .rhsError (ihlhs hlhs) (ihrhs hrhs)
        · rw [Visible.orFail_eq] at h
          cases h
          rw [List.append_nil]
          cases happly : op.apply a b with
          | error cause =>
            exact .refused (ihlhs hlhs) (ihrhs hrhs) (BinaryOp.apply_eq_error_iff.mp happly)
          | ok result =>
            exact .binary (ihlhs hlhs) (ihrhs hrhs) (BinaryOp.apply_eq_ok_iff.mp happly)
  | letIn location name value next ihvalue ihnext =>
    rw [evalWith, Visible.node_eq, Visible.bind_eq_iff] at h
    obtain ⟨cause, hvalue, rfl⟩ | ⟨bound, past, more, hvalue, h, rfl⟩ := h
    · exact .valueError (ihvalue hvalue)
    · cases name with
      | error fault => cases h
      | ok name => exact .letIn (ihvalue hvalue) (ihnext h)
  | ifElse location condition consequent alternative ihcondition ihconsequent ihalternative =>
    rw [evalWith, Visible.node_eq, Visible.bind_eq_iff] at h
    obtain ⟨cause, hcondition, rfl⟩ | ⟨value, past, more, hcondition, h, rfl⟩ := h
    · exact .conditionError (ihcondition hcondition)
    · rw [Visible.orFail_bind_eq_iff] at h
      obtain ⟨cause, hchosen, rfl, rfl⟩ | ⟨chosen, hchosen, h⟩ := h
      · obtain ⟨hkind, rfl⟩ := Value.toBool_eq_error_iff.mp hchosen
        rw [List.append_nil]
        exact .noBool (ihcondition hcondition) hkind
      · obtain rfl := Value.toBool_eq_ok_iff.mp hchosen
        cases chosen with
        | true => exact .consequent (ihcondition hcondition) (ihconsequent h)
        | false => exact .alternative (ihcondition hcondition) (ihalternative h)
  | print location value ihvalue =>
    rw [evalWith, Visible.node_eq, Visible.bind_eq_iff] at h
    obtain ⟨cause, hvalue, rfl⟩ | ⟨result, past, more, hvalue, h, rfl⟩ := h
    · exact .printedError (ihvalue hvalue)
    · rw [printValue, Visible.orFail_bind_eq_iff] at h
      obtain ⟨cause, htext, rfl, rfl⟩ | ⟨s, htext, h⟩ := h
      · obtain ⟨hkind, rfl⟩ := Value.toText_eq_error_iff.mp htext
        rw [List.append_nil]
        exact .noString (ihvalue hvalue) hkind
      · obtain rfl := Value.toText_eq_ok_iff.mp htext
        cases h
        exact .print (ihvalue hvalue)

end

/-- Every outcome that the evaluator gives at some limit is derivable. -/
theorem yields_of_evalIn {limit : Nat} {term : Term} {env : Env} {outcome : Except Cause Value}
    {lines : List String} (h : term.evalIn Visible limit env = ⟨some outcome, lines⟩) :
    Yields env term outcome lines := by
  induction limit generalizing term env outcome lines with
  | zero => exact yields_of_evalWith (fun h => by cases h) h
  | succ limit ih => exact yields_of_evalWith ih h

end Term

/-! ## what the rules derive, the evaluator gives -/

/-- From some limit on, computations end like this and print these lines. -/
def Visible.Eventually {α : Type} (runs : Nat → Visible α) (outcome : Except Cause α)
    (lines : List String) : Prop :=
  ∃ bound, ∀ limit ≥ bound, runs limit = ⟨some outcome, lines⟩

namespace Visible.Eventually

variable {α β : Type} {runs : Nat → Visible α} {next : Nat → α → Visible β} {result : α}
variable {outcome : Except Cause β} {lines more : List String}

theorem pure : Eventually (fun _ => Pure.pure result) (.ok result) [] :=
  ⟨0, fun _ _ => rfl⟩

theorem orFail {x outcome : Except Cause α} (h : x = outcome) :
    Eventually (fun _ => Effects.orFail x) outcome [] :=
  ⟨0, fun _ _ => by rw [h, orFail_eq]⟩

theorem bind_error {cause : Cause} (h : Eventually runs (.error cause) lines) :
    Eventually (fun limit => runs limit >>= next limit) (.error cause) lines := by
  obtain ⟨bound, hbound⟩ := h
  exact ⟨bound, fun limit hle => Visible.bind_error (hbound limit hle) _⟩

theorem bind (h : Eventually runs (.ok result) lines)
    (hnext : Eventually (fun limit => next limit result) outcome more) :
    Eventually (fun limit => runs limit >>= next limit) outcome (lines ++ more) := by
  obtain ⟨bound, hbound⟩ := h
  obtain ⟨later, hlater⟩ := hnext
  refine ⟨max bound later, fun limit hle => ?_⟩
  have hlast : next limit result = ⟨some outcome, more⟩ := hlater limit (by omega)
  dsimp only
  rw [Visible.bind_ok (hbound limit (by omega)), hlast]

/-- A first step that prints nothing. -/
theorem silent_bind (h : Eventually runs (.ok result) [])
    (hnext : Eventually (fun limit => next limit result) outcome lines) :
    Eventually (fun limit => runs limit >>= next limit) outcome lines :=
  h.bind hnext

/-- A last step that prints nothing. -/
theorem bind_silent (h : Eventually runs (.ok result) lines)
    (hnext : Eventually (fun limit => next limit result) outcome []) :
    Eventually (fun limit => runs limit >>= next limit) outcome lines := by
  rw [← List.append_nil lines]
  exact h.bind hnext

theorem node (kind : String) (location : Location) {outcome : Except Cause α}
    (h : Eventually runs outcome lines) :
    Eventually (fun limit => Effects.node kind location (runs limit)) outcome lines := h

/-- What calls with one call less inside come to. -/
theorem of_succ {outcome : Except Cause α}
    (h : Eventually (fun limit => runs (limit + 1)) outcome lines) :
    Eventually runs outcome lines := by
  obtain ⟨bound, hbound⟩ := h
  refine ⟨bound + 1, fun limit hle => ?_⟩
  obtain ⟨less, rfl⟩ := Nat.exists_eq_add_of_le' (Nat.le_trans (Nat.le_add_left 1 bound) hle)
  exact hbound less (by omega)

end Visible.Eventually

namespace Term

/-- What a call comes to, once the callee and the arguments have their values. -/
theorem eventually_apply {captured extended : Env} {parameters : List Data} {values : List Value}
    (hextends : captured.Extends parameters values extended) {body : Term} {value : Value}
    {outcome : Except Cause Value} {lines : List String}
    (h : Visible.Eventually (fun limit => body.evalIn Visible limit extended) outcome lines) :
    Visible.Eventually (fun limit => apply (evalIn Visible limit) value
      ⟨parameters, body, captured⟩ values) outcome lines := by
  obtain ⟨hle, hbind⟩ := Env.extends_iff.mp hextends
  obtain ⟨bound, hbound⟩ := h
  refine ⟨bound, fun limit hlimit => ?_⟩
  dsimp only [apply, callEnv]
  rw [List.drop_eq_nil_of_le hle, hbind]
  exact hbound limit hlimit

theorem eventually_missing {captured : Env} {parameters : List Data} {values : List Value}
    {parameter : Data} (hmissing : parameters[values.length]? = some parameter) {body : Term}
    {value : Value} :
    Visible.Eventually (fun limit => apply (evalIn Visible limit) value
      ⟨parameters, body, captured⟩ values) (.error (.missingArgument parameter)) [] := by
  refine ⟨0, fun limit _ => ?_⟩
  rw [← List.head?_drop, List.head?_eq_some_iff] at hmissing
  obtain ⟨rest, hdrop⟩ := hmissing
  dsimp only [apply, callEnv]
  rw [hdrop]
  rfl

mutual

/-- Every derivable outcome is what the evaluator gives from some limit on. -/
theorem Yields.eventually {env : Env} {term : Term} {outcome : Except Cause Value}
    {lines : List String} (h : Yields env term outcome lines) :
    Visible.Eventually (fun limit => term.evalWith (evalIn Visible limit) env) outcome lines := by
  match h with
  | .bool | .int | .string | .function => exact ⟨0, fun _ _ => rfl⟩
  | .var hlookup => exact .node _ _ (.orFail (by rw [Env.lookup, hlookup]))
  | .unbound hlookup => exact .node _ _ (.orFail (by rw [Env.lookup, hlookup]))
  | .calleeError hcallee => exact .node _ _ (.bind_error hcallee.eventually)
  | .noFunction hcallee hkind =>
    refine .node _ _ (.bind_silent hcallee.eventually (.bind_error (.orFail ?_)))
    exact Value.toClosure_eq_error_iff.mpr ⟨hkind, rfl⟩
  | .argumentError hcallee harguments =>
    refine .node _ _ (.bind hcallee.eventually (.silent_bind (.orFail rfl) ?_))
    exact .bind_error harguments.eventually
  | .missingArgument hcallee harguments hmissing =>
    refine .node _ _ (.bind hcallee.eventually (.silent_bind (.orFail rfl) ?_))
    exact .bind_silent harguments.eventually (eventually_missing hmissing)
  | .call hcallee harguments hextends hbody =>
    refine .node _ _ (.bind hcallee.eventually (.silent_bind (.orFail rfl) ?_))
    exact .bind harguments.eventually (eventually_apply hextends (.of_succ hbody.eventually))
  | .lhsError hlhs => exact .node _ _ (.silent_bind .pure (.bind_error hlhs.eventually))
  | .rhsError hlhs hrhs =>
    exact .node _ _ (.silent_bind .pure (.bind hlhs.eventually (.bind_error hrhs.eventually)))
  | .refused hlhs hrhs hop =>
    refine .node _ _ (.silent_bind .pure (.bind hlhs.eventually ?_))
    exact .bind_silent hrhs.eventually (.orFail (BinaryOp.apply_eq_error_iff.mpr hop))
  | .binary hlhs hrhs hop =>
    refine .node _ _ (.silent_bind .pure (.bind hlhs.eventually ?_))
    exact .bind_silent hrhs.eventually (.orFail (BinaryOp.apply_eq_ok_iff.mpr hop))
  | .valueError hvalue => exact .node _ _ (.bind_error hvalue.eventually)
  | .letIn hvalue hnext =>
    exact .node _ _ (.bind hvalue.eventually (.silent_bind .pure hnext.eventually))
  | .conditionError hcondition => exact .node _ _ (.bind_error hcondition.eventually)
  | .noBool hcondition hkind =>
    refine .node _ _ (.bind_silent hcondition.eventually (.bind_error (.orFail ?_)))
    exact Value.toBool_eq_error_iff.mpr ⟨hkind, rfl⟩
  | .consequent hcondition hconsequent =>
    refine .node _ _ (.bind hcondition.eventually ?_)
    exact .silent_bind (.orFail rfl) hconsequent.eventually
  | .alternative hcondition halternative =>
    refine .node _ _ (.bind hcondition.eventually ?_)
    exact .silent_bind (.orFail rfl) halternative.eventually
  | .printedError hvalue => exact .node _ _ (.bind_error hvalue.eventually)
  | .noString hvalue hkind =>
    refine .node _ _ (.bind_silent hvalue.eventually (.bind_error (.orFail ?_)))
    exact Value.toText_eq_error_iff.mpr ⟨hkind, rfl⟩
  | .print hvalue =>
    exact .node _ _ (.bind hvalue.eventually ⟨0, fun _ _ => rfl⟩)

theorem YieldsAll.eventually {env : Env} {terms : List Term} {outcome : Except Cause (List Value)}
    {lines : List String} (h : YieldsAll env terms outcome lines) :
    Visible.Eventually (fun limit => evalAllWith (evalIn Visible limit) terms env) outcome
      lines := by
  match h with
  | .nil => exact .pure
  | .headError hterm => exact .bind_error hterm.eventually
  | .tailError hterm hrest => exact .bind hterm.eventually (.bind_error hrest.eventually)
  | .cons hterm hrest => exact .bind hterm.eventually (.bind_silent hrest.eventually .pure)

end

/-- The rules derive exactly what the evaluator gives from some limit on. -/
theorem yields_iff_eventually {env : Env} {term : Term} {outcome : Except Cause Value}
    {lines : List String} : Yields env term outcome lines ↔
      Visible.Eventually (fun limit => term.evalIn Visible limit env) outcome lines := by
  constructor
  · exact fun h => .of_succ h.eventually
  · rintro ⟨bound, hbound⟩
    exact yields_of_evalIn (hbound bound (Nat.le_refl bound))

/-- A term has at most one outcome, and prints the same lines whenever it has it. -/
theorem Yields.unique {env : Env} {term : Term} {outcome other : Except Cause Value}
    {lines others : List String} (h : Yields env term outcome lines)
    (hother : Yields env term other others) : outcome = other ∧ lines = others := by
  obtain ⟨bound, hbound⟩ := yields_iff_eventually.mp h
  obtain ⟨bound', hbound'⟩ := yields_iff_eventually.mp hother
  have hsame := (hbound (max bound bound') (by omega)).symm.trans
    (hbound' (max bound bound') (by omega))
  cases hsame
  exact ⟨rfl, rfl⟩

/-! ## runs of well-formed terms -/

section

variable {term : Term} {env : Env} {context : Context} {limit : Nat}
variable {outcome : Except Cause Value} {lines : List String}

end

end Term

end Rinha
