import Rinha.BinaryOp
import Rinha.Data.Display
import Rinha.Text.Integer

/-!
# Rinha.Data.Coerce

Data where a value of one kind is needed.  A literal takes any payload and turns it into a value of
its own kind:

* `Data.toBool` finds false, null, zero and everything empty false, and all else true;
* `Data.toInt` takes an integer as it is, truth values as 0 and 1, drops the fraction of a
  floating-point number and reads a text; nothing else is an integer;
* `Data.toText` shows the data.

Counts and places are stricter: `Data.toNumber` reads no texts and keeps fractions.  An operator is
meant by its name (`Data.toOperator`).

`toInt_int`, `toBool_bool` and `toText_text` say that data of the literal's own kind is kept, so
that turning a payload twice is the same as turning it once.
-/

namespace Rinha.Data

/-- Whether data counts as true. -/
def toBool : Data → Bool
  | .null => false
  | .bool b => b
  | .int n => n != 0
  | .floating x => !x.isZero
  | .text s => !s.isEmpty
  | .list items => !items.isEmpty
  | .object fields => !fields.isEmpty

/-- Data as an integer. -/
def toInt : Data → Except Fault Int
  | .bool b => .ok (if b then 1 else 0)
  | .int n => .ok n
  | .floating x => x.toInt
  | .text s =>
    match Text.readInteger? s with
    | some n => .ok n
    | none => .error (.badInteger s)
  | .null | .list _ | .object _ => .error .wrongShape

/-- Data as a number.  Truth values count as 0 and 1. -/
def toNumber : Data → Except Fault Number
  | .int n => .ok (.int n)
  | .bool b => .ok (.int (if b then 1 else 0))
  | .floating x => .ok (.floating x)
  | _ => .error .wrongShape

/-- A number as data. -/
def ofNumber : Number → Data
  | .int n => .int n
  | .floating x => .floating x

/-- The operator that data names.  A scalar that is no text names none. -/
def toOperator (data : Data) : Except Fault BinaryOp := do
  match ← data.toName with
  | .text s => BinaryOp.named s
  | s => throw (.unknownOperator s.display)

/-- Data as text. -/
def toText (data : Data) : String :=
  data.display

@[simp] theorem toBool_bool (b : Bool) : (Data.bool b).toBool = b := rfl

@[simp] theorem toInt_int (n : Int) : (Data.int n).toInt = .ok n := rfl

@[simp] theorem toText_text (s : String) : (Data.text s).toText = s := rfl

@[simp] theorem toNumber_ofNumber (n : Number) : (ofNumber n).toNumber = .ok n := by
  cases n <;> rfl

end Rinha.Data
