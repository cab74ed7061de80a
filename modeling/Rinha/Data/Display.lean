import Rinha.Data.Basic
import Rinha.Number.Shortest

/-!
# Rinha.Data.Display

Data as text.  By itself a text shows as it is; inside a list or an object it stands in quotation
marks (`Rinha.Text.Quoted`).  Truth values and null are `True`, `False` and `None`, lists stand in
square brackets and objects in braces, and `", "` parts their items.

Decimals are unbounded: an integer has a text however many digits it has.  This is an idealisation,
since machines bound the digits that they write, and whatever shows a value, traces a call or words
an error rests on it.  `Data.write` keeps the bound, and it is what reports are written with.
-/

namespace Rinha

/-- A scalar as text, with a text as it is. -/
def Scalar.display : Scalar → String
  | .null => "None"
  | .bool true => "True"
  | .bool false => "False"
  | .int n => toString n
  | .floating x => x.display
  | .text s => s

/-- A scalar as it stands inside a list or an object. -/
def Scalar.inspect : Scalar → String
  | .text s => Text.quoted s
  | s => s.display

/-! The two mutual helpers follow the children of a list and of an object, so that the recursion is
on the data itself. -/

mutual

/-- Data as it stands inside other data. -/
def Data.inspect : Data → String
  | .scalar s => s.inspect
  | .list items => "[" ++ ", ".intercalate (Data.inspectAll items) ++ "]"
  | .object fields => "\x7b" ++ ", ".intercalate (Data.inspectFields fields) ++ "\x7d"

/-- The items of a list, each as it stands inside other data. -/
def Data.inspectAll : List Data → List String
  | [] => []
  | data :: rest => data.inspect :: Data.inspectAll rest

/-- The fields of an object, each as its quoted name, a colon and its value. -/
def Data.inspectFields : List (String × Data) → List String
  | [] => []
  | (key, data) :: rest => (Text.quoted key ++ ": " ++ data.inspect) :: Data.inspectFields rest

end

/-- Data as text. -/
def Data.display : Data → String
  | .scalar s => s.display
  | data => data.inspect

@[simp] theorem Data.display_text (s : String) : (Data.text s).display = s := rfl

/-! ## bounded decimals -/

/-- Whether a scalar can be written under the bound: only an integer can have too many digits. -/
def Scalar.isWritable : Scalar → Bool
  | .int n => (Nat.toDigits 10 n.natAbs).length ≤ Fault.digitLimit
  | _ => true

mutual

/-- Whether data can be written under the bound, with all that is in it. -/
def Data.isWritable : Data → Bool
  | .scalar s => s.isWritable
  | .list items => Data.areWritable items
  | .object fields => Data.fieldsWritable fields

def Data.areWritable : List Data → Bool
  | [] => true
  | data :: rest => data.isWritable && Data.areWritable rest

def Data.fieldsWritable : List (String × Data) → Bool
  | [] => true
  | (_, data) :: rest => data.isWritable && Data.fieldsWritable rest

end

theorem Data.isWritable_int {n : Int} :
    (Data.int n).isWritable = true ↔ (Nat.toDigits 10 n.natAbs).length ≤ Fault.digitLimit := by
  rw [Data.isWritable, Scalar.isWritable, decide_eq_true_iff]

/-- Data as text, unless an integer in it has too many digits. -/
def Data.write (data : Data) : Except Fault String :=
  if data.isWritable then .ok data.display else .error .tooManyDigits

theorem Data.write_of_isWritable {data : Data} (h : data.isWritable = true) :
    data.write = .ok data.display := by
  rw [write, if_pos h]

theorem Data.write_of_not_isWritable {data : Data} (h : data.isWritable = false) :
    data.write = .error .tooManyDigits := by
  rw [write, h]
  rfl

example : (Data.list [.null, .text "a", .object [("b", .int (-1))]]).display
    = "[None, 'a', \x7b'b': -1\x7d]" := by decide +kernel

end Rinha
