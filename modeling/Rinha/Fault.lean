import Rinha.Text.Quoted

/-!
# Rinha.Fault

Faults of malformed input.  A term reaches the evaluator as data that nobody has checked, and what
is wrong with it shows only when the evaluation gets to that place.  Such a fault is no error of the
evaluated program: it ends the whole run, and no report is made of it.
-/

namespace Rinha

/-- What can be wrong with a piece of data that is used as a term, a name or a literal. -/
inductive Fault where
  /-- An object lacks a field that is read. -/
  | missingField (key : String)
  /-- A piece of data of another shape was needed: an object to read a field of, a list to go
  through, a number to compute with, a text to join, a scalar to serve as a name. -/
  | wrongShape
  /-- A piece of data has no parts of the sort that is asked for: a location that is no object has
  no fields, a source that is no text has no lines. -/
  | noParts
  /-- A term names a kind that is none of the ten. -/
  | unknownKind (kind : String)
  /-- An operation names an operator that is none of the fourteen. -/
  | unknownOperator (op : String)
  /-- A text that writes no integer. -/
  | badInteger (text : String)
  /-- An integer was needed, and a floating-point value is no number at all. -/
  | notANumber
  /-- A number is too large for the kind of number that was needed. -/
  | outOfRange
  /-- An integer has too many digits to be written. -/
  | tooManyDigits
deriving DecidableEq, Repr, Inhabited

namespace Fault

/-- How much of a quoted text a message repeats. -/
def quoteLimit : Nat := 200

/-- How many digits an integer may have where it is written under a bound. -/
def digitLimit : Nat := 4300

/-- The text of a fault, for those that have one: a missing field by its quoted name, an unknown or
unreadable word with the word. -/
def message? : Fault → Option String
  | missingField key => some (Text.quoted key)
  | unknownKind kind => some s!"Unknown term kind: {kind}"
  | unknownOperator op => some s!"Unknown binary operator: {op}"
  | badInteger text => some <|
    "invalid literal for int() with base 10: " ++
      String.ofList ((Text.quoted text).toList.take quoteLimit)
  | notANumber => some "cannot convert float NaN to integer"
  | tooManyDigits => some <|
    s!"Exceeds the limit ({digitLimit} digits) for integer string conversion; " ++
      "use sys.set_int_max_str_digits() to increase the limit"
  | wrongShape | noParts | outOfRange => none

end Fault

end Rinha
