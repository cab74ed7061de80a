import Rinha.Text.Printable

/-!
# Rinha.Text.Quoted

Texts in quotation marks, as they stand inside lists, objects and messages:

1. a text is put between single marks, or between double marks if it holds a single one and no
   double one;
2. the mark itself and the backslash are written with a backslash before them;
3. line feed, carriage return and tab are written `\n`, `\r` and `\t`;
4. any other character that is not printable is written by its code point: `\x` and two digits below
   256, `\u` and four digits below 65536, `\U` and eight digits from there on.
-/

namespace Rinha.Text

/-- The last `width` hexadecimal digits of a number, with zeros in front where it has fewer. -/
def hexDigits (width n : Nat) : List Char :=
  let digits := Nat.toDigits 16 n
  List.replicate (width - digits.length) '0' ++ digits

/-- A character by its code point. -/
def codePoint (c : Char) : List Char :=
  if c.toNat < 0x100 then '\\' :: 'x' :: hexDigits 2 c.toNat
  else if c.toNat < 0x10000 then '\\' :: 'u' :: hexDigits 4 c.toNat
  else '\\' :: 'U' :: hexDigits 8 c.toNat

/-- One character of a text that stands between two of `mark`. -/
def quoteChar (mark c : Char) : List Char :=
  if c = mark ∨ c = '\\' then ['\\', c]
  else if c = '\n' then ['\\', 'n']
  else if c = '\r' then ['\\', 'r']
  else if c = '\t' then ['\\', 't']
  else if isPrintable c then [c]
  else codePoint c

/-- The mark that a text is put between. -/
def quoteMark (cs : List Char) : Char :=
  if cs.contains '\'' && !cs.contains '"' then '"' else '\''

/-- A text in quotation marks. -/
def quoted (text : String) : String :=
  let cs := text.toList
  let mark := quoteMark cs
  String.ofList (mark :: cs.flatMap (quoteChar mark) ++ [mark])

example : quoted "kind" = "'kind'" := by decide +kernel
example : quoted "it's" = "\"it's\"" := by decide +kernel
example : quoted "a\\\tb\x01" = "'a\\\\\\tb\\x01'" := by decide +kernel
example : quoted "\u200b" = "'\\u200b'" := by decide +kernel

end Rinha.Text
