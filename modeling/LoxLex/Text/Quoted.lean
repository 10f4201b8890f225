import LoxLex.Unicode.Printable

/-!
# LoxLex.Text.Quoted — text between quotes, with escapes

Single quotes stand around a text, or double quotes when it has a single quote and no double one.
The quote in use and the backslash are escaped, tab, newline and carriage return have escapes of
their own, and every other character that is not printable is given by its code point.
-/

namespace LoxLex.Quoted

/-- `n` in base sixteen, filled up with zeros to `width` digits. -/
def hex (width n : Nat) : List Char :=
  let ds := Nat.toDigits 16 n
  List.replicate (width - ds.length) '0' ++ ds

/-- A code point in the shortest of the three escapes that hold it. -/
def codePoint (n : Nat) : List Char :=
  if n < 0x100 then '\\' :: 'x' :: hex 2 n
  else if n < 0x10000 then '\\' :: 'u' :: hex 4 n
  else '\\' :: 'U' :: hex 8 n

/-- One character as it stands between the quotes `q`. -/
def escape (q c : Char) : List Char :=
  if c = q ∨ c = '\\' then ['\\', c]
  else if c = '\t' then ['\\', 't']
  else if c = '\n' then ['\\', 'n']
  else if c = '\r' then ['\\', 'r']
  else if Unicode.isPrintable c then [c]
  else codePoint c.toNat

/-- The quote to use around a text. -/
def quoteFor (cs : List Char) : Char :=
  if '\'' ∈ cs ∧ '"' ∉ cs then '"' else '\''

/-- A text between quotes. -/
def encode (cs : List Char) : List Char :=
  let q := quoteFor cs
  q :: cs.flatMap (escape q) ++ [q]

end LoxLex.Quoted

namespace LoxLex

/-- A text between quotes. -/
def quoted (s : String) : String := String.ofList (Quoted.encode s.toList)

/-- A text between quotes, or the word for no text. -/
def quotedOrNone : Option String → String
  | none => "None"
  | some s => quoted s

end LoxLex
