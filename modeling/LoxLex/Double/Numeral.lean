import LoxLex.Double.Basic
import LoxLex.Text.Ascii
import LoxLex.Unicode.Blank
import LoxLex.Unicode.Digit

/-!
# LoxLex.Double.Numeral — reading a number from text

A numeral is a sign, digits with at most one point among them, and an exponent, or one of the words
`inf`, `infinity` and `nan` in any case. Blanks around it are dropped, a single underscore may
stand between two digits, and text beyond ASCII may use the blanks and digits of any script. The
value is rounded once, from the exact decimal.
-/

namespace LoxLex.Double

/-- The number that a list of digits denotes. -/
def digitsValue (ds : List Char) : Nat := ds.foldl (fun n c => 10 * n + (c.toNat - '0'.toNat)) 0

/-- The rank nearest to `whole.fraction × 10^exponent`. An exponent far outside the range of
doubles is first cut down to one that is outside it too. -/
def nearestNumeral (whole fraction : List Char) (exponent : Int) : Rank :=
  let bound : Int := whole.length + fraction.length + 400
  let e := max (-bound) (min bound exponent)
  Double.nearest (digitsValue (whole ++ fraction) * Nat.pow 10 e.toNat)
    (Nat.pow 10 fraction.length * Nat.pow 10 (-e).toNat)

/-- An optional sign before the rest. -/
def splitSign : List Char → Bool × List Char
  | '-' :: rest => (true, rest)
  | '+' :: rest => (false, rest)
  | rest => (false, rest)

/-- The exponent of a numeral, with its mark; no text is exponent zero. -/
def exponent? : List Char → Option Int
  | [] => some 0
  | mark :: rest =>
    let (negative, ds) := splitSign rest
    if (mark == 'e' || mark == 'E') && !ds.isEmpty && ds.all isDigit then
      some (if negative then -(digitsValue ds : Int) else digitsValue ds)
    else none

/-- A numeral without a sign, in plain digits. -/
def magnitude? (cs : List Char) : Option Rank :=
  let whole := cs.takeWhile isDigit
  let (fraction, rest) := match cs.dropWhile isDigit with
    | '.' :: rest => (rest.takeWhile isDigit, rest.dropWhile isDigit)
    | rest => ([], rest)
  if (whole ++ fraction).isEmpty then none
  else (exponent? rest).map (nearestNumeral whole fraction)

/-- A signed numeral or word, in plain characters. -/
def plain? (cs : List Char) : Option Double :=
  let (negative, rest) := splitSign cs
  match String.ofList (rest.map Char.toLower) with
  | "inf" | "infinity" => some (.signed negative (Fin.last infinityRank))
  | "nan" => some .nan
  | _ => (magnitude? rest).map (.signed negative)

/-- The text without its underscores, if each stands between two digits. `before` is the last
character read. -/
def dropUnderscores? (before : Option Char) : List Char → Option (List Char)
  | [] => if before = some '_' then none else some []
  | c :: rest =>
    let afterDigit := before.any isDigit
    if c = '_' then
      if afterDigit then dropUnderscores? (some c) rest else none
    else if before = some '_' && !isDigit c then none
    else (dropUnderscores? (some c) rest).map (c :: ·)

/-- ASCII white space, the blanks around a numeral. -/
def isAsciiBlank (c : Char) : Bool := c == ' ' || ('\t' ≤ c && c ≤ '\r')

/-- The text without the blanks at its ends. -/
def trimBlanks (cs : List Char) : List Char :=
  ((cs.dropWhile isAsciiBlank).reverse.dropWhile isAsciiBlank).reverse

/-- Blanks and digits of any script as the plain ones; no other character beyond ASCII passes. -/
def toPlain? (cs : List Char) : Option (List Char) :=
  cs.mapM fun c =>
    if c.toNat < 128 then some c
    else if Unicode.isBlank c then some ' '
    else (Unicode.digitValue? c).map fun d => Char.ofNat ('0'.toNat + d)

/-- The number that a text denotes. -/
def ofText? (cs : List Char) : Option Double := do
  let plain ← toPlain? cs
  let numeral ← dropUnderscores? none (trimBlanks plain)
  plain? numeral

end LoxLex.Double
