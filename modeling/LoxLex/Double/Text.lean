import LoxLex.Double.Shortest

/-!
# LoxLex.Double.Text — how a number is written

The shortest digits, laid out positionally when the first digit stands for `10^-4` up to `10^15`
and with an exponent otherwise. A positional text always has a digit after the point; an exponent
always has a sign and at least two digits.
-/

namespace LoxLex.Double

/-- The first and the last exponent of the leading digit that are written positionally. -/
def positionalRange : Int × Int := (-4, 15)

/-- An exponent as it is written: sign and at least two digits. -/
def exponentText (e : Int) : List Char :=
  let ds := digits e.natAbs
  (if e < 0 then '-' else '+') :: (if ds.length < 2 then '0' :: ds else ds)

/-- Digits with the point after the first `point` of them, zeros filling either side. -/
def positional (ds : List Char) (point : Int) : List Char :=
  if point ≤ 0 then '0' :: '.' :: List.replicate (-point).toNat '0' ++ ds
  else
    let whole := point.toNat
    if ds.length ≤ whole then ds ++ List.replicate (whole - ds.length) '0' ++ ['.', '0']
    else ds.take whole ++ '.' :: ds.drop whole

/-- Digits as one digit, a point if more follow, and the exponent. -/
def scientific (ds : List Char) (e : Int) : List Char :=
  let significand := match ds with
    | d :: rest@(_ :: _) => d :: '.' :: rest
    | _ => ds
  significand ++ 'e' :: exponentText e

/-- The digits of a coefficient without the zeros at its end. -/
def significantDigits (n : Nat) : List Char :=
  ((digits n).reverse.dropWhile (· == '0')).reverse

/-- A positive decimal as it is written. -/
def Decimal.text (d : Decimal) : List Char :=
  let point := (digits d.coefficient).length + d.exponent
  let e := point - 1
  let ds := significantDigits d.coefficient
  if positionalRange.1 ≤ e ∧ e ≤ positionalRange.2 then positional ds point else scientific ds e

/-- A magnitude as it is written. -/
def rankText (rank : Rank) : List Char :=
  if rank = Fin.last infinityRank then ['i', 'n', 'f']
  else if rank.val = 0 then ['0', '.', '0']
  else (shortest rank).text

/-- A number as it is written. -/
def text : Double → String
  | .nan => "nan"
  | .signed negative rank =>
    (if negative then "-" else "") ++ String.ofList (rankText rank)

end LoxLex.Double
