import LoxLex.Double.Basic

/-!
# LoxLex.Double.Shortest — the fewest decimal digits that read back

For 1, 2, …, 17 digits the two neighbours of a magnitude on that decimal grid are rounded back; the
first grid on which one returns to the same rank gives the digits, and of two that return the
nearer is taken, an exact tie going to the even digit. Seventeen digits always suffice; the exact
decimal expansion stands behind them, so that the result reads back whatever the search finds.
-/

namespace LoxLex.Double

/-- The number `coefficient * 10^exponent`. -/
structure Decimal where
  coefficient : Nat
  exponent : Int
deriving DecidableEq

namespace Decimal

/-- The rank of the double nearest to a decimal. -/
def nearest (d : Decimal) : Rank :=
  Double.nearest (d.coefficient * Nat.pow 10 d.exponent.toNat) (Nat.pow 10 (-d.exponent).toNat)

end Decimal

/-- The decimal digits of `n`, most significant first. -/
def digits (n : Nat) : List Char := Nat.toDigits 10 n

/-- The exponent of ten of the first digit of `num / den`, for a positive quotient. -/
def leadingExponent (num den : Nat) : Int :=
  if den ≤ num then (digits (num / den)).length - 1
  else -((digits ((den - 1) / num)).length : Int)

/-- The decimal with at most `count` digits that rounds to the given rank, if one of the two
neighbours of `num / den` does: the nearer of those that do, on a tie the even one. -/
def onGrid? (rank : Rank) (num den : Nat) (count : Nat) : Option Decimal :=
  let exponent := leadingExponent num den - count + 1
  let a := num * Nat.pow 10 (-exponent).toNat
  let b := den * Nat.pow 10 exponent.toNat
  let down : Decimal := ⟨a / b, exponent⟩
  let up : Decimal := ⟨a / b + 1, exponent⟩
  if down.nearest = rank then
    if up.nearest = rank then some ⟨roundHalfEven a b, exponent⟩ else some down
  else if up.nearest = rank then some up else none

/-- The shortest decimal that rounds to a positive finite rank. -/
def shortest (rank : Rank) : Decimal :=
  let num := units rank
  ((List.range 17).findSome? fun n => onGrid? rank num unitsPerOne (n + 1)).getD
    ⟨num * Nat.pow 5 1074, -1074⟩

end LoxLex.Double
