/-!
# LoxLex.Double.Basic — double precision numbers as ranks

The doubles of one sign, listed from zero upwards, are counted: a magnitude is given by its *rank*,
its place in that list. Rank 0 is zero, rank 1 the least positive double `2^-1074`, and the last
rank is infinity. Each binade holds `2^52` doubles, so rank order is value order and the rank is
also the encoding without its sign bit.

Values are measured in *units* of `2^-1074`; every finite double is a whole number of units, and a
rational is rounded once, from its exact value.
-/

namespace LoxLex

namespace Double

/-- The number of doubles in one binade. -/
def binade : Nat := Nat.pow 2 52

/-- The rank of infinity; the ranks below it are the finite magnitudes. -/
def infinityRank : Nat := 2047 * binade

/-- How many units make one. -/
def unitsPerOne : Nat := Nat.pow 2 1074

end Double

/-- The place of a magnitude in the rising list of doubles. -/
abbrev Rank := Fin (Double.infinityRank + 1)

/-- A double precision number. -/
inductive Double where
  | nan
  | signed (negative : Bool) (rank : Rank)
deriving DecidableEq

namespace Double

def zero : Double := .signed false 0

def infinity : Double := .signed false (Fin.last infinityRank)

/-- Equality of numbers: a NaN equals nothing, and the two zeros are equal. -/
def equal : Double → Double → Bool
  | .signed s a, .signed t b => a = b && (s = t || a = 0)
  | _, _ => false

/-- The integer nearest to `num / den`; a half goes to the even neighbour. -/
def roundHalfEven (num den : Nat) : Nat :=
  let down := num / den
  let rest := num % den
  if 2 * rest < den then down
  else if den < 2 * rest then down + 1
  else down + down % 2

/-- The binade of a rank, counted from the first two, which share one spacing. -/
def scaleOf (rank : Nat) : Nat := rank / binade - 1

/-- The exact value of a finite magnitude in units: `m * 2^k` with `m < 2^53`. -/
def units (rank : Nat) : Nat := (rank - scaleOf rank * binade) * Nat.pow 2 (scaleOf rank)

/-- The rank of the double nearest to `num / den`, ties to even. With `2^k` units between doubles
near the value, the rank is `k` binades above the rounded multiple. -/
def nearest (num den : Nat) : Rank :=
  let scaled := num * unitsPerOne
  let k := (scaled / den).log2 - 52
  ⟨min (k * binade + roundHalfEven scaled (den * Nat.pow 2 k)) infinityRank,
    Nat.lt_succ_of_le (Nat.min_le_right _ _)⟩

end Double

end LoxLex
