import LoxLex.Double.Basic
import Mathlib.Algebra.Order.Field.Power
import Mathlib.Algebra.Order.Field.Rat
import Mathlib.Data.Rat.Cast.Order
import Mathlib.Tactic.FieldSimp
import Mathlib.Tactic.Linarith
import Mathlib.Tactic.NormNum
import Mathlib.Tactic.Ring

/-!
# LoxLex.Proofs.Ranks — the doubles of one sign, in their order

A rank is an encoding without its sign: eleven bits of exponent above fifty-two bits of fraction.
`significand` and `exponent` read these fields, and `value` is the number that they stand for.  In units of
`2^-1074` this is a natural number, `units`, and from one rank to the next it grows by the spacing of the
binade (`units_succ`).  All of this goes on past the last finite rank as if there were no infinity.

* `value_strictMono`: the order of ranks is the order of values.
* `isDouble_value`, `exists_value_eq`: the finite ranks have all the numbers of fifty-three bits and an
  exponent in range, and no others.
-/

namespace LoxLex

namespace Double

/-- The significand of an encoding: its fraction field, behind a leading one unless the exponent field is
zero. -/
def significand (rank : ℕ) : ℕ :=
  if rank / 2 ^ 52 = 0 then rank % 2 ^ 52 else 2 ^ 52 + rank % 2 ^ 52

/-- The power of two that the last place of the significand stands for. -/
def exponent (rank : ℕ) : ℤ :=
  if rank / 2 ^ 52 = 0 then -1074 else (rank / 2 ^ 52 : ℕ) - 1075

/-- The number that an encoding stands for. -/
def value (rank : ℕ) : ℚ := significand rank * 2 ^ exponent rank

/-- A finite double: fifty-three bits and a sign, times a power of two in range. -/
def IsDouble (x : ℚ) : Prop :=
  ∃ m e : ℤ, |m| < 2 ^ 53 ∧ -1074 ≤ e ∧ e ≤ 971 ∧ x = m * 2 ^ e

variable {rank k m : ℕ}

theorem binade_eq : binade = 4503599627370496 := rfl

theorem infinityRank_eq : infinityRank = 2047 * 4503599627370496 := rfl

/-! ### Binades -/

/-- A rank by its scale and its significand: but for the first scale, the significand has all its
bits. -/
theorem exists_scale (rank : ℕ) :
    ∃ k m, rank = k * binade + m ∧ (k = 0 ∨ binade ≤ m) ∧ m < 2 * binade := by
  refine ⟨scaleOf rank, rank - scaleOf rank * binade, ?_⟩
  unfold scaleOf
  rw [binade_eq]
  omega

theorem significand_eq (h : k = 0 ∨ binade ≤ m) (hm : m < 2 * binade) :
    significand (k * binade + m) = m := by
  unfold significand
  rw [binade_eq] at *
  split <;> omega

theorem exponent_eq (h : k = 0 ∨ binade ≤ m) (hm : m < 2 * binade) :
    exponent (k * binade + m) = k - 1074 := by
  unfold exponent
  rw [binade_eq] at *
  split <;> omega

theorem scaleOf_eq (h : k = 0 ∨ binade ≤ m) (hm : m < 2 * binade) :
    scaleOf (k * binade + m) = k := by
  unfold scaleOf
  rw [binade_eq] at *
  omega

theorem scaleOf_le (h : k = 0 ∨ binade ≤ m) : k ≤ scaleOf (k * binade + m) := by
  unfold scaleOf
  rw [binade_eq] at *
  omega

/-- The rank before one of scale `k` has the same scale, unless that one is the first of its binade. -/
theorem scaleOf_pred (h : k = 0 ∨ binade ≤ m) (hm : m ≤ 2 * binade)
    (hr : k * binade + m = rank + 1) : scaleOf rank = k ∨ (k ≠ 0 ∧ m = binade) := by
  unfold scaleOf
  rw [binade_eq] at *
  omega

/-- The last place of the significand is the last place of the encoding. -/
theorem even_significand_iff (rank : ℕ) : Even (significand rank) ↔ Even rank := by
  rw [Nat.even_iff, Nat.even_iff]
  unfold significand
  split <;> omega

/-- **In units a rank is its significand times the spacing.**  The significand may also be one too large:
then it is the first of the next binade. -/
theorem units_eq (h : k = 0 ∨ binade ≤ m) (hm : m ≤ 2 * binade) :
    units (k * binade + m) = m * 2 ^ k := by
  rcases Nat.lt_or_eq_of_le hm with hlt | rfl
  · unfold units
    rw [scaleOf_eq h hlt, Nat.add_sub_cancel_left]
    rfl
  · have hscale : scaleOf (k * binade + 2 * binade) = k + 1 := by
      unfold scaleOf
      rw [binade_eq]
      omega
    have hfirst : k * binade + 2 * binade - (k + 1) * binade = binade := by
      rw [binade_eq]
      omega
    unfold units
    rw [hscale, hfirst]
    show binade * 2 ^ (k + 1) = 2 * binade * 2 ^ k
    ring

/-- **From one rank to the next the value grows by the spacing.** -/
theorem units_succ (rank : ℕ) : units (rank + 1) = units rank + 2 ^ scaleOf rank := by
  obtain ⟨k, m, rfl, hk, hm⟩ := exists_scale rank
  have hnext := units_eq (k := k) (m := m + 1) (hk.imp_right Nat.le_succ_of_le) hm
  rw [units_eq hk hm.le, scaleOf_eq hk hm, Nat.add_assoc, hnext]
  ring

/-! ### Values -/

theorem unitsPerOne_eq : (unitsPerOne : ℚ) = 2 ^ (1074 : ℤ) := by
  rw [zpow_ofNat]
  unfold unitsPerOne
  -- With a numeral for exponent the power would be computed here.
  generalize 1074 = n
  exact Nat.cast_pow 2 n

theorem unitsPerOne_pos : (0 : ℚ) < unitsPerOne := by
  rw [unitsPerOne_eq]
  exact zpow_pos two_pos _

theorem value_eq (rank : ℕ) : value rank = units rank / unitsPerOne := by
  obtain ⟨k, m, rfl, hk, hm⟩ := exists_scale rank
  unfold value
  rw [significand_eq hk hm, exponent_eq hk hm, units_eq hk hm.le, unitsPerOne_eq,
    zpow_sub₀ two_ne_zero, zpow_natCast, Nat.cast_mul, Nat.cast_pow, mul_div_assoc]
  rfl

/-- **The order of ranks is the order of values.** -/
theorem value_strictMono : StrictMono value := by
  refine strictMono_nat_of_lt_succ fun rank => ?_
  rw [value_eq, value_eq, units_succ]
  refine (div_lt_div_iff_of_pos_right unitsPerOne_pos).mpr (Nat.cast_lt.mpr ?_)
  exact Nat.lt_add_of_pos_right (Nat.two_pow_pos _)

theorem value_zero : value 0 = 0 := by
  have hunits : units 0 = 0 := Nat.zero_mul _
  rw [value_eq, hunits, Nat.cast_zero, zero_div]

/-- The value of a finite rank is a double. -/
theorem isDouble_value (h : rank < infinityRank) : IsDouble (value rank) := by
  obtain ⟨k, m, rfl, hk, hm⟩ := exists_scale rank
  refine ⟨m, exponent (k * binade + m), ?_, ?_, ?_, ?_⟩
  · rw [binade_eq] at hm
    rw [Nat.abs_cast]
    exact_mod_cast hm
  · rw [exponent_eq hk hm]
    omega
  · rw [exponent_eq hk hm]
    rw [infinityRank_eq, binade_eq] at *
    omega
  · unfold value
    rw [significand_eq hk hm]
    rfl

/-- A number of at most fifty-three bits, at any scale, is in the list of ranks.  Where bits are missing at
the front, the next finer scale has them at the back. -/
theorem exists_units_eq (m j : ℕ) (hm : m < 2 * binade) :
    ∃ rank, units rank = m * 2 ^ j ∧ rank < (j + 2) * binade := by
  induction j generalizing m with
  | zero =>
    have hzero := units_eq (k := 0) (Or.inl rfl) hm.le
    rw [Nat.zero_mul, Nat.zero_add] at hzero
    refine ⟨m, hzero, ?_⟩
    rw [binade_eq] at *
    omega
  | succ j ih =>
    by_cases hfull : binade ≤ m
    · refine ⟨(j + 1) * binade + m, units_eq (Or.inr hfull) hm.le, ?_⟩
      rw [binade_eq] at *
      omega
    · obtain ⟨rank, hrank, hlt⟩ := ih (2 * m) (by omega)
      refine ⟨rank, by rw [hrank, pow_succ]; ring, hlt.trans_le ?_⟩
      exact Nat.mul_le_mul_right binade (Nat.le_succ _)

/-- **Every double that is not negative is the value of a finite rank.** -/
theorem exists_value_eq {x : ℚ} (hx : IsDouble x) (h0 : 0 ≤ x) :
    ∃ rank < infinityRank, value rank = x := by
  obtain ⟨m, e, hm, hlow, hhigh, rfl⟩ := hx
  have hpow : (0 : ℚ) < 2 ^ e := by positivity
  have hm0 : 0 ≤ m := by
    have hcast : (0 : ℚ) ≤ m := nonneg_of_mul_nonneg_left h0 hpow
    exact_mod_cast hcast
  obtain ⟨n, rfl⟩ := Int.eq_ofNat_of_zero_le hm0
  obtain ⟨j, hj⟩ := Int.eq_ofNat_of_zero_le (show 0 ≤ e + 1074 by omega)
  have he : e = j - 1074 := by omega
  have hn : n < 2 * binade := by
    rw [Nat.abs_cast] at hm
    rw [binade_eq]
    omega
  obtain ⟨rank, hunits, hlt⟩ := exists_units_eq n j hn
  refine ⟨rank, ?_, ?_⟩
  · have hscale : (j + 2) * binade ≤ infinityRank := by
      rw [infinityRank_eq, binade_eq]
      omega
    exact lt_of_lt_of_le hlt hscale
  · rw [value_eq, hunits, he, unitsPerOne_eq, zpow_sub₀ two_ne_zero, zpow_natCast, Nat.cast_mul,
      Nat.cast_pow, mul_div_assoc]
    rfl

end Double

end LoxLex
