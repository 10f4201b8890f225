import LoxLex.Double.Text
import LoxLex.Proofs.NumberLiterals

/-!
# LoxLex.Proofs.Decimals — decimal digits and the numbers that they denote

A decimal is a coefficient and an exponent of ten.  `Decimal.value` is the number that it denotes and
`Decimal.precision` counts its digits up to the last that is not zero, so that zeros at the end of a
coefficient do not count.

* `Decimal.rounds_nearest`: the double for a decimal is the one for its value, however it is written.
* `digitsValue_significantDigits`: a coefficient is its significant digits and a power of ten.
* `Decimal.precision_le`, `Decimal.exists_of_precision`: the decimals that need so many digits.
-/

namespace LoxLex

namespace Double

variable {n k : ℕ}

/-! ### The digits of a natural number -/

theorem isDigit_of_mem_digits {c : Char} (h : c ∈ digits n) : isDigit c = true :=
  Nat.isDigit_of_mem_toDigits (by decide) (by decide) h

theorem digitsValue_digits (n : ℕ) : digitsValue (digits n) = n := Nat.ofDigitChars_ten_toDigits

theorem digitsValue_zeros (k : ℕ) : digitsValue (List.replicate k '0') = 0 := by
  have h : Nat.ofDigitChars 10 (List.replicate k '0') 0 = 10 ^ k * 0 :=
    Nat.ofDigitChars_replicate_zero
  rwa [Nat.mul_zero] at h

theorem digits_ne_nil (n : ℕ) : digits n ≠ [] := Nat.toDigits_ne_nil

theorem length_digits_le_iff (hk : 0 < k) : (digits n).length ≤ k ↔ n < 10 ^ k :=
  Nat.length_toDigits_le_iff (by decide) hk

theorem lt_pow_length_digits (n : ℕ) : n < 10 ^ (digits n).length :=
  (length_digits_le_iff (List.length_pos_of_ne_nil (digits_ne_nil n))).mp le_rfl

theorem pow_length_digits_le (hn : 0 < n) (hk : (digits n).length = k + 1) : 10 ^ k ≤ n := by
  by_contra hlt
  rcases Nat.eq_zero_or_pos k with rfl | hpos
  · omega
  · have hle : (digits n).length ≤ k := (length_digits_le_iff hpos).mpr (not_le.mp hlt)
    omega

theorem digits_mul_pow (hn : 0 < n) (k : ℕ) :
    digits (n * 10 ^ k) = digits n ++ List.replicate k '0' := by
  induction k with
  | zero => simp
  | succ k ih =>
    have hpos : 0 < n * 10 ^ k := Nat.mul_pos hn (Nat.pow_pos (by decide))
    have hten : n * 10 ^ (k + 1) = 10 * (n * 10 ^ k) + 0 := by ring
    have hzero : Nat.toDigits 10 0 = ['0'] := Nat.toDigits_zero 10
    have happend := Nat.toDigits_append_toDigits (by decide : 1 < 10) hpos (by decide : 0 < 10)
    rw [hten, digits, ← happend, hzero, List.replicate_succ', ← List.append_assoc, ← ih]
    rfl

/-! ### Zeros at the end -/

theorem exists_digits_eq (n : ℕ) :
    ∃ k, digits n = significantDigits n ++ List.replicate k '0' := by
  set zeros := (digits n).reverse.takeWhile (· == '0') with hzeros
  have hall : zeros.reverse = List.replicate zeros.length '0' := by
    rw [List.eq_replicate_iff, List.length_reverse]
    refine ⟨rfl, fun c hc => ?_⟩
    have hzero := List.mem_takeWhile_imp (List.mem_reverse.mp hc)
    exact beq_iff_eq.mp hzero
  refine ⟨zeros.length, ?_⟩
  have hsplit : zeros ++ (digits n).reverse.dropWhile (· == '0') = (digits n).reverse :=
    List.takeWhile_append_dropWhile
  have hreverse := congrArg List.reverse hsplit
  rw [List.reverse_append, List.reverse_reverse, hall] at hreverse
  exact hreverse.symm

theorem isDigit_of_mem_significantDigits {c : Char} (h : c ∈ significantDigits n) :
    isDigit c = true := by
  obtain ⟨k, hk⟩ := exists_digits_eq n
  exact isDigit_of_mem_digits (hk ▸ List.mem_append_left _ h)

/-- **A number is its significant digits and a power of ten.** -/
theorem digitsValue_significantDigits (hk : digits n = significantDigits n ++ List.replicate k '0') :
    n = digitsValue (significantDigits n) * 10 ^ k := by
  have h := digitsValue_digits n
  rw [hk, digitsValue_append, digitsValue_zeros, List.length_replicate, Nat.add_zero] at h
  exact h.symm

theorem significantDigits_ne_nil (hn : 0 < n) : significantDigits n ≠ [] := by
  intro h
  obtain ⟨k, hk⟩ := exists_digits_eq n
  have hzero := digitsValue_significantDigits hk
  rw [h] at hzero
  have hnil : digitsValue [] = 0 := rfl
  rw [hnil, Nat.zero_mul] at hzero
  omega

theorem significantDigits_mul_pow (hn : 0 < n) (k : ℕ) :
    significantDigits (n * 10 ^ k) = significantDigits n := by
  unfold significantDigits
  rw [digits_mul_pow hn, List.reverse_append, List.reverse_replicate,
    List.dropWhile_append_of_pos (by simp)]

/-! ### Powers of ten -/

theorem ten_zpow_eq (e : ℤ) :
    (10 : ℚ) ^ e = ((10 ^ e.toNat : ℕ) : ℚ) / ((10 ^ (-e).toNat : ℕ) : ℚ) := by
  rcases Int.eq_nat_or_neg e with ⟨k, rfl | rfl⟩
  · simp
  · simp

/-! ### Decimals -/

namespace Decimal

/-- The number that a decimal denotes. -/
def value (d : Decimal) : ℚ := d.coefficient * 10 ^ d.exponent

/-- How many digits a decimal needs. -/
def precision (d : Decimal) : ℕ := (significantDigits d.coefficient).length

variable {d : Decimal}

/-- **The double for a decimal is the one for its value.** -/
theorem rounds_nearest (d : Decimal) : Rounds d.value d.nearest := by
  have hquotient : ((d.coefficient * 10 ^ d.exponent.toNat : ℕ) : ℚ) /
      ((10 ^ (-d.exponent).toNat : ℕ) : ℚ) = d.value := by
    rw [value, ten_zpow_eq, Nat.cast_mul, mul_div_assoc]
  rw [← hquotient]
  exact Double.rounds_nearest _ (Nat.pow_pos (by decide))

theorem precision_le (hk : 0 < k) (h : d.coefficient ≤ 10 ^ k) : d.precision ≤ k := by
  unfold precision
  rcases Nat.lt_or_eq_of_le h with hlt | heq
  · obtain ⟨z, hz⟩ := exists_digits_eq d.coefficient
    have hle := (length_digits_le_iff hk).mpr hlt
    rw [hz, List.length_append] at hle
    omega
  -- A one before zeros is one digit.
  · have hone : significantDigits (1 * 10 ^ k) = ['1'] := significantDigits_mul_pow one_pos k
    rw [heq, ← Nat.one_mul (10 ^ k), hone]
    exact hk

theorem exists_of_precision (d : Decimal) :
    ∃ m e, m < 10 ^ d.precision ∧ d.value = (⟨m, e⟩ : Decimal).value := by
  obtain ⟨k, hk⟩ := exists_digits_eq d.coefficient
  have hn := digitsValue_significantDigits hk
  have hlength : (digits d.coefficient).length = d.precision + k := by
    rw [hk, List.length_append, List.length_replicate]
    rfl
  refine ⟨digitsValue (significantDigits d.coefficient), k + d.exponent, ?_, ?_⟩
  · have hlt := lt_pow_length_digits d.coefficient
    rw [hlength, pow_add] at hlt
    exact lt_of_mul_lt_mul_right (hn ▸ hlt) (Nat.zero_le _)
  · unfold value
    rw [zpow_add₀ (by decide), zpow_natCast]
    conv_lhs => rw [hn]
    push_cast
    ring

end Decimal

end Double

end LoxLex
