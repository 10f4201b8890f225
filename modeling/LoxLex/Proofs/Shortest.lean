import LoxLex.Proofs.Decimals
import Mathlib.Algebra.Order.Floor.Semifield
import Mathlib.Data.Rat.Floor

/-!
# LoxLex.Proofs.Shortest — the fewest digits that read back

A grid of decimals has two neighbours of a value, `below` and `above`.  If a decimal with so many digits
rounds to a double, then so does the neighbour on its side, since rounding keeps the order; if neither
neighbour does, no such decimal does.  The first grid on which one does therefore has the fewest digits.
Seventeen digits always suffice: a neighbour is then closer to the value than half the spacing of the
doubles around it.

* `nearest_shortest`: the decimal that is found reads back.
* `precision_shortest_le`: no decimal that reads back needs fewer digits.
-/

namespace LoxLex

namespace Double

variable {num den count : ℕ} {q : ℚ} {rank r : Rank} {d : Decimal}

/-! ### Values near a double -/

/-- Between the midpoints on its two sides, every value rounds to the rank. -/
theorem Rounds.eq_of_between (h : Rounds q r) (hfinite : rank ≠ Fin.last infinityRank)
    (low : ∀ s, rank.val = s + 1 → midpoint s < q) (high : q < midpoint rank) : r = rank := by
  have hdouble : IsDouble (value rank) := isDouble_value (ne_last_iff.mp hfinite)
  rcases lt_trichotomy r rank with hlt | heq | hlt
  · have hval : r.val < rank.val := hlt
    have hvalue : value r < value rank := value_strictMono hval
    obtain ⟨s, hs⟩ := Nat.exists_eq_add_one_of_ne_zero (Nat.ne_zero_of_lt hval)
    have hr : r ≠ Fin.last infinityRank := fun e => (Fin.le_last rank).not_gt (e ▸ hlt)
    have hnear := (abs_sub_le_iff_le_midpoint hvalue).mp (h.nearest hr _ hdouble)
    have hrs : value r ≤ value s := value_strictMono.monotone (by omega)
    have hmid := low s hs
    unfold midpoint at hmid
    rw [hs] at hnear
    linarith
  · exact heq
  · have hvalue : value rank < value r := value_strictMono hlt
    by_cases hr : r = Fin.last infinityRank
    · obtain ⟨last, hlast⟩ : ∃ last, last + 1 = infinityRank := ⟨infinityRank - 1, by decide⟩
      have hover := h.overflow.mp hr
      have hle : rank.val ≤ last := by
        have := ne_last_iff.mp hfinite
        omega
      have hmid := midpoint_strictMono.monotone hle
      rw [midpoint_last hlast] at hmid
      exact absurd high (hmid.trans hover).not_gt
    · have hnear := (abs_sub_le_iff_midpoint hvalue).mp (h.nearest hr _ hdouble)
      have hrs : value (rank + 1) ≤ value r := value_strictMono.monotone hlt
      unfold midpoint at high
      linarith

theorem zero_lt_unitsPerOne : 0 < unitsPerOne := by exact_mod_cast unitsPerOne_pos

theorem midpoint_above (s : ℕ) : midpoint s = value s + 2 ^ scaleOf s / (2 * unitsPerOne) := by
  rw [midpoint_eq, value_eq, halves]
  have hone := unitsPerOne_pos.ne'
  push_cast
  field_simp

theorem midpoint_below (s : ℕ) :
    midpoint s = value (s + 1) - 2 ^ scaleOf s / (2 * unitsPerOne) := by
  rw [midpoint_above, value_eq, value_eq, units_succ]
  have hone := unitsPerOne_pos.ne'
  push_cast
  field_simp
  ring

/-- A value has at most fifty-three bits above the spacing on either side. -/
theorem units_succ_le (s : ℕ) : units (s + 1) ≤ 2 * binade * 2 ^ scaleOf s := by
  obtain ⟨k, m, rfl, hk, hm⟩ := exists_scale s
  rw [units_succ, units_eq hk hm.le, scaleOf_eq hk hm, ← Nat.succ_mul]
  exact Nat.mul_le_mul_right _ hm

theorem value_succ_lt (s : ℕ) : value (s + 1) < 10 ^ 16 * (2 ^ scaleOf s / unitsPerOne) := by
  have hbits : 2 * binade < 10 ^ 16 := by decide
  have hunits : units (s + 1) < 10 ^ 16 * 2 ^ scaleOf s :=
    (units_succ_le s).trans_lt (Nat.mul_lt_mul_of_pos_right hbits (Nat.two_pow_pos _))
  rw [value_eq, ← mul_div_assoc]
  refine (div_lt_div_iff_of_pos_right unitsPerOne_pos).mpr ?_
  exact_mod_cast hunits

/-- **Half a part in `10^16` is closer than halfway to the next double.** -/
theorem Rounds.eq_of_close (h : Rounds q r) (hfinite : rank ≠ Fin.last infinityRank)
    (hclose : |q - value rank| ≤ value rank / (2 * 10 ^ 16)) : r = rank := by
  obtain ⟨hlow, hhigh⟩ := abs_le.mp hclose
  have hhalf : ∀ s : ℕ, (2 : ℚ) ^ scaleOf s / (2 * unitsPerOne) =
      2 ^ scaleOf s / unitsPerOne / 2 := fun s => by rw [mul_comm, div_div]
  refine h.eq_of_between hfinite (fun s hs => ?_) ?_
  · have hgap := value_succ_lt s
    rw [hs] at hlow
    rw [midpoint_below, hhalf]
    linarith
  · have hgap := value_succ_lt rank
    have hnext : value rank < value (rank + 1) := value_strictMono (Nat.lt_succ_self _)
    rw [midpoint_above, hhalf]
    linarith

/-- A finite double is the double for its own value. -/
theorem rounds_value (hfinite : rank ≠ Fin.last infinityRank) : Rounds (value rank) rank := by
  have hrounds := rounds_nearest (units rank) zero_lt_unitsPerOne
  rw [← value_eq] at hrounds
  have hpos : 0 ≤ value rank := value_zero ▸ value_strictMono.monotone (Nat.zero_le _)
  have hself : |value rank - value rank| ≤ value rank / (2 * 10 ^ 16) := by
    rw [sub_self, abs_zero]
    positivity
  have heq := hrounds.eq_of_close hfinite hself
  rwa [heq] at hrounds

/-! ### The leading digit -/

theorem leadingExponent_spec (hnum : 0 < num) (hden : 0 < den) :
    (10 : ℚ) ^ leadingExponent num den ≤ num / den ∧
      (num : ℚ) / den < 10 ^ (leadingExponent num den + 1) := by
  have hd : (0 : ℚ) < den := Nat.cast_pos.mpr hden
  unfold leadingExponent
  split
  · next hle =>
    have hquotient : 0 < num / den := Nat.div_pos hle hden
    obtain ⟨k, hk⟩ := Nat.exists_eq_add_one_of_ne_zero
      (List.length_pos_of_ne_nil (digits_ne_nil (num / den))).ne'
    have hlow := pow_length_digits_le hquotient hk
    have hhigh := lt_pow_length_digits (num / den)
    rw [hk] at hhigh ⊢
    rw [Nat.le_div_iff_mul_le hden] at hlow
    rw [Nat.div_lt_iff_lt_mul hden] at hhigh
    rw [le_div_iff₀ hd, div_lt_iff₀ hd, Nat.cast_succ, add_sub_cancel_right, zpow_natCast,
      ← Nat.cast_succ, zpow_natCast]
    constructor
    · exact_mod_cast hlow
    · exact_mod_cast hhigh
  · next hlt =>
    have hquotient : 0 < (den - 1) / num := Nat.div_pos (by omega) hnum
    obtain ⟨k, hk⟩ := Nat.exists_eq_add_one_of_ne_zero
      (List.length_pos_of_ne_nil (digits_ne_nil ((den - 1) / num))).ne'
    have hlow := pow_length_digits_le hquotient hk
    have hhigh := lt_pow_length_digits ((den - 1) / num)
    rw [hk] at hhigh ⊢
    rw [Nat.le_div_iff_mul_le hnum] at hlow
    rw [Nat.div_lt_iff_lt_mul hnum] at hhigh
    have hexp : -((k + 1 : ℕ) : ℤ) + 1 = -(k : ℤ) := by omega
    have hle : den ≤ 10 ^ (k + 1) * num := by omega
    have hgt : 10 ^ k * num < den := by omega
    rw [hexp, zpow_neg, zpow_neg, zpow_natCast, zpow_natCast, inv_le_comm₀ (by positivity)
      (by positivity), inv_div, div_le_iff₀ (by positivity), lt_inv_comm₀ (by positivity)
      (by positivity), inv_div, lt_div_iff₀ (by positivity)]
    constructor
    · exact_mod_cast hle
    · exact_mod_cast hgt

/-! ### The neighbours of a quotient on a grid -/

/-- The exponent of the last of `count` digits. -/
def gridExponent (num den count : ℕ) : ℤ := leadingExponent num den - count + 1

/-- The coefficient of the neighbour below. -/
def gridFloor (num den count : ℕ) : ℕ :=
  num * Nat.pow 10 (-gridExponent num den count).toNat /
    (den * Nat.pow 10 (gridExponent num den count).toNat)

/-- The neighbour of a quotient that is not above it. -/
def below (num den count : ℕ) : Decimal := ⟨gridFloor num den count, gridExponent num den count⟩

/-- The neighbour of a quotient that is above it. -/
def above (num den count : ℕ) : Decimal := ⟨gridFloor num den count + 1, gridExponent num den count⟩

theorem gridFloor_eq (num den count : ℕ) :
    gridFloor num den count = ⌊(num / den : ℚ) / 10 ^ gridExponent num den count⌋₊ := by
  unfold gridFloor
  rw [← Nat.floor_div_eq_div (K := ℚ), ten_zpow_eq, Nat.pow_eq, Nat.pow_eq, div_div_div_eq]
  push_cast
  rfl

theorem below_le (num den count : ℕ) : (below num den count).value ≤ num / den := by
  have hpow : (0 : ℚ) < 10 ^ gridExponent num den count := by positivity
  unfold below Decimal.value
  rw [gridFloor_eq, ← le_div_iff₀ hpow]
  exact Nat.floor_le (by positivity)

theorem lt_above (num den count : ℕ) : (num : ℚ) / den < (above num den count).value := by
  have hpow : (0 : ℚ) < 10 ^ gridExponent num den count := by positivity
  unfold above Decimal.value
  rw [gridFloor_eq, ← div_lt_iff₀ hpow]
  exact_mod_cast Nat.lt_floor_add_one _

theorem value_above (num den count : ℕ) : (above num den count).value =
    (below num den count).value + 10 ^ gridExponent num den count := by
  unfold above below Decimal.value
  push_cast
  ring

theorem coefficient_above_le (hnum : 0 < num) (hden : 0 < den) (count : ℕ) :
    (above num den count).coefficient ≤ 10 ^ count := by
  have hexp : leadingExponent num den + 1 = count + gridExponent num den count := by
    unfold gridExponent
    ring
  have hpow : (0 : ℚ) < 10 ^ gridExponent num den count := by positivity
  have hlead := (leadingExponent_spec hnum hden).2
  rw [hexp, zpow_add₀ (by norm_num), zpow_natCast, ← div_lt_iff₀ hpow] at hlead
  show gridFloor num den count < 10 ^ count
  rw [gridFloor_eq, Nat.floor_lt (by positivity)]
  exact_mod_cast hlead

/-- Every decimal with so many digits lies on the grid, or is smaller than all that the grid is for. -/
theorem exists_multiple (num den : ℕ) (hd : d.precision ≤ count) :
    (∃ n : ℕ, d.value = n * 10 ^ gridExponent num den count) ∨
      d.value < 10 ^ leadingExponent num den := by
  obtain ⟨m, e, hm, hvalue⟩ := d.exists_of_precision
  rw [hvalue]
  unfold Decimal.value
  dsimp only
  rcases le_or_gt (gridExponent num den count) e with he | he
  · obtain ⟨k, hk⟩ := Int.eq_ofNat_of_zero_le (sub_nonneg.mpr he)
    left
    refine ⟨m * 10 ^ k, ?_⟩
    have hsum : e = k + gridExponent num den count := by omega
    rw [hsum, zpow_add₀ (by norm_num), zpow_natCast]
    push_cast
    ring
  · right
    have hpow : (0 : ℚ) < 10 ^ e := by positivity
    have hcoefficient : (m : ℚ) < 10 ^ count := by
      exact_mod_cast hm.trans_le (Nat.pow_le_pow_right (by decide) hd)
    calc (m : ℚ) * 10 ^ e < 10 ^ count * 10 ^ e := mul_lt_mul_of_pos_right hcoefficient hpow
      _ = 10 ^ ((count : ℤ) + e) := by rw [zpow_add₀ (by norm_num), zpow_natCast]
      _ ≤ 10 ^ leadingExponent num den := by
        refine zpow_le_zpow_right₀ (by norm_num) ?_
        unfold gridExponent at he
        omega

section

variable (hnum : 0 < num) (hden : 0 < den)

include hnum hden

theorem pow_le_below (hcount : 0 < count) :
    (10 : ℚ) ^ leadingExponent num den ≤ (below num den count).value := by
  obtain ⟨k, rfl⟩ := Nat.exists_eq_add_one_of_ne_zero hcount.ne'
  have hexp : leadingExponent num den = k + gridExponent num den (k + 1) := by
    unfold gridExponent
    push_cast
    ring
  have hpow : (0 : ℚ) < 10 ^ gridExponent num den (k + 1) := by positivity
  have hlead := (leadingExponent_spec hnum hden).1
  rw [hexp, zpow_add₀ (by norm_num), zpow_natCast] at hlead ⊢
  unfold below Decimal.value
  refine mul_le_mul_of_nonneg_right ?_ hpow.le
  rw [← le_div_iff₀ hpow] at hlead
  rw [gridFloor_eq]
  exact_mod_cast Nat.le_floor (by exact_mod_cast hlead)

/-- No decimal with so many digits lies between a quotient and its neighbour below. -/
theorem le_below (hcount : 0 < count) (hd : d.precision ≤ count)
    (hle : d.value ≤ num / den) : d.value ≤ (below num den count).value := by
  have hpow : (0 : ℚ) < 10 ^ gridExponent num den count := by positivity
  rcases exists_multiple num den hd with ⟨n, hn⟩ | hlt
  · rw [hn, ← le_div_iff₀ hpow] at hle
    rw [hn]
    unfold below Decimal.value
    rw [gridFloor_eq]
    refine mul_le_mul_of_nonneg_right ?_ hpow.le
    exact_mod_cast Nat.le_floor hle
  · exact hlt.le.trans (pow_le_below hnum hden hcount)

/-- Nor between it and its neighbour above. -/
theorem above_le (hd : d.precision ≤ count) (hlt : num / den < d.value) :
    (above num den count).value ≤ d.value := by
  have hpow : (0 : ℚ) < 10 ^ gridExponent num den count := by positivity
  rcases exists_multiple num den hd with ⟨n, hn⟩ | hsmall
  · rw [hn, ← div_lt_iff₀ hpow] at hlt
    rw [hn]
    unfold above Decimal.value
    rw [gridFloor_eq]
    refine mul_le_mul_of_nonneg_right ?_ hpow.le
    exact_mod_cast (Nat.floor_lt (by positivity)).mpr hlt
  · have hlead := (leadingExponent_spec hnum hden).1
    linarith

end

/-! ### What is found on a grid -/

theorem roundHalfEven_cases (a b : ℕ) :
    roundHalfEven a b = a / b ∨ roundHalfEven a b = a / b + 1 := by
  unfold roundHalfEven
  dsimp only
  split
  · exact Or.inl rfl
  · split
    · exact Or.inr rfl
    · rcases Nat.mod_two_eq_zero_or_one (a / b) with h | h <;> rw [h]
      · exact Or.inl rfl
      · exact Or.inr rfl

/-- A grid is searched at the two neighbours only. -/
theorem onGrid?_cases (rank : Rank) (num den count : ℕ) :
    (onGrid? rank num den count = none ∧ (below num den count).nearest ≠ rank ∧
      (above num den count).nearest ≠ rank) ∨
    ∃ d, onGrid? rank num den count = some d ∧ d.nearest = rank ∧
      (d = below num den count ∨ d = above num den count) := by
  have hbelow : (⟨num * Nat.pow 10 (-(leadingExponent num den - count + 1)).toNat /
      (den * Nat.pow 10 (leadingExponent num den - count + 1).toNat),
      leadingExponent num den - count + 1⟩ : Decimal) = below num den count := rfl
  have habove : (⟨num * Nat.pow 10 (-(leadingExponent num den - count + 1)).toNat /
      (den * Nat.pow 10 (leadingExponent num den - count + 1).toNat) + 1,
      leadingExponent num den - count + 1⟩ : Decimal) = above num den count := rfl
  unfold onGrid?
  dsimp only
  rw [hbelow, habove]
  split
  · next hdown =>
    split
    · next hup =>
      refine Or.inr ⟨_, rfl, ?_⟩
      rcases roundHalfEven_cases
        (num * Nat.pow 10 (-(leadingExponent num den - count + 1)).toNat)
        (den * Nat.pow 10 (leadingExponent num den - count + 1).toNat) with h | h <;> rw [h]
      · rw [hbelow]
        exact ⟨hdown, Or.inl rfl⟩
      · rw [habove]
        exact ⟨hup, Or.inr rfl⟩
    · exact Or.inr ⟨_, rfl, hdown, Or.inl rfl⟩
  · next hdown =>
    split
    · next hup => exact Or.inr ⟨_, rfl, hup, Or.inr rfl⟩
    · next hup => exact Or.inl ⟨rfl, hdown, hup⟩

section

variable (hnum : 0 < num) (hden : 0 < den) (hcount : 0 < count)

include hnum hden hcount

theorem onGrid?_eq_some (h : onGrid? rank num den count = some d) :
    d.nearest = rank ∧ d.precision ≤ count := by
  rcases onGrid?_cases rank num den count with ⟨hnone, -⟩ | ⟨found, hfound, hnear, hcases⟩
  · rw [hnone] at h
    cases h
  · obtain rfl : found = d := Option.some.inj (hfound.symm.trans h)
    have hle := coefficient_above_le hnum hden count
    refine ⟨hnear, Decimal.precision_le hcount ?_⟩
    rcases hcases with rfl | rfl
    · exact (Nat.le_succ _).trans hle
    · exact hle

/-- **Where neither neighbour rounds to the double of the quotient, no decimal with so many digits does.** -/
theorem nearest_ne_of_onGrid? (hrank : Rounds (num / den) rank)
    (h : onGrid? rank num den count = none) (hd : d.precision ≤ count) : d.nearest ≠ rank := by
  rintro rfl
  rcases onGrid?_cases d.nearest num den count with ⟨-, hdown, hup⟩ | ⟨found, hfound, -⟩
  · rcases le_or_gt d.value (num / den) with hle | hlt
    · have hlow := d.rounds_nearest.mono (below num den count).rounds_nearest
        (le_below hnum hden hcount hd hle)
      have hhigh := (below num den count).rounds_nearest.mono hrank (below_le num den count)
      exact hdown (le_antisymm hhigh hlow)
    · have hlow := hrank.mono (above num den count).rounds_nearest (lt_above num den count).le
      have hhigh := (above num den count).rounds_nearest.mono d.rounds_nearest
        (above_le hnum hden hd hlt)
      exact hup (le_antisymm hhigh hlow)
  · rw [hfound] at h
    cases h

end

/-! ### The search over the grids -/

theorem units_pos {s : ℕ} (h : 0 < s) : 0 < units s := by
  obtain ⟨r, rfl⟩ := Nat.exists_eq_add_one_of_ne_zero h.ne'
  rw [units_succ]
  exact Nat.add_pos_right _ (Nat.two_pow_pos _)

/-- **Seventeen digits suffice.** -/
theorem onGrid?_seventeen (hfinite : rank ≠ Fin.last infinityRank) (hpos : 0 < rank.val) :
    onGrid? rank (units rank) unitsPerOne 17 ≠ none := by
  intro h
  rcases onGrid?_cases rank (units rank) unitsPerOne 17 with ⟨-, hdown, hup⟩ | ⟨d, hd, -⟩
  · set low := below (units rank) unitsPerOne 17 with hlow
    set high := above (units rank) unitsPerOne 17 with hhigh
    have hle : low.value ≤ value rank := value_eq rank ▸ below_le (units rank) unitsPerOne 17
    have hlt : value rank < high.value := value_eq rank ▸ lt_above (units rank) unitsPerOne 17
    have hstep : high.value = low.value + 10 ^ gridExponent (units rank) unitsPerOne 17 :=
      value_above (units rank) unitsPerOne 17
    have hlead := (leadingExponent_spec (units_pos hpos) zero_lt_unitsPerOne).1
    have hexp : leadingExponent (units rank) unitsPerOne =
        gridExponent (units rank) unitsPerOne 17 + 16 := by
      unfold gridExponent
      ring
    rw [← value_eq, hexp, zpow_add₀ (by norm_num)] at hlead
    generalize (10 : ℚ) ^ gridExponent (units rank) unitsPerOne 17 = step at hstep hlead
    have hgrid : step ≤ value rank / 10 ^ 16 := by
      rw [le_div_iff₀ (by norm_num)]
      exact hlead
    rcases le_total (value rank - low.value) (high.value - value rank) with hnear | hnear
    · refine hdown (low.rounds_nearest.eq_of_close hfinite ?_)
      rw [abs_le]
      constructor <;> linarith
    · refine hup (high.rounds_nearest.eq_of_close hfinite ?_)
      rw [abs_le]
      constructor <;> linarith
  · rw [hd] at h
    cases h

/-- The decimal that is written lies on the first grid on which one is found. -/
theorem exists_onGrid?_shortest (hfinite : rank ≠ Fin.last infinityRank) (hpos : 0 < rank.val) :
    ∃ n, onGrid? rank (units rank) unitsPerOne (n + 1) = some (shortest rank) ∧
      ∀ m < n, onGrid? rank (units rank) unitsPerOne (m + 1) = none := by
  unfold shortest
  dsimp only
  cases hsearch : (List.range 17).findSome? fun n =>
      onGrid? rank (units rank) unitsPerOne (n + 1) with
  | none =>
    rw [List.findSome?_eq_none_iff] at hsearch
    exact absurd (hsearch 16 (List.mem_range.mpr (by decide))) (onGrid?_seventeen hfinite hpos)
  | some d =>
    obtain ⟨before, n, after, hrange, hn, hbefore⟩ := List.findSome?_eq_some_iff.mp hsearch
    have hsorted : (before ++ n :: after).Pairwise (· < ·) := hrange ▸ List.pairwise_lt_range
    have hn17 : n < 17 := List.mem_range.mp (hrange ▸ by simp)
    refine ⟨n, hn, fun m hm => hbefore m ?_⟩
    have hmem : m ∈ before ++ n :: after := hrange ▸ List.mem_range.mpr (hm.trans hn17)
    rcases List.mem_append.mp hmem with hm' | hm'
    · exact hm'
    · have hle : n ≤ m := by
        rcases List.mem_cons.mp hm' with rfl | hm'
        · exact le_rfl
        · exact (List.rel_of_pairwise_cons (List.pairwise_append.mp hsorted).2.1 hm').le
      omega

/-- **The decimal that is written reads back.** -/
theorem nearest_shortest (hfinite : rank ≠ Fin.last infinityRank) (hpos : 0 < rank.val) :
    (shortest rank).nearest = rank := by
  obtain ⟨n, hn, -⟩ := exists_onGrid?_shortest hfinite hpos
  exact (onGrid?_eq_some (units_pos hpos) zero_lt_unitsPerOne (Nat.succ_pos n) hn).1

/-- Only zero rounds to zero for want of digits. -/
theorem coefficient_pos (hpos : 0 < d.nearest.val) : 0 < d.coefficient := by
  by_contra hzero
  have hvalue : d.value = value (0 : Rank) := by
    have hcoefficient : d.coefficient = 0 := Nat.eq_zero_of_not_pos hzero
    have hrank : ((0 : Rank) : ℕ) = 0 := rfl
    unfold Decimal.value
    rw [hcoefficient, Nat.cast_zero, zero_mul, hrank, value_zero]
  have hrounds := d.rounds_nearest
  rw [hvalue] at hrounds
  have hnearest := hrounds.unique (rounds_value (by decide))
  rw [hnearest] at hpos
  exact absurd hpos (by decide)

/-- **No decimal that reads back needs fewer digits.** -/
theorem precision_shortest_le (hfinite : d.nearest ≠ Fin.last infinityRank)
    (hpos : 0 < d.nearest.val) : (shortest d.nearest).precision ≤ d.precision := by
  obtain ⟨n, hn, hbefore⟩ := exists_onGrid?_shortest hfinite hpos
  refine (onGrid?_eq_some (units_pos hpos) zero_lt_unitsPerOne (Nat.succ_pos n) hn).2.trans ?_
  by_contra hlt
  have hprecision : 0 < d.precision :=
    List.length_pos_of_ne_nil (significantDigits_ne_nil (coefficient_pos hpos))
  obtain ⟨m, hm⟩ := Nat.exists_eq_add_one_of_ne_zero hprecision.ne'
  have hrounds := rounds_value hfinite
  rw [value_eq] at hrounds
  exact nearest_ne_of_onGrid? (units_pos hpos) zero_lt_unitsPerOne (Nat.succ_pos m) hrounds
    (hbefore m (by omega)) hm.le rfl

end Double

end LoxLex
