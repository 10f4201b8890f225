import LoxLex.Proofs.Ranks
import Mathlib.Order.Fin.Basic

/-!
# LoxLex.Proofs.Rounding — a quotient is rounded once

`Rounds q rank` says what it is to be the double for an exact value `q`: the nearest of all, on a tie the
even one, and infinity from `2^1024 - 2^970` on, halfway between the last double and the next power of two.

* `rounds_nearest`: the rank computed for a quotient is the one for its exact value.
* `Rounds.mono`, `Rounds.unique`: the rank for a value is determined, and it never falls when the value
  rises.

Between the two stands `Centred q rank`: `q` lies between the midpoints below and above the rank.  In the
list of ranks that goes on past infinity this says that no other rank is nearer.
-/

namespace LoxLex

namespace Double

variable {q q' : ℚ} {rank num den k m d : ℕ}

/-! ### To the nearest integer -/

/-- `m` is an integer nearest to `n / d`; if it is not the only one, it is the even one. -/
structure HalfEven (n d m : ℕ) : Prop where
  low : 2 * m * d ≤ 2 * n + d
  high : 2 * n ≤ (2 * m + 1) * d
  even : 2 * m * d = 2 * n + d ∨ 2 * n = (2 * m + 1) * d → Even m

theorem halfEven_roundHalfEven (n : ℕ) (hd : 0 < d) : HalfEven n d (roundHalfEven n d) := by
  have hn : n = n / d * d + n % d := (Nat.div_add_mod' n d).symm
  have hrest : n % d < d := Nat.mod_lt n hd
  unfold roundHalfEven
  dsimp only
  generalize n / d = down at *
  generalize n % d = rest at *
  subst hn
  have hdown : 2 * down * d = 2 * (down * d) := mul_assoc 2 down d
  have habove : (2 * down + 1) * d = 2 * (down * d) + d := by ring
  have hup : 2 * (down + 1) * d = 2 * (down * d) + 2 * d := by ring
  have habove' : (2 * (down + 1) + 1) * d = 2 * (down * d) + 3 * d := by ring
  split
  · exact ⟨by omega, by omega, fun h => by omega⟩
  · split
    · exact ⟨by omega, by omega, fun h => by omega⟩
    · -- Halfway: the parity of `down` makes the result even.
      rcases Nat.mod_two_eq_zero_or_one down with h | h
      · rw [h, Nat.add_zero]
        exact ⟨by omega, by omega, fun _ => Nat.even_iff.mpr h⟩
      · rw [h]
        exact ⟨by omega, by omega, fun _ => Nat.even_iff.mpr (by omega)⟩

theorem HalfEven.le_top {n b : ℕ} (h : HalfEven n d m) (hn : n < b * d) : m ≤ b := by
  by_contra hlt
  have hmul : 2 * (b + 1) * d ≤ 2 * m * d := Nat.mul_le_mul_right d (by omega)
  have hlow := h.low
  simp only [add_mul, mul_add, mul_assoc] at *
  omega

theorem HalfEven.le_of_mul_le {n b : ℕ} (h : HalfEven n d m) (hd : 0 < d) (hn : b * d ≤ n) :
    b ≤ m := by
  by_contra hlt
  have hmul : 2 * (m + 1) * d ≤ 2 * b * d := Nat.mul_le_mul_right d (by omega)
  have hhigh := h.high
  simp only [add_mul, mul_add, mul_assoc] at *
  omega

/-! ### The midpoints between ranks -/

/-- Halfway from a rank to the next. -/
def midpoint (rank : ℕ) : ℚ := (value rank + value (rank + 1)) / 2

/-- The same in halves of units. -/
def halves (rank : ℕ) : ℕ := 2 * units rank + 2 ^ scaleOf rank

theorem halves_add (rank : ℕ) : halves rank + 2 ^ scaleOf rank = 2 * units (rank + 1) := by
  unfold halves
  rw [units_succ]
  ring

theorem le_halves (h : k = 0 ∨ binade ≤ m) (hm : m ≤ 2 * binade) :
    (2 * m + 1) * 2 ^ k ≤ halves (k * binade + m) := by
  have hspacing : 2 ^ k ≤ 2 ^ scaleOf (k * binade + m) :=
    Nat.pow_le_pow_right two_pos (scaleOf_le h)
  unfold halves
  rw [units_eq h hm, add_mul, one_mul, mul_assoc]
  exact Nat.add_le_add_left hspacing _

theorem midpoint_strictMono : StrictMono midpoint := by
  intro r s h
  have hlow : value r < value s := value_strictMono h
  have hhigh : value (r + 1) < value (s + 1) := value_strictMono (Nat.succ_lt_succ h)
  unfold midpoint
  linarith

theorem midpoint_eq (rank : ℕ) : midpoint rank = halves rank / (2 * unitsPerOne) := by
  unfold midpoint halves
  rw [value_eq, value_eq, units_succ]
  generalize (unitsPerOne : ℚ) = one
  push_cast
  rw [← add_div, div_div]
  ring

theorem midpoint_le_iff (hden : 0 < den) :
    midpoint rank ≤ num / den ↔ halves rank * den ≤ 2 * (num * unitsPerOne) := by
  have hpos : (0 : ℚ) < den := by exact_mod_cast hden
  rw [midpoint_eq, div_le_div_iff₀ (mul_pos two_pos unitsPerOne_pos) hpos, ← Nat.cast_le (α := ℚ)]
  push_cast
  rw [mul_left_comm]

theorem le_midpoint_iff (hden : 0 < den) :
    num / den ≤ midpoint rank ↔ 2 * (num * unitsPerOne) ≤ halves rank * den := by
  have hpos : (0 : ℚ) < den := by exact_mod_cast hden
  rw [midpoint_eq, div_le_div_iff₀ hpos (mul_pos two_pos unitsPerOne_pos), ← Nat.cast_le (α := ℚ)]
  push_cast
  rw [mul_left_comm]

/-- The value lies between the midpoints on the two sides of the rank, and on one of them only if the rank
is even.  Nothing lies below zero. -/
structure Centred (q : ℚ) (rank : ℕ) : Prop where
  low : ∀ r, rank = r + 1 → midpoint r ≤ q ∧ (q ≤ midpoint r → Even rank)
  high : q ≤ midpoint rank ∧ (midpoint rank ≤ q → Even rank)

/-! ### The rank that is computed -/

/-- The scale of a quotient of `n` units by `d`. -/
def scaleAt (n d : ℕ) : ℕ := (n / d).log2 - 52

/-- The rank for a quotient, before infinity is put for those that are too large. -/
def uncapped (num den : ℕ) : ℕ :=
  let n := num * unitsPerOne
  let k := scaleAt n den
  k * binade + roundHalfEven n (den * 2 ^ k)

theorem nearest_eq (num den : ℕ) :
    (nearest num den).val = min (uncapped num den) infinityRank := rfl

theorem lt_of_scaleAt (n : ℕ) (hd : 0 < d) : n < 2 * binade * (d * 2 ^ scaleAt n d) := by
  have hlog : n / d < 2 ^ ((n / d).log2 + 1) := Nat.lt_log2_self
  have hexp : (n / d).log2 + 1 ≤ 53 + scaleAt n d := by
    unfold scaleAt
    omega
  have hlt : n / d < 2 ^ (53 + scaleAt n d) :=
    hlog.trans_le (Nat.pow_le_pow_right two_pos hexp)
  rw [Nat.div_lt_iff_lt_mul hd, pow_add, mul_assoc, mul_comm _ d] at hlt
  exact hlt

theorem scaleAt_cases (n d : ℕ) :
    scaleAt n d = 0 ∨ binade * (d * 2 ^ scaleAt n d) ≤ n := by
  rcases Nat.eq_zero_or_pos (scaleAt n d) with h | h
  · exact Or.inl h
  · have hexp : (n / d).log2 = 52 + scaleAt n d := by
      unfold scaleAt at *
      omega
    have hne : n / d ≠ 0 := by
      intro h0
      rw [h0, Nat.log2_zero] at hexp
      omega
    have hle : 2 ^ (52 + scaleAt n d) ≤ n / d := hexp ▸ Nat.log2_self_le hne
    have hmul := (Nat.mul_le_mul_right d hle).trans (Nat.div_mul_le_self n d)
    rw [pow_add, mul_assoc, mul_comm _ d] at hmul
    exact Or.inr hmul

theorem even_scaled_iff (k m : ℕ) : Even (k * binade + m) ↔ Even m := by
  rw [Nat.even_iff, Nat.even_iff, binade_eq]
  omega

section

variable {n : ℕ} (hround : HalfEven n (d * 2 ^ k) m) (hscale : k = 0 ∨ binade ≤ m)
  (htop : m ≤ 2 * binade)

include hround hscale htop

/-- The midpoint above the rounded multiple is at least half a spacing up. -/
theorem le_halves_mul :
    2 * n ≤ halves (k * binade + m) * d ∧ (halves (k * binade + m) * d ≤ 2 * n → Even m) := by
  have hhalf : (2 * m + 1) * (d * 2 ^ k) ≤ halves (k * binade + m) * d := by
    rw [mul_left_comm, mul_comm d]
    exact Nat.mul_le_mul_right d (le_halves hscale htop)
  have hhigh := hround.high
  exact ⟨by omega, fun h => hround.even (Or.inr (by omega))⟩

/-- The midpoint below it is half a spacing down, but for the first rank of a binade: there it is nearer, and
the value does not lie below the rank. -/
theorem halves_mul_le (hd : 0 < d) (hn : k = 0 ∨ binade * (d * 2 ^ k) ≤ n)
    (hr : k * binade + m = rank + 1) :
    halves rank * d ≤ 2 * n ∧ (2 * n ≤ halves rank * d → Even m) := by
  have hsum : halves rank * d + 2 ^ scaleOf rank * d = 2 * m * (d * 2 ^ k) := by
    rw [← add_mul, halves_add, ← hr, units_eq hscale htop]
    ring
  rcases scaleOf_pred hscale htop hr with h | ⟨h0, hfirst⟩
  · rw [h, mul_comm (2 ^ k)] at hsum
    have hlow := hround.low
    exact ⟨by omega, fun h => hround.even (Or.inl (by omega))⟩
  · have hbelow : binade * (d * 2 ^ k) ≤ n := hn.resolve_left h0
    have hspacing : 0 < 2 ^ scaleOf rank * d := Nat.mul_pos (Nat.two_pow_pos _) hd
    rw [hfirst, mul_assoc 2] at hsum
    exact ⟨by omega, fun h => by omega⟩

end

/-- **The rank that is computed is centred on the exact value.** -/
theorem centred_uncapped (num : ℕ) (hden : 0 < den) : Centred (num / den) (uncapped num den) := by
  set n := num * unitsPerOne with hn
  set k := scaleAt n den with hk
  set m := roundHalfEven n (den * 2 ^ k) with hm
  have hpos : 0 < den * 2 ^ k := Nat.mul_pos hden (Nat.two_pow_pos k)
  have hround : HalfEven n (den * 2 ^ k) m := halfEven_roundHalfEven n hpos
  have hcases : k = 0 ∨ binade * (den * 2 ^ k) ≤ n := scaleAt_cases n den
  have hscale : k = 0 ∨ binade ≤ m := hcases.imp_right (hround.le_of_mul_le hpos)
  have htop : m ≤ 2 * binade := hround.le_top (lt_of_scaleAt n hden)
  have hrank : uncapped num den = k * binade + m := rfl
  rw [hrank]
  refine ⟨fun r hr => ?_, ?_⟩
  · rw [midpoint_le_iff hden, le_midpoint_iff hden, even_scaled_iff]
    exact halves_mul_le hround hscale htop hden hcases hr
  · rw [midpoint_le_iff hden, le_midpoint_iff hden, even_scaled_iff]
    exact le_halves_mul hround hscale htop

/-! ### No other rank is nearer -/

/-- Of two numbers the larger is the nearer one from their midpoint on. -/
theorem abs_sub_le_iff_midpoint {a b : ℚ} (h : a < b) : |q - b| ≤ |q - a| ↔ (a + b) / 2 ≤ q := by
  have hdiff : (q - a) ^ 2 - (q - b) ^ 2 = 2 * (b - a) * (q - (a + b) / 2) := by ring
  rw [← sq_le_sq, ← sub_nonneg, hdiff, mul_nonneg_iff_of_pos_left (by linarith), sub_nonneg]

theorem abs_sub_le_iff_le_midpoint {a b : ℚ} (h : a < b) :
    |q - a| ≤ |q - b| ↔ q ≤ (a + b) / 2 := by
  have hdiff : (q - b) ^ 2 - (q - a) ^ 2 = 2 * (b - a) * ((a + b) / 2 - q) := by ring
  rw [← sq_le_sq, ← sub_nonneg, hdiff, mul_nonneg_iff_of_pos_left (by linarith), sub_nonneg]

/-- Where a value is centred no other rank is nearer to it, and if one is as near, the rank is even. -/
theorem Centred.nearest {other : ℕ} (h : Centred q rank) (hne : other ≠ rank) :
    |q - value rank| ≤ |q - value other| ∧ (|q - value other| ≤ |q - value rank| → Even rank) := by
  rcases Nat.lt_or_gt_of_ne hne with hlt | hlt
  · have hvalue : value other < value rank := value_strictMono hlt
    obtain ⟨r, rfl⟩ := Nat.exists_eq_add_one_of_ne_zero (Nat.ne_zero_of_lt hlt)
    obtain ⟨hlow, heven⟩ := h.low r rfl
    have hmid : (value other + value (r + 1)) / 2 ≤ midpoint r := by
      have hle : value other ≤ value r := value_strictMono.monotone (Nat.le_of_lt_succ hlt)
      unfold midpoint
      linarith
    exact ⟨(abs_sub_le_iff_midpoint hvalue).mpr (hmid.trans hlow),
      fun htie => heven (((abs_sub_le_iff_le_midpoint hvalue).mp htie).trans hmid)⟩
  · have hvalue : value rank < value other := value_strictMono hlt
    obtain ⟨hhigh, heven⟩ := h.high
    have hmid : midpoint rank ≤ (value rank + value other) / 2 := by
      have hle : value (rank + 1) ≤ value other := value_strictMono.monotone hlt
      unfold midpoint
      linarith
    exact ⟨(abs_sub_le_iff_le_midpoint hvalue).mpr (hhigh.trans hmid),
      fun htie => heven (hmid.trans ((abs_sub_le_iff_midpoint hvalue).mp htie))⟩

/-! ### Infinity -/

theorem midpoint_scaled (h : k = 0 ∨ binade ≤ m) (hm : m < 2 * binade) :
    midpoint (k * binade + m) = (2 * m + 1) * 2 ^ ((k : ℤ) - 1075) := by
  have hhalves : (halves (k * binade + m) : ℚ) = (2 * m + 1) * 2 ^ k := by
    unfold halves
    rw [units_eq h hm.le, scaleOf_eq h hm]
    push_cast
    ring
  have hexp : (k : ℤ) - 1075 = k - (1 + 1074) := by ring
  rw [midpoint_eq, hhalves, unitsPerOne_eq, hexp, zpow_sub₀ two_ne_zero, zpow_add₀ two_ne_zero,
    zpow_natCast, zpow_one, mul_div_assoc]

/-- Between the last double and the next power of two. -/
theorem midpoint_last (h : rank + 1 = infinityRank) : midpoint rank = 2 ^ 1024 - 2 ^ 970 := by
  have hrank : rank = 2045 * binade + (2 * binade - 1) := by
    rw [infinityRank_eq] at h
    rw [binade_eq]
    omega
  have hfull : binade ≤ 2 * binade - 1 ∧ 2 * binade - 1 < 2 * binade := by
    rw [binade_eq]
    omega
  have hones : ((2 * binade - 1 : ℕ) : ℚ) = 2 ^ 53 - 1 := by
    rw [binade_eq]
    norm_num
  have hexp : ((2045 : ℕ) : ℤ) - 1075 = 970 := by norm_num
  have htop : (2 : ℚ) ^ 1024 = 2 ^ 54 * 2 ^ 970 := pow_add 2 54 970
  rw [hrank, midpoint_scaled (Or.inr hfull.1) hfull.2, hones, hexp, zpow_ofNat, htop]
  generalize (2 : ℚ) ^ 970 = spacing
  ring

theorem odd_last (h : rank + 1 = infinityRank) : ¬ Even rank := by
  rw [infinityRank_eq] at h
  rw [Nat.even_iff]
  omega

/-- A value is centred on a rank past the last finite one just when it is at least halfway there. -/
theorem Centred.infinityRank_le_iff (h : Centred q rank) :
    infinityRank ≤ rank ↔ 2 ^ 1024 - 2 ^ 970 ≤ q := by
  obtain ⟨last, hlast⟩ : ∃ last, last + 1 = infinityRank := ⟨infinityRank - 1, by decide⟩
  rw [← midpoint_last hlast, ← hlast]
  constructor
  · intro hle
    obtain ⟨r, rfl⟩ := Nat.exists_eq_add_one_of_ne_zero (Nat.ne_zero_of_lt hle)
    exact (midpoint_strictMono.monotone (Nat.le_of_succ_le_succ hle)).trans (h.low r rfl).1
  · intro hq
    obtain ⟨hhigh, heven⟩ := h.high
    have hle : last ≤ rank := midpoint_strictMono.le_iff_le.mp (hq.trans hhigh)
    refine Nat.lt_of_le_of_ne hle ?_
    rintro rfl
    exact odd_last hlast (heven hq)

/-! ### The double for a value -/

/-- The double for an exact value that is not negative.  It is the nearest of all doubles, those below zero
included; if another is as near, its last place is even; and a value half a spacing past the largest double
has none but infinity. -/
structure Rounds (q : ℚ) (rank : Rank) : Prop where
  overflow : rank = Fin.last infinityRank ↔ 2 ^ 1024 - 2 ^ 970 ≤ q
  double : rank ≠ Fin.last infinityRank → IsDouble (value rank)
  nearest : rank ≠ Fin.last infinityRank → ∀ x, IsDouble x → |q - value rank| ≤ |q - x|
  even : rank ≠ Fin.last infinityRank → ∀ x, IsDouble x → x ≠ value rank →
    |q - x| = |q - value rank| → Even (significand rank)

theorem ne_last_iff {r : Rank} : r ≠ Fin.last infinityRank ↔ r.val < infinityRank := by
  rw [← Fin.lt_last_iff_ne_last, Fin.lt_def, Fin.val_last]

/-- A finite rank on which a value is centred is its double. -/
theorem Centred.nearest_double {x : ℚ} (h : Centred q rank) (hq : 0 ≤ q) (hx : IsDouble x)
    (hne : x ≠ value rank) :
    |q - value rank| ≤ |q - x| ∧ (|q - x| = |q - value rank| → Even (significand rank)) := by
  rw [even_significand_iff]
  rcases le_or_gt 0 x with h0 | h0
  · obtain ⟨other, -, rfl⟩ := exists_value_eq hx h0
    have hother : other ≠ rank := fun e => hne (e ▸ rfl)
    obtain ⟨hle, heven⟩ := h.nearest hother
    exact ⟨hle, fun htie => heven htie.le⟩
  -- A double below zero is farther away than zero is.
  · have hzero : |q - value rank| ≤ |q - value 0| := by
      by_cases hrank : rank = 0
      · rw [hrank]
      · exact (h.nearest (Ne.symm hrank)).1
    have hfar : |q - value 0| < |q - x| := by
      rw [value_zero, sub_zero, abs_of_nonneg hq, abs_of_pos (by linarith)]
      linarith
    exact ⟨hzero.trans hfar.le, fun htie => absurd htie (hzero.trans_lt hfar).ne'⟩

/-- **A quotient is rounded once, and correctly.** -/
theorem rounds_nearest (num : ℕ) (hden : 0 < den) : Rounds (num / den) (nearest num den) := by
  have hq : (0 : ℚ) ≤ num / den := div_nonneg num.cast_nonneg den.cast_nonneg
  have hcentred := centred_uncapped num hden
  have hval := nearest_eq num den
  have hlast : nearest num den = Fin.last infinityRank ↔ infinityRank ≤ uncapped num den := by
    rw [Fin.ext_iff, hval, Fin.val_last]
    omega
  have hfinite : nearest num den ≠ Fin.last infinityRank →
      (nearest num den).val = uncapped num den := fun h => by
    rw [Ne, hlast] at h
    omega
  refine ⟨hlast.trans hcentred.infinityRank_le_iff, fun h => isDouble_value (ne_last_iff.mp h), ?_, ?_⟩
  · intro h x hx
    rw [hfinite h]
    by_cases hne : x = value (uncapped num den)
    · rw [hne]
    · exact (hcentred.nearest_double hq hx hne).1
  · intro h x hx hne
    rw [hfinite h] at hne ⊢
    exact (hcentred.nearest_double hq hx hne).2

/-! ### The double is determined, and rises with the value -/

/-- An even rank below the double is farther away: were it as near, the double would be even too, and a rank
between the two would be nearer. -/
theorem Rounds.farther {r : Rank} {s : ℕ} (h : Rounds q r) (hr : r ≠ Fin.last infinityRank)
    (hlt : s < r.val) (heven : Even s) : |q - value r| < |q - value s| := by
  by_contra hle
  have hvalue : value s < value r := value_strictMono hlt
  have hbelow : s < infinityRank := hlt.trans (ne_last_iff.mp hr)
  have htie : |q - value s| = |q - value r| :=
    le_antisymm (not_lt.mp hle) (h.nearest hr _ (isDouble_value hbelow))
  have hreven := h.even hr _ (isDouble_value hbelow) hvalue.ne htie
  rw [even_significand_iff, Nat.even_iff] at hreven
  rw [Nat.even_iff] at heven
  have hbetween : s + 1 < r.val := by omega
  have hnear := h.nearest hr _ (isDouble_value (hbetween.trans (ne_last_iff.mp hr)))
  rw [abs_sub_le_iff_midpoint (value_strictMono hbetween)] at hnear
  have hmid := (abs_sub_le_iff_le_midpoint hvalue).mp htie.le
  have hstep : value s < value (s + 1) := value_strictMono (Nat.lt_succ_self s)
  linarith

/-- **Of two values the larger never has the smaller double.**  Else both values would be the one halfway
between the doubles, and the lower double, which is even, would not be farther away. -/
theorem Rounds.mono {r s : Rank} (hr : Rounds q r) (hs : Rounds q' s) (hle : q ≤ q') : r ≤ s := by
  by_contra hgt
  have hlt : s.val < r.val := not_le.mp hgt
  have hs' : s ≠ Fin.last infinityRank := by
    rw [ne_last_iff]
    omega
  have hr' : r ≠ Fin.last infinityRank := fun h =>
    hs' (hs.overflow.mpr ((hr.overflow.mp h).trans hle))
  have hvalue : value s < value r := value_strictMono hlt
  have hlow : (value s + value r) / 2 ≤ q :=
    (abs_sub_le_iff_midpoint hvalue).mp (hr.nearest hr' _ (hs.double hs'))
  have hhigh : q' ≤ (value s + value r) / 2 :=
    (abs_sub_le_iff_le_midpoint hvalue).mp (hs.nearest hs' _ (hr.double hr'))
  obtain rfl : q = q' := le_antisymm hle (hhigh.trans hlow)
  have hnear : |q - value s| ≤ |q - value r| := (abs_sub_le_iff_le_midpoint hvalue).mpr hhigh
  have htie : |q - value r| = |q - value s| :=
    le_antisymm ((abs_sub_le_iff_midpoint hvalue).mpr hlow) hnear
  have heven := hs.even hs' _ (hr.double hr') hvalue.ne' htie
  rw [even_significand_iff] at heven
  exact (hr.farther hr' hlt heven).not_ge hnear

/-- A value has one double. -/
theorem Rounds.unique {r s : Rank} (hr : Rounds q r) (hs : Rounds q s) : r = s :=
  le_antisymm (hr.mono hs le_rfl) (hs.mono hr le_rfl)

/-- The number that a rank stands for, infinity above all. -/
def magnitude (rank : Rank) : WithTop ℚ :=
  if rank = Fin.last infinityRank then ⊤ else value rank

theorem magnitude_mono : Monotone magnitude := by
  intro r s h
  unfold magnitude
  split
  · next hr =>
    rw [hr] at h
    rw [if_pos (Fin.last_le_iff.mp h)]
  · split
    · exact le_top
    · exact WithTop.coe_le_coe.mpr (value_strictMono.monotone h)

end Double

end LoxLex
