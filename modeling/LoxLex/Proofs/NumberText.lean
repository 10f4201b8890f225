import LoxLex.Proofs.Shortest

/-!
# LoxLex.Proofs.NumberText — a number's text reads back as the number

A text is laid out in digits, a point and digits, and behind them an exponent or nothing; or it is one of
the words for infinity and NaN.  The layout moves the point and the exponent, and the number that the text
denotes stays the decimal that was found for the double.

* `positional_eq`, `scientific_eq`: the two layouts in digits, and the number that they denote.
* `Rereads.ofText?`, `rereads_text`: the text of a decimal reads as its double.
* `ofText?_text`: every text reads back, the sign and the words included.
-/

namespace LoxLex

namespace Double

variable {ds whole fraction rest w : List Char} {e : ℤ} {rank : Rank} {d : Decimal}

/-! ### Digits with a point among them -/

/-- The digits behind the point, with the point if there are any. -/
def pointed : List Char → List Char
  | [] => []
  | ds => '.' :: ds

theorem pointed_of_mem (h : fraction ∈ Pattern.digits) : pointed fraction = '.' :: fraction := by
  obtain ⟨c, cs, rfl, -⟩ := Pattern.mem_digits.mp h
  rfl

theorem digitsValue_append_zeros (ds : List Char) (k : ℕ) :
    digitsValue (ds ++ List.replicate k '0') = digitsValue ds * 10 ^ k := by
  rw [digitsValue_append, digitsValue_zeros, List.length_replicate, Nat.add_zero]

theorem isDigit_of_mem_zeros {k : ℕ} {c : Char} (h : c ∈ List.replicate k '0') :
    isDigit c = true := by
  rw [List.eq_of_mem_replicate h]
  rfl

theorem zero_mem_digits : ['0'] ∈ Pattern.digits :=
  Pattern.mem_digits.mpr ⟨'0', [], rfl, rfl, by simp⟩

/-- **The positional layout**: digits on both sides of the point, and the point where it belongs. -/
theorem positional_eq (hne : ds ≠ []) (hds : ∀ c ∈ ds, isDigit c = true) (point : ℤ) :
    ∃ whole fraction, positional ds point = whole ++ '.' :: fraction ∧ whole ∈ Pattern.digits ∧
      fraction ∈ Pattern.digits ∧ (digitsValue (whole ++ fraction) : ℚ) / 10 ^ fraction.length =
        digitsValue ds * 10 ^ (point - ds.length) := by
  unfold positional
  split
  · next hpoint =>
    obtain ⟨k, hk⟩ := Int.eq_ofNat_of_zero_le (neg_nonneg.mpr hpoint)
    have hzeros : (-point).toNat = k := by omega
    rw [hzeros]
    refine ⟨['0'], List.replicate k '0' ++ ds, rfl, zero_mem_digits, ?_, ?_⟩
    · refine Pattern.mem_digits_of_forall (by simp [hne]) fun c hc => ?_
      rcases List.mem_append.mp hc with hc | hc
      · exact isDigit_of_mem_zeros hc
      · exact hds c hc
    · have hvalue : digitsValue (['0'] ++ (List.replicate k '0' ++ ds)) = digitsValue ds := by
        have hzero := digitsValue_zeros (k + 1)
        rw [← List.append_assoc, digitsValue_append, List.singleton_append,
          ← List.replicate_succ, hzero, Nat.zero_mul, Nat.zero_add]
      have hexp : point - ds.length = -((k + ds.length : ℕ) : ℤ) := by omega
      rw [hvalue, hexp, zpow_neg, zpow_natCast, List.length_append, List.length_replicate,
        div_eq_mul_inv]
  · next hpoint =>
    dsimp only
    split
    · next hle =>
      obtain ⟨k, hk⟩ := Nat.exists_eq_add_of_le hle
      have hzeros : point.toNat - ds.length = k := by omega
      rw [hzeros]
      refine ⟨ds ++ List.replicate k '0', ['0'], rfl, ?_, zero_mem_digits, ?_⟩
      · refine Pattern.mem_digits_of_forall (by simp [hne]) fun c hc => ?_
        rcases List.mem_append.mp hc with hc | hc
        · exact hds c hc
        · exact isDigit_of_mem_zeros hc
      · have hvalue := digitsValue_append_zeros ds (k + 1)
        rw [List.replicate_succ', ← List.append_assoc] at hvalue
        have hexp : point - ds.length = (k : ℤ) := by omega
        rw [hvalue, hexp, zpow_natCast, List.length_singleton, pow_one, pow_succ]
        push_cast
        field_simp
    · next hlt =>
      have hwhole : ds.take point.toNat ≠ [] := by
        intro h
        have := congrArg List.length h
        rw [List.length_take, List.length_nil] at this
        omega
      have hfraction : ds.drop point.toNat ≠ [] := by
        intro h
        have := congrArg List.length h
        rw [List.length_drop, List.length_nil] at this
        omega
      refine ⟨ds.take point.toNat, ds.drop point.toNat, rfl, ?_, ?_, ?_⟩
      · exact Pattern.mem_digits_of_forall hwhole fun c hc => hds c (List.mem_of_mem_take hc)
      · exact Pattern.mem_digits_of_forall hfraction fun c hc => hds c (List.mem_of_mem_drop hc)
      · have hexp : point - ds.length = -((ds.drop point.toNat).length : ℤ) := by
          rw [List.length_drop]
          omega
        rw [List.take_append_drop, hexp, zpow_neg, zpow_natCast, div_eq_mul_inv]

/-- **The scientific layout**: one digit, the others behind a point, and the exponent. -/
theorem scientific_eq (hne : ds ≠ []) (hds : ∀ c ∈ ds, isDigit c = true) (e : ℤ) :
    ∃ whole fraction, scientific ds e = whole ++ pointed fraction ++ 'e' :: exponentText e ∧
      whole ∈ Pattern.digits ∧ (∀ c ∈ fraction, isDigit c = true) ∧
      (digitsValue (whole ++ fraction) : ℚ) / 10 ^ fraction.length * 10 ^ e =
        digitsValue ds * 10 ^ (e + 1 - ds.length) := by
  obtain ⟨c, cs, rfl⟩ := List.exists_cons_of_ne_nil hne
  obtain ⟨hc, hcs⟩ := List.forall_mem_cons.mp hds
  refine ⟨[c], cs, ?_, Pattern.mem_digits_of_forall (by simp) (by simpa using hc), hcs, ?_⟩
  · cases cs <;> rfl
  · have hexp : e + 1 - ((c :: cs).length : ℤ) = e + -(cs.length : ℤ) := by
      rw [List.length_cons]
      omega
    rw [hexp, zpow_add₀ (by norm_num), zpow_neg, zpow_natCast, List.singleton_append]
    ring

/-! ### Reading digits, a point and an exponent -/

theorem exponentText_eq (e : ℤ) : ∃ ds, exponentText e = (if e < 0 then '-' else '+') :: ds ∧
    ds ∈ Pattern.digits ∧ digitsValue ds = e.natAbs := by
  have hdigits : ∀ c ∈ digits e.natAbs, isDigit c = true := fun c hc => isDigit_of_mem_digits hc
  by_cases hlength : (digits e.natAbs).length < 2
  · refine ⟨'0' :: digits e.natAbs, by simp only [exponentText, if_pos hlength], ?_, ?_⟩
    · exact Pattern.mem_digits.mpr ⟨'0', digits e.natAbs, rfl, by decide, hdigits⟩
    · have hzero := digitsValue_append (List.replicate 1 '0') (digits e.natAbs)
      rw [digitsValue_zeros, Nat.zero_mul, Nat.zero_add, digitsValue_digits] at hzero
      exact hzero
  · refine ⟨digits e.natAbs, by simp only [exponentText, if_neg hlength], ?_, digitsValue_digits _⟩
    exact Pattern.mem_digits_of_forall (digits_ne_nil _) hdigits

theorem exponent?_exponentText (e : ℤ) : exponent? ('e' :: exponentText e) = some e := by
  obtain ⟨ds, htext, hds, hvalue⟩ := exponentText_eq e
  have hsign : splitSign ((if e < 0 then '-' else '+') :: ds) = (decide (e < 0), ds) := by
    split
    · next h => simp [splitSign, h]
    · next h => simp [splitSign, h]
  have hread : (('e' == 'e' || 'e' == 'E') && !ds.isEmpty && ds.all isDigit) = true := by
    rw [Pattern.isEmpty_of_mem_digits hds, List.all_eq_true.mpr (Pattern.isDigit_of_mem_digits hds)]
    rfl
  rw [htext, exponent?, hsign]
  dsimp only
  rw [if_pos hread, hvalue]
  congr 1
  split
  · next h => have := of_decide_eq_true h; omega
  · next h => have := of_decide_eq_false (Bool.eq_false_iff.mpr h); omega

theorem magnitude?_eq (hw : whole ∈ Pattern.digits) (hf : ∀ c ∈ fraction, isDigit c = true)
    (hrest : Stops (fun c => isDigit c = true ∨ c = '.') rest) :
    magnitude? (whole ++ pointed fraction ++ rest) =
      (exponent? rest).map (nearestNumeral whole fraction) := by
  have hall := Pattern.isDigit_of_mem_digits hw
  have hne := Pattern.isEmpty_of_mem_digits hw
  have hdigit : Stops (isDigit · = true) rest := fun c hc h => hrest c hc (Or.inl h)
  cases fraction with
  | nil =>
    have hpoint : ∀ cs, rest ≠ '.' :: cs := by
      rintro cs rfl
      exact hrest '.' rfl (Or.inr rfl)
    unfold magnitude? pointed
    rw [List.append_nil, hdigit.takeWhile_append hall, hdigit.dropWhile_append hall]
    split
    next fraction' rest' hmatch =>
      split at hmatch
      · next cs => exact absurd rfl (hpoint cs)
      · cases hmatch
        simp [hne]
  | cons c cs =>
    have hpoint : Stops (isDigit · = true) ('.' :: ((c :: cs) ++ rest)) :=
      Stops.cons_iff.mpr (by decide)
    have htext : whole ++ pointed (c :: cs) ++ rest = whole ++ '.' :: ((c :: cs) ++ rest) := by
      rw [List.append_assoc]
      rfl
    have htake := hpoint.takeWhile_append hall
    have hdrop := hpoint.dropWhile_append hall
    have htake' := hdigit.takeWhile_append hf
    have hdrop' := hdigit.dropWhile_append hf
    rw [htext]
    simp only [magnitude?, htake, hdrop, htake', hdrop']
    simp

/-- An exponent that a double can have is not cut down, and the numeral is rounded once. -/
theorem rounds_nearestNumeral (whole fraction : List Char) (hlow : -400 ≤ e) (hhigh : e ≤ 400) :
    Rounds ((digitsValue (whole ++ fraction) : ℚ) / 10 ^ fraction.length * 10 ^ e)
      (nearestNumeral whole fraction e) := by
  have hbound : max (-((whole.length : ℤ) + fraction.length + 400))
      (min ((whole.length : ℤ) + fraction.length + 400) e) = e := by omega
  have hquotient : ((digitsValue (whole ++ fraction) * 10 ^ e.toNat : ℕ) : ℚ) /
      ((10 ^ fraction.length * 10 ^ (-e).toNat : ℕ) : ℚ) =
        (digitsValue (whole ++ fraction) : ℚ) / 10 ^ fraction.length * 10 ^ e := by
    rw [ten_zpow_eq, div_mul_div_comm]
    push_cast
    rfl
  have hpos : 0 < 10 ^ fraction.length * 10 ^ (-e).toNat :=
    Nat.mul_pos (Nat.pow_pos (by decide)) (Nat.pow_pos (by decide))
  rw [← hquotient]
  unfold nearestNumeral
  dsimp only
  rw [hbound]
  exact rounds_nearest _ hpos

/-! ### The exponents of finite doubles -/

theorem two_pow_le_ten_pow {m n : ℕ} (h : m ≤ 3 * n) : (2 : ℚ) ^ m ≤ 10 ^ n := by
  have hbits : (2 : ℚ) ^ m ≤ 2 ^ (3 * n) := pow_le_pow_right₀ (by norm_num) h
  have height : (2 : ℚ) ^ (3 * n) ≤ 10 ^ n := by
    rw [pow_mul]
    exact pow_le_pow_left₀ (by norm_num) (by norm_num) n
  exact hbits.trans height

theorem Rounds.lt_ten_pow {q : ℚ} (h : Rounds q rank) (hfinite : rank ≠ Fin.last infinityRank) :
    q < 10 ^ (400 : ℤ) := by
  have hover : q < 2 ^ 1024 - 2 ^ 970 := not_le.mp (mt h.overflow.mpr hfinite)
  have hspacing : (0 : ℚ) < 2 ^ 970 := by positivity
  have hten : (2 : ℚ) ^ 1024 ≤ 10 ^ 400 := two_pow_le_ten_pow (by decide)
  rw [zpow_ofNat]
  exact (hover.trans (sub_lt_self _ hspacing)).trans_le hten

theorem Rounds.ten_pow_lt {q : ℚ} (h : Rounds q rank) (hfinite : rank ≠ Fin.last infinityRank)
    (hpos : 0 < rank.val) : (10 : ℚ) ^ (-400 : ℤ) < q := by
  have hzero : IsDouble (value 0) := isDouble_value (hpos.trans (ne_last_iff.mp hfinite))
  have hnear := (abs_sub_le_iff_midpoint (value_strictMono hpos)).mp (h.nearest hfinite _ hzero)
  have hleast : value 1 ≤ value rank := value_strictMono.monotone hpos
  have hone : value 1 = (2 ^ 1074)⁻¹ := by
    have hunits : units 1 = 1 := by decide
    rw [value_eq, hunits, unitsPerOne_eq, Nat.cast_one, one_div, zpow_ofNat]
  have hten : (2 : ℚ) ^ 1074 ≤ 10 ^ 399 := two_pow_le_ten_pow (by decide)
  have hinv : ((10 : ℚ) ^ 399)⁻¹ ≤ (2 ^ 1074)⁻¹ := inv_anti₀ (by positivity) hten
  have hpow : ((10 : ℚ) ^ 400)⁻¹ = (10 ^ 399)⁻¹ / 10 := by
    rw [pow_succ, mul_inv, div_eq_mul_inv]
  have hsmall : (0 : ℚ) < (10 ^ 399)⁻¹ := by positivity
  rw [zpow_neg, zpow_ofNat, hpow]
  rw [← hone] at hinv
  rw [value_zero, zero_add] at hnear
  generalize ((10 : ℚ) ^ 399)⁻¹ = least at hinv hsmall ⊢
  linarith only [hnear, hleast, hinv, hsmall]

/-- How many digits stand before the point. -/
def Decimal.point (d : Decimal) : ℤ := (digits d.coefficient).length + d.exponent

theorem Decimal.value_bounds (h : 0 < d.coefficient) :
    (10 : ℚ) ^ (d.point - 1) ≤ d.value ∧ d.value < 10 ^ d.point := by
  have hpow : (0 : ℚ) < 10 ^ d.exponent := by positivity
  obtain ⟨k, hk⟩ := Nat.exists_eq_add_one_of_ne_zero
    (List.length_pos_of_ne_nil (digits_ne_nil d.coefficient)).ne'
  have hlow := pow_length_digits_le h hk
  have hhigh := lt_pow_length_digits d.coefficient
  have hexp : d.point - 1 = k + d.exponent := by
    unfold point
    omega
  rw [hexp, point, zpow_add₀ (by norm_num), zpow_add₀ (by norm_num), zpow_natCast, zpow_natCast]
  unfold value
  constructor
  · exact mul_le_mul_of_nonneg_right (by exact_mod_cast hlow) hpow.le
  · exact mul_lt_mul_of_pos_right (by exact_mod_cast hhigh) hpow

theorem Decimal.point_bounds (hfinite : d.nearest ≠ Fin.last infinityRank)
    (hpos : 0 < d.nearest.val) : -400 ≤ d.point - 1 ∧ d.point - 1 ≤ 400 := by
  obtain ⟨hlow, hhigh⟩ := Decimal.value_bounds (coefficient_pos hpos)
  have hten : (1 : ℚ) < 10 := by norm_num
  have hbelow := (zpow_lt_zpow_iff_right₀ hten).mp
    (hlow.trans_lt (d.rounds_nearest.lt_ten_pow hfinite))
  have habove := (zpow_lt_zpow_iff_right₀ hten).mp
    ((d.rounds_nearest.ten_pow_lt hfinite hpos).trans hhigh)
  omega

/-- A decimal by its significant digits. -/
theorem Decimal.value_eq_significantDigits (d : Decimal) : d.value =
    digitsValue (significantDigits d.coefficient) *
      10 ^ (d.point - (significantDigits d.coefficient).length) := by
  obtain ⟨k, hk⟩ := exists_digits_eq d.coefficient
  have hlength := congrArg List.length hk
  rw [List.length_append, List.length_replicate] at hlength
  have hexp : d.point - (significantDigits d.coefficient).length = k + d.exponent := by
    unfold point
    omega
  unfold value
  rw [hexp, zpow_add₀ (by norm_num), zpow_natCast, ← mul_assoc]
  congr 1
  exact_mod_cast digitsValue_significantDigits hk

/-! ### Reading the text of a decimal -/

/-- The characters of the texts of numbers. -/
def IsNumberChar (c : Char) : Prop :=
  isDigit c = true ∨ c ∈ ['.', 'e', '+', '-', 'i', 'n', 'f', 'a']

instance (c : Char) : Decidable (IsNumberChar c) := inferInstanceAs (Decidable (_ ∨ _))

/-- No stage of reading changes them. -/
theorem IsNumberChar.kept {c : Char} (h : IsNumberChar c) : IsKept c := by
  rcases h with h | h
  · exact IsPlain.kept (Or.inl h)
  · have table : ∀ d ∈ ['.', 'e', '+', '-', 'i', 'n', 'f', 'a'],
        d.toNat < 128 ∧ isAsciiBlank d = false ∧ d ≠ '_' := forall_mem_of_all (by decide)
    obtain ⟨hascii, hblank, hunderscore⟩ := table c h
    exact ⟨hascii, hblank, hunderscore⟩

/-- A text that begins with a digit and reads as a rank. -/
structure Rereads (w : List Char) (rank : Rank) : Prop where
  digit : ∃ c cs, w = c :: cs ∧ isDigit c = true
  chars : ∀ c ∈ w, IsNumberChar c
  magnitude : magnitude? w = some rank

theorem ofText?_chars (h : ∀ c ∈ w, IsNumberChar c) : ofText? w = plain? w :=
  ofText?_eq fun c hc => (h c hc).kept

/-- Such a text reads as the number, and behind a minus as the number below zero. -/
theorem Rereads.ofText? (h : Rereads w rank) :
    ofText? w = some (.signed false rank) ∧ ofText? ('-' :: w) = some (.signed true rank) := by
  have hminus : IsNumberChar '-' := Or.inr (by decide)
  rw [ofText?_chars h.chars, ofText?_chars (List.forall_mem_cons.mpr ⟨hminus, h.chars⟩)]
  obtain ⟨c, cs, rfl, hc⟩ := h.digit
  have hsign : splitSign ('-' :: c :: cs) = (true, c :: cs) := rfl
  rw [plain?_of_digit (splitSign_of_digit hc) hc, plain?_of_digit hsign hc, h.magnitude]
  exact ⟨rfl, rfl⟩

theorem isNumberChar_of_mem_pointed {c : Char} (hf : ∀ c ∈ fraction, isDigit c = true)
    (h : c ∈ pointed fraction) : IsNumberChar c := by
  cases fraction with
  | nil => cases h
  | cons d ds =>
    rcases List.mem_cons.mp h with rfl | h
    · exact Or.inr (by decide)
    · exact Or.inl (hf c h)

/-- Digits, a point and digits, with an exponent or without. -/
theorem rereads_of_parts {q : ℚ} (hw : whole ∈ Pattern.digits)
    (hf : ∀ c ∈ fraction, isDigit c = true)
    (hrest : Stops (fun c => isDigit c = true ∨ c = '.') rest) (hchars : ∀ c ∈ rest, IsNumberChar c)
    (he : exponent? rest = some e) (hlow : -400 ≤ e) (hhigh : e ≤ 400)
    (hvalue : (digitsValue (whole ++ fraction) : ℚ) / 10 ^ fraction.length * 10 ^ e = q)
    (hrank : Rounds q rank) : Rereads (whole ++ pointed fraction ++ rest) rank := by
  refine ⟨?_, ?_, ?_⟩
  · obtain ⟨c, cs, rfl, hc, -⟩ := Pattern.mem_digits.mp hw
    exact ⟨c, cs ++ pointed fraction ++ rest, rfl, hc⟩
  · intro c hc
    rcases List.mem_append.mp hc with hc | hc
    · rcases List.mem_append.mp hc with hc | hc
      · exact Or.inl (Pattern.isDigit_of_mem_digits hw c hc)
      · exact isNumberChar_of_mem_pointed hf hc
    · exact hchars c hc
  · have hrounds := rounds_nearestNumeral whole fraction hlow hhigh
    rw [hvalue] at hrounds
    rw [magnitude?_eq hw hf hrest, he, Option.map_some, hrounds.unique hrank]

theorem rereads_of_point {q : ℚ} (hw : whole ∈ Pattern.digits) (hf : fraction ∈ Pattern.digits)
    (hvalue : (digitsValue (whole ++ fraction) : ℚ) / 10 ^ fraction.length = q)
    (hrank : Rounds q rank) : Rereads (whole ++ '.' :: fraction) rank := by
  have hparts : Rereads (whole ++ pointed fraction ++ []) rank :=
    rereads_of_parts (e := 0) hw (Pattern.isDigit_of_mem_digits hf) Stops.nil (by simp) rfl
      (by decide) (by decide) (by rw [zpow_zero, mul_one, hvalue]) hrank
  rwa [pointed_of_mem hf, List.append_nil] at hparts

/-- Is the decimal written with no exponent? -/
def Decimal.IsPositional (d : Decimal) : Prop :=
  positionalRange.1 ≤ d.point - 1 ∧ d.point - 1 ≤ positionalRange.2

theorem Decimal.text_positional (h : d.IsPositional) :
    d.text = positional (significantDigits d.coefficient) d.point := if_pos h

theorem Decimal.text_scientific (h : ¬ d.IsPositional) :
    d.text = scientific (significantDigits d.coefficient) (d.point - 1) := if_neg h

/-- **The text of a decimal reads as its double.** -/
theorem rereads_text (hfinite : d.nearest ≠ Fin.last infinityRank) (hpos : 0 < d.nearest.val) :
    Rereads d.text d.nearest := by
  have hne := significantDigits_ne_nil (coefficient_pos hpos)
  have hds : ∀ c ∈ significantDigits d.coefficient, isDigit c = true := fun c hc =>
    isDigit_of_mem_significantDigits hc
  have hrounds := d.rounds_nearest
  rw [d.value_eq_significantDigits] at hrounds
  by_cases h : d.IsPositional
  · obtain ⟨whole, fraction, htext, hw, hf, hvalue⟩ := positional_eq hne hds d.point
    rw [d.text_positional h, htext]
    exact rereads_of_point hw hf hvalue hrounds
  · obtain ⟨whole, fraction, htext, hw, hf, hvalue⟩ := scientific_eq hne hds (d.point - 1)
    rw [sub_add_cancel] at hvalue
    obtain ⟨hlow, hhigh⟩ := Decimal.point_bounds hfinite hpos
    have hchars : ∀ c ∈ 'e' :: exponentText (d.point - 1), IsNumberChar c := by
      obtain ⟨ds, hexponent, hdigits, -⟩ := exponentText_eq (d.point - 1)
      rw [hexponent, List.forall_mem_cons, List.forall_mem_cons]
      refine ⟨Or.inr (by decide), Or.inr ?_, fun c hc =>
        Or.inl (Pattern.isDigit_of_mem_digits hdigits c hc)⟩
      split <;> decide
    rw [d.text_scientific h, htext]
    exact rereads_of_parts hw hf (Stops.cons_iff.mpr (by decide)) hchars
      (exponent?_exponentText _) hlow hhigh hvalue hrounds

theorem rereads_rankText (hfinite : rank ≠ Fin.last infinityRank) :
    Rereads (rankText rank) rank := by
  unfold rankText
  rw [if_neg hfinite]
  split
  · next hzero =>
    obtain rfl : rank = 0 := Fin.ext hzero
    have hvalue : (digitsValue (['0'] ++ ['0']) : ℚ) / 10 ^ ['0'].length = value (0 : Rank) := by
      have hnone : digitsValue (['0'] ++ ['0']) = 0 := rfl
      have hrank : ((0 : Rank) : ℕ) = 0 := rfl
      rw [hnone, hrank, value_zero, Nat.cast_zero, zero_div]
    exact rereads_of_point zero_mem_digits zero_mem_digits hvalue (rounds_value hfinite)
  · next hne =>
    have hpos : 0 < rank.val := Nat.pos_of_ne_zero hne
    have hnearest := nearest_shortest hfinite hpos
    have htext : Rereads (shortest rank).text (shortest rank).nearest :=
      rereads_text (by rwa [hnearest]) (by rwa [hnearest])
    rwa [hnearest] at htext

/-! ### Texts of numbers -/

theorem toList_text (negative : Bool) (rank : Rank) : (text (.signed negative rank)).toList =
    (if negative then ['-'] else []) ++ rankText rank := by
  cases negative <;> simp [text]

theorem rankText_infinity : rankText (Fin.last infinityRank) = ['i', 'n', 'f'] := if_pos rfl

theorem toList_text_nan : (text .nan).toList = ['n', 'a', 'n'] := by simp [text]

theorem isNumberChar_text (x : Double) : ∀ c ∈ x.text.toList, IsNumberChar c := by
  have hword : ∀ w ⊆ ['.', 'e', '+', '-', 'i', 'n', 'f', 'a'], ∀ c ∈ w, IsNumberChar c :=
    fun w hw c hc => Or.inr (hw hc)
  cases x with
  | nan =>
    rw [toList_text_nan]
    exact hword _ (by simp)
  | signed negative rank =>
    have hrank : ∀ c ∈ rankText rank, IsNumberChar c := by
      by_cases hfinite : rank = Fin.last infinityRank
      · rw [hfinite, rankText_infinity]
        exact hword _ (by simp)
      · exact (rereads_rankText hfinite).chars
    intro c hc
    rw [toList_text, List.mem_append] at hc
    rcases hc with hc | hc
    · refine hword _ ?_ c hc
      cases negative <;> simp
    · exact hrank c hc

/-- **Every number reads back from its text.** -/
theorem ofText?_text (x : Double) : ofText? x.text.toList = some x := by
  have hread := ofText?_chars (isNumberChar_text x)
  cases x with
  | nan =>
    rw [hread, toList_text_nan]
    rfl
  | signed negative rank =>
    by_cases hfinite : rank = Fin.last infinityRank
    · rw [hread, toList_text, hfinite, rankText_infinity]
      cases negative <;> rfl
    · rw [toList_text]
      cases negative
      · exact (rereads_rankText hfinite).ofText?.1
      · exact (rereads_rankText hfinite).ofText?.2

theorem toList_text_ne_nil (x : Double) : x.text.toList ≠ [] := by
  intro h
  have hread := ofText?_text x
  rw [h] at hread
  cases hread

/-- So no two numbers have the same text. -/
theorem text_injective : Function.Injective text := by
  intro x y h
  have hx := ofText?_text x
  rw [h, ofText?_text y] at hx
  exact (Option.some.inj hx).symm

end Double

end LoxLex
