import LoxLex.Proofs.NumberText

/-!
# LoxLex.Proofs.PrintedNumbers — number tokens, printed and scanned again

A listing shows the value of a number token.  Where it shows digits and a point alone, the text is a
numeral, and scanning it gives the number back.  The text may differ from the lexeme: it has a digit behind
the point, no zeros in front, and no more digits than are needed.

* `Double.isShortest_rankText`: such a text is a numeral for the double, and of the shortest ones.
* `scans_printed_number`: it is scanned as one number token with the value that was printed.
-/

namespace LoxLex

/-- Is a number written with no exponent, and is it not the word for infinity? -/
def InFixedNotation (text : String) : Prop := 'e' ∉ text.toList ∧ text ≠ "inf"

instance (text : String) : Decidable (InFixedNotation text) :=
  inferInstanceAs (Decidable (_ ∧ _))

namespace Double

variable {text whole fraction : List Char} {rank : Rank} {c d : Decimal}

/-! ### How many digits a text needs -/

/-- A numeral as a decimal: its digits, and as many places as stand behind the point. -/
def Decimal.ofNumeral (text : List Char) : Decimal :=
  ⟨digitsValue (text.filter isDigit), -(((text.dropWhile isDigit).drop 1).length : ℤ)⟩

theorem Decimal.value_ofNumeral (hw : whole ∈ Pattern.digits) (hf : fraction ∈ Pattern.digits) :
    (Decimal.ofNumeral (whole ++ '.' :: fraction)).value =
      (digitsValue (whole ++ fraction) : ℚ) / 10 ^ fraction.length := by
  have hwhole := Pattern.isDigit_of_mem_digits hw
  have hfraction := Pattern.isDigit_of_mem_digits hf
  have hpoint : Stops (isDigit · = true) ('.' :: fraction) := Stops.cons_iff.mpr (by decide)
  have hdigits : (whole ++ '.' :: fraction).filter isDigit = whole ++ fraction := by
    rw [List.filter_append, List.filter_cons_of_neg (by decide), List.filter_eq_self.mpr hwhole,
      List.filter_eq_self.mpr hfraction]
  unfold ofNumeral value
  rw [hdigits, hpoint.dropWhile_append hwhole, zpow_neg, zpow_natCast, div_eq_mul_inv]
  rfl

/-- The digits that a number needs do not depend on how it is written as a decimal. -/
theorem Decimal.precision_eq_of_value (h : c.value = d.value) : c.precision = d.precision := by
  wlog hle : c.exponent ≤ d.exponent generalizing c d
  · exact (this h.symm (le_of_not_ge hle)).symm
  obtain ⟨k, hk⟩ := Int.eq_ofNat_of_zero_le (sub_nonneg.mpr hle)
  have hpow : (10 : ℚ) ^ c.exponent ≠ 0 := by positivity
  have hexp : d.exponent = k + c.exponent := by omega
  unfold value at h
  rw [hexp, zpow_add₀ (by norm_num), zpow_natCast, ← mul_assoc] at h
  have hcoefficient : c.coefficient = d.coefficient * 10 ^ k := by
    exact_mod_cast mul_right_cancel₀ hpow h
  unfold precision
  rw [hcoefficient]
  rcases Nat.eq_zero_or_pos d.coefficient with hzero | hpos
  · rw [hzero, Nat.zero_mul]
  · rw [significantDigits_mul_pow hpos]

/-! ### The texts of magnitudes -/

/-- Digits on both sides of a point. -/
def HasPoint (text : List Char) : Prop :=
  ∃ whole ∈ Pattern.digits, ∃ fraction ∈ Pattern.digits, text = whole ++ '.' :: fraction

theorem HasPoint.number (h : HasPoint text) : text ∈ Pattern.number.language := by
  obtain ⟨whole, hw, fraction, hf, rfl⟩ := h
  exact Pattern.mem_number.mpr ⟨whole, hw, Or.inr ⟨fraction, hf, rfl⟩⟩

/-- The text is a numeral with a point, it denotes a number that is rounded to the rank, and no decimal
with fewer digits does. -/
structure IsShortest (text : List Char) (rank : Rank) : Prop where
  point : HasPoint text
  rounds : Rounds (decimalValue text) rank
  shortest : ∀ d : Decimal, Rounds d.value rank →
    (Decimal.ofNumeral text).precision ≤ d.precision

/-- What is written with no exponent has the point among its digits. -/
theorem Decimal.hasPoint_text (hpos : 0 < d.coefficient) (he : 'e' ∉ d.text) :
    HasPoint d.text ∧ (Decimal.ofNumeral d.text).value = d.value := by
  have hne := significantDigits_ne_nil hpos
  have hds : ∀ c ∈ significantDigits d.coefficient, isDigit c = true := fun c hc =>
    isDigit_of_mem_significantDigits hc
  by_cases h : d.IsPositional
  · obtain ⟨whole, fraction, htext, hw, hf, hvalue⟩ := positional_eq hne hds d.point
    rw [← d.text_positional h] at htext
    rw [← d.value_eq_significantDigits] at hvalue
    refine ⟨⟨whole, hw, fraction, hf, htext⟩, ?_⟩
    rw [htext, Decimal.value_ofNumeral hw hf, hvalue]
  · obtain ⟨whole, fraction, htext, -⟩ := scientific_eq hne hds (d.point - 1)
    rw [d.text_scientific h, htext] at he
    exact absurd (List.mem_append_right _ List.mem_cons_self) he

/-- A rank reads back from its text, so the number that the text denotes is rounded to it. -/
theorem rounds_rankText (hfinite : rank ≠ Fin.last infinityRank) (h : HasPoint (rankText rank)) :
    Rounds (decimalValue (rankText rank)) rank := by
  obtain ⟨r, hread, hrounds⟩ := exists_rounds_ofNumeral h.number
  have hsame := (rereads_rankText hfinite).ofText?.1
  rw [ofText?_number h.number, hread] at hsame
  obtain ⟨-, rfl⟩ := Double.signed.inj (Option.some.inj hsame)
  exact hrounds

/-- **A magnitude that is written with no exponent is written as a numeral, and as short as can be.** -/
theorem isShortest_rankText (hfinite : rank ≠ Fin.last infinityRank) (he : 'e' ∉ rankText rank) :
    IsShortest (rankText rank) rank := by
  rcases Nat.eq_zero_or_pos rank.val with hzero | hpos
  · have htext : rankText rank = ['0'] ++ '.' :: ['0'] := by
      unfold rankText
      rw [if_neg hfinite, if_pos hzero]
      rfl
    have hpoint : HasPoint (rankText rank) := ⟨_, zero_mem_digits, _, zero_mem_digits, htext⟩
    refine ⟨hpoint, rounds_rankText hfinite hpoint, fun d _ => ?_⟩
    have hnone : (Decimal.ofNumeral (rankText rank)).precision = 0 := by
      rw [htext]
      decide
    rw [hnone]
    exact Nat.zero_le _
  · have hnearest := nearest_shortest hfinite hpos
    have hshortest : rankText rank = (shortest rank).text := by
      unfold rankText
      rw [if_neg hfinite, if_neg hpos.ne']
    rw [hshortest] at he
    obtain ⟨hpoint, hvalue⟩ := Decimal.hasPoint_text (coefficient_pos (by rwa [hnearest])) he
    rw [← hshortest] at hpoint hvalue
    refine ⟨hpoint, rounds_rankText hfinite hpoint, fun d hd => ?_⟩
    obtain rfl : d.nearest = rank := d.rounds_nearest.unique hd
    rw [Decimal.precision_eq_of_value hvalue]
    exact precision_shortest_le hfinite hpos

end Double

/-! ### Scanning the text -/

/-- A numeral alone is one number token. -/
theorem scans_numeral {text : List Char} (h : text ∈ Pattern.number.language) (file : String) :
    Scans text file
      [⟨.number, String.ofList text, .number (Double.ofNumeral text), 1⟩, .endOfInput 1] [] := by
  have hlines : text.count '\n' = 0 :=
    List.count_eq_zero.mpr (Pattern.newline_notMem h (by decide) (by decide))
  have hsegments := segments_lexeme h (Pattern.closed_nil .number text)
  rw [List.append_nil, segments_nil] at hsegments
  refine scans_of_eq ?_
  rw [scanSource_eq, hsegments, hlines, tokensFrom_cons, Span.token?_lexeme,
    diagnosticsFrom_eq_nil file 1 _ (by simp), tokensFrom_nil]
  have htext : (Span.lexeme .number text).text.count '\n' = 0 := hlines
  rw [htext]
  rfl

/-- **Printed numbers scan back.**  The listing of a number token ends in the text of its value.  If this
is in fixed notation, it has digits on both sides of a point, it denotes a number that is rounded to the
value, no decimal with fewer digits does, and scanned alone it is one number token with the same value, and
nothing is wrong. -/
theorem scans_printed_number (source : List Char) (file : String) :
    ∃ ts ds, Scans source file ts ds ∧ ∀ t ∈ ts, t.kind = .number →
      ∃ rank, t.literal = .number (.signed false rank) ∧
        t.text = "NUMBER " ++ t.lexeme ++ " " ++ t.literal.text ∧
        (InFixedNotation t.literal.text →
          Double.IsShortest t.literal.text.toList rank ∧
          ∀ otherFile, Scans t.literal.text.toList otherFile
            [⟨.number, t.literal.text, t.literal, 1⟩, .endOfInput 1] []) := by
  refine ⟨_, _, scans_of_eq rfl, fun t ht hkind => ?_⟩
  obtain ⟨rank, hrank⟩ := exists_isRounded ht hkind
  have hprinted : t.literal.text = String.ofList (Double.rankText rank) := by
    rw [hrank.literal]
    simp [Literal.text, Double.text]
  refine ⟨rank, hrank.literal, ?_, fun hfixed => ?_⟩
  · unfold Token.text
    rw [hkind]
    rfl
  · obtain ⟨he, hword⟩ := hfixed
    rw [hprinted] at hword
    rw [hprinted, String.toList_ofList] at he
    have hfinite : rank ≠ Fin.last Double.infinityRank := by
      intro hlast
      rw [hlast, Double.rankText_infinity] at hword
      exact hword rfl
    have hshortest := Double.isShortest_rankText hfinite he
    have hread := (Double.rereads_rankText hfinite).ofText?.1
    rw [Double.ofText?_number hshortest.point.number] at hread
    rw [hprinted, String.toList_ofList, hrank.literal, ← Option.some.inj hread]
    exact ⟨hshortest, scans_numeral hshortest.point.number⟩

/-- The number of the lexeme lies halfway between two doubles; the text is the lower one's. -/
theorem scans_printed_number_halfway :
    ∃ ts ds, Scans "9007199254740993".toList "a.lox" ts ds ∧
      ∃ t ∈ ts, t.kind = .number ∧ t.literal.text = "9007199254740992.0" ∧
        InFixedNotation t.literal.text ∧ Scans "9007199254740992.0".toList "b.lox"
          [⟨.number, "9007199254740992.0", t.literal, 1⟩, .endOfInput 1] [] := by
  obtain ⟨ts, ds, hscans, hprinted⟩ := scans_printed_number "9007199254740993".toList "a.lox"
  obtain ⟨t, ht, hkind, htext⟩ : ∃ t ∈ (scanSource "9007199254740993".toList "a.lox").tokens,
      t.kind = .number ∧ t.literal.text = "9007199254740992.0" := by
    decide +kernel
  rw [hscans.result] at ht
  have hfixed : InFixedNotation t.literal.text := by
    rw [htext]
    decide +kernel
  obtain ⟨rank, -, -, hagain⟩ := hprinted t ht hkind
  have hscan := (hagain hfixed).2 "b.lox"
  rw [htext] at hscan
  exact ⟨ts, ds, hscans, t, ht, hkind, htext, hfixed, hscan⟩

end LoxLex
