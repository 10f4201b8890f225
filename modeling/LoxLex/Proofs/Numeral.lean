import LoxLex.Proofs.Span

/-!
# LoxLex.Proofs.Numeral — the value of a plain decimal numeral

Reading a number from text knows signs, exponents, blanks, underscores and foreign digits.  A number
lexeme has none of these: `Double.ofText?_number` says that it always reads, and as the double nearest
to its decimal digits, rounded once.  Whether a text is a plain numeral can be decided
(`Pattern.isNumber`).
-/

namespace LoxLex

namespace Pattern

/-- Digits, or digits with a point between them? -/
def isNumber (cs : List Char) : Bool :=
  !(cs.takeWhile isDigit).isEmpty &&
    match cs.dropWhile isDigit with
    | [] => true
    | c :: ds => c == '.' && !ds.isEmpty && ds.all isDigit

theorem mem_digits_of_forall {ds : List Char} (hne : ds ≠ []) (h : ∀ c ∈ ds, isDigit c = true) :
    ds ∈ digits := by
  obtain ⟨d, ds, rfl⟩ := List.exists_cons_of_ne_nil hne
  obtain ⟨hd, hds⟩ := List.forall_mem_cons.mp h
  exact mem_digits.mpr ⟨d, ds, rfl, hd, hds⟩

theorem isEmpty_of_mem_digits {ds : List Char} (h : ds ∈ digits) : ds.isEmpty = false := by
  obtain ⟨d, ds, rfl, -⟩ := mem_digits.mp h
  rfl

theorem isNumber_of_mem {cs : List Char} (h : cs ∈ number.language) : isNumber cs = true := by
  obtain ⟨whole, hw, h⟩ := mem_number.mp h
  have hall := isDigit_of_mem_digits hw
  have hne := isEmpty_of_mem_digits hw
  unfold isNumber
  rcases h with rfl | ⟨fraction, hf, rfl⟩
  · rw [List.takeWhile_eq_self_iff.mpr hall, List.dropWhile_eq_nil_iff.mpr hall, hne]
    rfl
  · have hpoint : Stops (isDigit · = true) ('.' :: fraction) := Stops.cons_iff.mpr (by decide)
    have hdigits : fraction.all isDigit = true := List.all_eq_true.mpr (isDigit_of_mem_digits hf)
    rw [hpoint.takeWhile_append hall, hpoint.dropWhile_append hall, hne]
    dsimp only
    rw [isEmpty_of_mem_digits hf, hdigits]
    rfl

theorem mem_of_isNumber {cs : List Char} (h : isNumber cs = true) : cs ∈ number.language := by
  have hcs : cs = cs.takeWhile isDigit ++ cs.dropWhile isDigit :=
    List.takeWhile_append_dropWhile.symm
  unfold isNumber at h
  rw [Bool.and_eq_true] at h
  obtain ⟨hne, h⟩ := h
  have hwhole : cs.takeWhile isDigit ∈ digits :=
    mem_digits_of_forall (by simpa using hne) fun c hc => List.mem_takeWhile_imp hc
  refine mem_number.mpr ⟨_, hwhole, ?_⟩
  cases hd : cs.dropWhile isDigit with
  | nil =>
    rw [hd, List.append_nil] at hcs
    exact Or.inl hcs
  | cons c ds =>
    rw [hd] at h hcs
    simp only [Bool.and_eq_true, beq_iff_eq, List.all_eq_true] at h
    obtain ⟨⟨rfl, hds⟩, hall⟩ := h
    exact Or.inr ⟨ds, mem_digits_of_forall (by simpa using hds) hall, hcs⟩

instance (cs : List Char) : Decidable (cs ∈ number.language) :=
  decidable_of_iff (isNumber cs = true) ⟨mem_of_isNumber, isNumber_of_mem⟩

end Pattern

namespace Double

/-- The double nearest to `whole.fraction`. -/
def ofDecimal (whole fraction : List Char) : Double :=
  .signed false (nearest (digitsValue (whole ++ fraction)) (10 ^ fraction.length))

/-- The value of a numeral: digits, and digits behind a point if there is one. -/
def ofNumeral (text : List Char) : Double :=
  ofDecimal (text.takeWhile isDigit) ((text.dropWhile isDigit).drop 1)

/-- The characters of a plain numeral. -/
def IsPlain (c : Char) : Prop := isDigit c = true ∨ c = '.'

theorem toNat_of_isDigit {c : Char} (h : isDigit c = true) : 48 ≤ c.toNat ∧ c.toNat ≤ 57 := by
  simp only [isDigit, Bool.and_eq_true, decide_eq_true_eq, Char.le_def, UInt32.le_iff_toNat_le] at h
  exact h

theorem IsPlain.toNat {c : Char} (h : IsPlain c) : 46 ≤ c.toNat ∧ c.toNat ≤ 57 := by
  rcases h with h | rfl
  · have := toNat_of_isDigit h
    omega
  · decide

/-! ### What reading does to plain characters: nothing -/

/-- A character that no stage of reading changes: it is ASCII, no blank and no underscore. -/
structure IsKept (c : Char) : Prop where
  ascii : c.toNat < 128
  notBlank : isAsciiBlank c = false
  notUnderscore : c ≠ '_'

theorem IsPlain.kept {c : Char} (h : IsPlain c) : IsKept c := by
  have hc := h.toNat
  refine ⟨by omega, ?_, ?_⟩
  · have hspace : c ≠ ' ' := by
      rintro rfl
      revert hc
      decide
    have hcontrol : ¬ c ≤ '\r' := by
      rw [Char.le_def, UInt32.le_iff_toNat_le]
      have h13 : ('\r' : Char).val.toNat = 13 := rfl
      have hval : c.val.toNat = c.toNat := rfl
      omega
    simp [isAsciiBlank, hspace, hcontrol]
  · rintro rfl
    exact absurd hc (by decide)

theorem toPlain?_eq {cs : List Char} (h : ∀ c ∈ cs, IsKept c) : toPlain? cs = some cs := by
  unfold toPlain?
  induction cs with
  | nil => rfl
  | cons c cs ih =>
    have hc := (h c (by simp)).ascii
    rw [List.mapM_cons, ih fun d hd => h d (List.mem_cons_of_mem c hd)]
    simp [hc]

theorem dropWhile_isAsciiBlank {cs : List Char} (h : ∀ c ∈ cs, IsKept c) :
    cs.dropWhile isAsciiBlank = cs := by
  cases cs with
  | nil => rfl
  | cons c cs => simp [(h c (by simp)).notBlank]

theorem trimBlanks_eq {cs : List Char} (h : ∀ c ∈ cs, IsKept c) : trimBlanks cs = cs := by
  unfold trimBlanks
  rw [dropWhile_isAsciiBlank h,
    dropWhile_isAsciiBlank fun c hc => h c (List.mem_reverse.mp hc), List.reverse_reverse]

theorem dropUnderscores?_eq {cs : List Char} (h : ∀ c ∈ cs, IsKept c) (before : Option Char)
    (hb : before ≠ some '_') : dropUnderscores? before cs = some cs := by
  induction cs generalizing before with
  | nil => simp [dropUnderscores?, hb]
  | cons c cs ih =>
    have hc := (h c (by simp)).notUnderscore
    have hrest := ih (fun d hd => h d (List.mem_cons_of_mem c hd)) (some c) (by simpa using hc)
    simp [dropUnderscores?, hc, hb, hrest]

/-- Such a text is read as it is. -/
theorem ofText?_eq {cs : List Char} (h : ∀ c ∈ cs, IsKept c) : ofText? cs = plain? cs := by
  have hunder := dropUnderscores?_eq h none (by simp)
  simp [ofText?, toPlain?_eq h, trimBlanks_eq h, hunder]

theorem toLower_of_isDigit {c : Char} (h : isDigit c = true) : c.toLower = c := by
  have hc := toNat_of_isDigit h
  have hval : c.val.toNat = c.toNat := rfl
  have hlow : ¬ 65 ≤ c.val := by
    rw [UInt32.le_iff_toNat_le]
    have h65 : (65 : UInt32).toNat = 65 := rfl
    omega
  exact dif_neg fun h => hlow h.1

/-- No text that begins with a digit has a sign. -/
theorem splitSign_of_digit {d : Char} {cs : List Char} (hd : isDigit d = true) :
    splitSign (d :: cs) = (false, d :: cs) := by
  have hm : d ≠ '-' := by
    rintro rfl
    exact absurd hd (by decide)
  have hp : d ≠ '+' := by
    rintro rfl
    exact absurd hd (by decide)
  unfold splitSign
  split <;> simp_all

/-- Nor is it one of the words for infinity and NaN, behind a sign or with none. -/
theorem plain?_of_digit {text : List Char} {negative : Bool} {d : Char} {cs : List Char}
    (hsign : splitSign text = (negative, d :: cs)) (hd : isDigit d = true) :
    plain? text = (magnitude? (d :: cs)).map (.signed negative) := by
  have hword : ∀ w : String, w.toList.head? ≠ some d →
      String.ofList ((d :: cs).map Char.toLower) ≠ w := by
    rintro _ hw rfl
    simp [toLower_of_isDigit hd] at hw
  have hi : d ≠ 'i' := by
    rintro rfl
    exact absurd hd (by decide)
  have hn : d ≠ 'n' := by
    rintro rfl
    exact absurd hd (by decide)
  unfold plain?
  rw [hsign]
  dsimp only
  split
  · next h => exact absurd h (hword "inf" (by simpa using Ne.symm hi))
  · next h => exact absurd h (hword "infinity" (by simpa using Ne.symm hi))
  · next h => exact absurd h (hword "nan" (by simpa using Ne.symm hn))
  · rfl

/-! ### The value -/

theorem nearestNumeral_zero (whole fraction : List Char) :
    nearestNumeral whole fraction 0 =
      nearest (digitsValue (whole ++ fraction)) (10 ^ fraction.length) := by
  have hexp : max (-((whole.length : Int) + fraction.length + 400))
      (min ((whole.length : Int) + fraction.length + 400) 0) = 0 := by omega
  unfold nearestNumeral
  dsimp only
  rw [hexp]
  simp

/-- **A number lexeme reads as the double nearest to its digits.** -/
theorem ofText?_number {text : List Char} (h : text ∈ Pattern.number.language) :
    ofText? text = some (ofNumeral text) := by
  obtain ⟨whole, hw, ht⟩ := Pattern.mem_number.mp h
  obtain ⟨d, ds, rfl, hd, -⟩ := Pattern.mem_digits.mp hw
  have hall := Pattern.isDigit_of_mem_digits hw
  have hread : ∀ cs, (∀ c ∈ d :: cs, IsPlain c) →
      ofText? (d :: cs) = (magnitude? (d :: cs)).map (.signed false) := fun cs hcs => by
    rw [ofText?_eq fun c hc => (hcs c hc).kept, plain?_of_digit (splitSign_of_digit hd) hd]
  rcases ht with rfl | ⟨fraction, hf, rfl⟩
  · have htake : (d :: ds).takeWhile isDigit = d :: ds := List.takeWhile_eq_self_iff.mpr hall
    have hdrop : (d :: ds).dropWhile isDigit = [] := List.dropWhile_eq_nil_iff.mpr hall
    rw [hread ds fun c hc => Or.inl (hall c hc)]
    simp only [magnitude?, ofNumeral, htake, hdrop]
    simp [exponent?, nearestNumeral_zero, ofDecimal]
  · have hfraction := Pattern.isDigit_of_mem_digits hf
    have hpoint : Stops (isDigit · = true) ('.' :: fraction) := Stops.cons_iff.mpr (by decide)
    have htake := hpoint.takeWhile_append hall
    have hdrop := hpoint.dropWhile_append hall
    have htake' : fraction.takeWhile isDigit = fraction := List.takeWhile_eq_self_iff.mpr hfraction
    have hdrop' : fraction.dropWhile isDigit = [] := List.dropWhile_eq_nil_iff.mpr hfraction
    have hplain : ∀ c ∈ (d :: ds) ++ '.' :: fraction, IsPlain c := by
      intro c hc
      rcases List.mem_append.mp hc with hc | hc
      · exact Or.inl (hall c hc)
      · rcases List.mem_cons.mp hc with rfl | hc
        · exact Or.inr rfl
        · exact Or.inl (hfraction c hc)
    rw [List.cons_append] at hplain htake hdrop ⊢
    rw [hread _ hplain]
    simp only [magnitude?, ofNumeral, htake, hdrop, htake', hdrop']
    simp [exponent?, nearestNumeral_zero, ofDecimal]

end Double

end LoxLex
