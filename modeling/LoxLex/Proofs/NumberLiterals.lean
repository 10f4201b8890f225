import LoxLex.Proofs.Rounding
import LoxLex.Proofs.Run
import Mathlib.Data.Nat.Digits.Defs
import Mathlib.Tactic.Ring

/-!
# LoxLex.Proofs.NumberLiterals — the value of a number token

`Double.decimalValue` is the rational number that a numeral denotes, however long it is: digits by rising
powers of ten before the point and by falling ones behind it.

* `Double.exists_rounds_ofNumeral`: a numeral is read as the double for that number.
* `scans_numbers`: so is every number token of a scan.  Numerals for one number therefore have one value,
  and one for a larger number never has a smaller value.
-/

namespace LoxLex

namespace Double

/-- What a decimal digit counts. -/
def digitValue (c : Char) : ℕ := c.toNat - '0'.toNat

/-- The number `0.ds`. -/
def fractionValue (ds : List Char) : ℚ := Nat.ofDigits (1 / 10) (0 :: ds.map digitValue)

/-- The number that a numeral denotes: digits, and digits behind a point if there is one. -/
def decimalValue (text : List Char) : ℚ :=
  (Nat.ofDigits 10 ((text.takeWhile (· ≠ '.')).map digitValue).reverse : ℕ) +
    fractionValue ((text.dropWhile (· ≠ '.')).drop 1)

variable {text : List Char}

theorem digitsValue_concat (ds : List Char) (c : Char) :
    digitsValue (ds ++ [c]) = 10 * digitsValue ds + digitValue c := by
  unfold digitsValue
  rw [List.foldl_append]
  rfl

theorem digitsValue_append (ds es : List Char) :
    digitsValue (ds ++ es) = digitsValue ds * 10 ^ es.length + digitsValue es := by
  induction es using List.reverseRecOn with
  | nil => simp [digitsValue]
  | append_singleton es c ih =>
    rw [← List.append_assoc, digitsValue_concat, digitsValue_concat, ih, List.length_append,
      List.length_singleton, pow_succ]
    ring

/-- Before the point every digit counts ten times what the one behind it does. -/
theorem digitsValue_eq (ds : List Char) :
    digitsValue ds = Nat.ofDigits 10 (ds.map digitValue).reverse := by
  induction ds using List.reverseRecOn with
  | nil => rfl
  | append_singleton ds c ih =>
    rw [digitsValue_concat, List.map_append, List.reverse_append, List.map_singleton,
      List.reverse_singleton, List.singleton_append, Nat.ofDigits_cons, ← ih, Nat.add_comm]

theorem fractionValue_cons (c : Char) (ds : List Char) :
    fractionValue (c :: ds) = (digitValue c + fractionValue ds) / 10 := by
  unfold fractionValue
  simp only [List.map_cons, Nat.ofDigits, Nat.cast_zero, zero_add]
  ring

/-- Behind the point it counts a tenth. -/
theorem digitsValue_div (ds : List Char) :
    (digitsValue ds : ℚ) / 10 ^ ds.length = fractionValue ds := by
  induction ds with
  | nil => simp [digitsValue, fractionValue, Nat.ofDigits]
  | cons c ds ih =>
    have hfirst : digitsValue [c] = digitValue c := Nat.zero_add _
    have hsplit := digitsValue_append [c] ds
    rw [List.singleton_append, hfirst] at hsplit
    rw [fractionValue_cons, ← ih, hsplit, List.length_cons, pow_succ]
    push_cast
    field_simp

/-- Reading a numeral and its number find the same digits before and behind the point. -/
theorem exists_parts (h : text ∈ Pattern.number.language) :
    ∃ whole fraction, ofNumeral text = ofDecimal whole fraction ∧
      decimalValue text = digitsValue whole + fractionValue fraction := by
  obtain ⟨whole, hw, ht⟩ := Pattern.mem_number.mp h
  have hall := Pattern.isDigit_of_mem_digits hw
  have hpoint : ∀ c ∈ whole, decide (c ≠ '.') = true := fun c hc => decide_eq_true fun e => by
    rw [e] at hc
    exact absurd (hall _ hc) (by decide)
  obtain ⟨rest, rfl, hdigit, hother⟩ : ∃ rest, text = whole ++ rest ∧
      Stops (isDigit · = true) rest ∧ Stops (fun c => decide (c ≠ '.') = true) rest := by
    rcases ht with rfl | ⟨fraction, -, rfl⟩
    · exact ⟨[], (List.append_nil _).symm, Stops.nil, Stops.nil⟩
    · exact ⟨'.' :: fraction, rfl, Stops.cons_iff.mpr (by decide), Stops.cons_iff.mpr (by decide)⟩
  refine ⟨whole, rest.drop 1, ?_, ?_⟩
  · unfold ofNumeral
    rw [hdigit.takeWhile_append hall, hdigit.dropWhile_append hall]
  · unfold decimalValue
    rw [hother.takeWhile_append hpoint, hother.dropWhile_append hpoint, digitsValue_eq]

/-- **A numeral is read as the double for the number that it denotes.** -/
theorem exists_rounds_ofNumeral (h : text ∈ Pattern.number.language) :
    ∃ rank, ofNumeral text = .signed false rank ∧ Rounds (decimalValue text) rank := by
  obtain ⟨whole, fraction, hread, hvalue⟩ := exists_parts h
  have hpos : 0 < 10 ^ fraction.length := Nat.pow_pos (by decide)
  have hquotient : ((digitsValue (whole ++ fraction) : ℕ) : ℚ) / ((10 ^ fraction.length : ℕ) : ℚ) =
      decimalValue text := by
    rw [hvalue, digitsValue_append, ← digitsValue_div]
    push_cast
    field_simp
  refine ⟨_, hread, ?_⟩
  rw [← hquotient]
  exact rounds_nearest _ hpos

/-- Halfway between two doubles: the even one is below. -/
example : ofNumeral "9007199254740993".toList = ofNumeral "9007199254740992.0".toList := by
  decide +kernel

end Double

/-! ### The number tokens of a scan -/

/-- The number that the lexeme of a number token denotes. -/
def Token.denoted (t : Token) : ℚ := Double.decimalValue t.lexeme.toList

/-- The token is written as a numeral, and its value is the double for what this denotes, not negative and
no NaN. -/
structure Token.IsRounded (t : Token) (rank : Rank) : Prop where
  numeral : t.lexeme.toList ∈ Pattern.number.language
  literal : t.literal = .number (.signed false rank)
  rounds : Double.Rounds t.denoted rank

theorem exists_isRounded {source : List Char} {file : String} {t : Token}
    (h : t ∈ (scanSource source file).tokens) (hkind : t.kind = .number) :
    ∃ rank, t.IsRounded rank := by
  rw [scanSource_eq, List.mem_append, List.mem_singleton] at h
  rcases h with h | rfl
  · obtain ⟨p, text, hp, hk, hlexeme, hliteral⟩ := exists_lexeme_of_mem h
    have htext := mem_language_of_mem_segments source hp
    have hlist : t.lexeme.toList = text := by rw [hlexeme, String.toList_ofList]
    rw [hkind] at hk
    rcases Pattern.kind?_cases hk with hno | ⟨-, hno⟩ | ⟨rfl, -⟩
    · exact absurd (by decide) hno
    · cases hno
    · obtain ⟨rank, hread, hrounds⟩ := Double.exists_rounds_ofNumeral htext
      refine ⟨rank, hlist ▸ htext, ?_, ?_⟩
      · rw [hliteral, ← hread]
        rfl
      · unfold Token.denoted
        rwa [hlist]
  · cases hkind

/-- **Every number token has the double for the number that its lexeme denotes**, rounded once and to even;
it is infinite from halfway past the largest double on, and never negative or a NaN.  So of two number
tokens, of one scan or of two, the ones that denote the same number have the same value, and the one that
denotes the larger number does not have the smaller value. -/
theorem scans_numbers (source other : List Char) (file otherFile : String) :
    ∃ ts ds us es, Scans source file ts ds ∧ Scans other otherFile us es ∧
      (∀ t ∈ ts, t.kind = .number → ∃ rank, t.IsRounded rank) ∧
      ∀ t ∈ ts, ∀ u ∈ us, t.kind = .number → u.kind = .number →
        (t.denoted = u.denoted → t.literal = u.literal) ∧
        (t.denoted ≤ u.denoted → ∃ r s, t.literal = .number (.signed false r) ∧
          u.literal = .number (.signed false s) ∧ Double.magnitude r ≤ Double.magnitude s) := by
  refine ⟨_, _, _, _, scans_of_eq rfl, scans_of_eq rfl, fun t ht hk => exists_isRounded ht hk, ?_⟩
  intro t ht u hu hkt hku
  obtain ⟨r, hr⟩ := exists_isRounded ht hkt
  obtain ⟨s, hs⟩ := exists_isRounded hu hku
  constructor
  · intro heq
    have hrs : r = s := hr.rounds.unique (heq ▸ hs.rounds)
    rw [hr.literal, hs.literal, hrs]
  · intro hle
    exact ⟨r, s, hr.literal, hs.literal, Double.magnitude_mono (hr.rounds.mono hs.rounds hle)⟩

/-- Zeros at either end make no difference. -/
theorem scans_numbers_seven :
    ∃ ts ds, Scans ['0', '0', '7', ' ', '7', '.', '0'] "a.lox" ts ds ∧
      ∃ t ∈ ts, ∃ u ∈ ts, t.lexeme = "007" ∧ u.lexeme = "7.0" ∧ t.literal = u.literal := by
  obtain ⟨ts, ds, us, es, hts, hus, -, hpairs⟩ := scans_numbers
    ['0', '0', '7', ' ', '7', '.', '0'] ['0', '0', '7', ' ', '7', '.', '0'] "a.lox" "a.lox"
  obtain ⟨rfl, rfl⟩ := ScanResult.mk.inj (hts.result.symm.trans hus.result)
  obtain ⟨t, ht, htk, htl⟩ :
      ∃ t ∈ (scanSource ['0', '0', '7', ' ', '7', '.', '0'] "a.lox").tokens,
        t.kind = .number ∧ t.lexeme = "007" := by
    decide +kernel
  obtain ⟨u, hu, huk, hul⟩ :
      ∃ u ∈ (scanSource ['0', '0', '7', ' ', '7', '.', '0'] "a.lox").tokens,
        u.kind = .number ∧ u.lexeme = "7.0" := by
    decide +kernel
  rw [hts.result] at ht hu
  have hdenoted : t.denoted = u.denoted := by
    unfold Token.denoted
    rw [htl, hul]
    decide +kernel
  exact ⟨ts, ds, hts, t, ht, u, hu, htl, hul, (hpairs t ht u hu htk huk).1 hdenoted⟩

end LoxLex
