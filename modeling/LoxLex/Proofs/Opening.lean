import LoxLex.CharClass
import LoxLex.Proofs.Grammar

/-!
# LoxLex.Proofs.Opening — the characters that open each sort of lexeme

`Opening.Fits o c` says of every opening which characters have it, without the order in which the
tables and the ranges are asked.  `Opening.ofChar_eq_iff`: `Opening.ofChar c` is the one opening that
fits `c`, so that later proofs never look into the tables again.
-/

namespace LoxLex

/-- What holds of every character of a table, checked row by row. -/
theorem forall_mem_of_all {l : List Char} {p : Char → Prop} [DecidablePred p]
    (h : (l.all fun c => decide (p c)) = true) : ∀ c ∈ l, p c :=
  fun c hc => of_decide_eq_true (List.all_eq_true.mp h c hc)

namespace Opening

/-- The characters that the tables know: punctuation, operators, blanks, the newline, the slash and
the quote. -/
def tableChars : List Char :=
  ['(', ')', '{', '}', ',', '.', '-', '+', ';', '*', '!', '=', '<', '>', ' ', '\r', '\t', '\n', '/',
   '"']

/-- `c` opens lexemes of this sort. -/
def Fits : Opening → Char → Prop
  | .punctuation kind, c => (c, kind) ∈ TokenKind.punctuation
  | .operator alone joined, c => (c, alone, joined) ∈ TokenKind.operators
  | .blank, c => c = ' ' ∨ c = '\r' ∨ c = '\t'
  | .newline, c => c = '\n'
  | .slash, c => c = '/'
  | .quote, c => c = '"'
  | .digit, c => isDigit c = true
  | .letter, c => isLetter c = true
  | .other, c => c ∉ tableChars ∧ isWordChar c = false

instance : (o : Opening) → (c : Char) → Decidable (o.Fits c)
  | .punctuation kind, c => inferInstanceAs (Decidable ((c, kind) ∈ TokenKind.punctuation))
  | .operator alone joined, c =>
    inferInstanceAs (Decidable ((c, alone, joined) ∈ TokenKind.operators))
  | .blank, c => inferInstanceAs (Decidable (c = ' ' ∨ c = '\r' ∨ c = '\t'))
  | .newline, c => inferInstanceAs (Decidable (c = '\n'))
  | .slash, c => inferInstanceAs (Decidable (c = '/'))
  | .quote, c => inferInstanceAs (Decidable (c = '"'))
  | .digit, c => inferInstanceAs (Decidable (isDigit c = true))
  | .letter, c => inferInstanceAs (Decidable (isLetter c = true))
  | .other, c => inferInstanceAs (Decidable (c ∉ tableChars ∧ isWordChar c = false))

/-! ### The tables -/

theorem punctuation_lookup {c : Char} {kind : TokenKind}
    (h : (c, kind) ∈ TokenKind.punctuation) : TokenKind.punctuation.lookup c = some kind := by
  have table : ∀ p ∈ TokenKind.punctuation, TokenKind.punctuation.lookup p.1 = some p.2 := by decide
  exact table (c, kind) h

theorem operators_lookup {c : Char} {kinds : TokenKind × TokenKind}
    (h : (c, kinds) ∈ TokenKind.operators) : TokenKind.operators.lookup c = some kinds := by
  have table : ∀ p ∈ TokenKind.operators, TokenKind.operators.lookup p.1 = some p.2 := by decide
  exact table (c, kinds) h

/-- The punctuation characters of the grammar are those of the table. -/
theorem exists_punctuation {c : Char} (h : c ∈ Pattern.punctuationChars) :
    ∃ kind, (c, kind) ∈ TokenKind.punctuation := by
  have table : Pattern.punctuationChars = TokenKind.punctuation.map (·.1) := rfl
  rw [table] at h
  obtain ⟨⟨_, kind⟩, hk, rfl⟩ := List.mem_map.mp h
  exact ⟨kind, hk⟩

/-- The operator characters of the grammar are those of the table. -/
theorem exists_operator {c : Char} (h : c ∈ Pattern.operatorChars) :
    ∃ alone joined, (c, alone, joined) ∈ TokenKind.operators := by
  have table : Pattern.operatorChars = TokenKind.operators.map (·.1) := rfl
  rw [table] at h
  obtain ⟨⟨_, alone, joined⟩, hk, rfl⟩ := List.mem_map.mp h
  exact ⟨alone, joined, hk⟩

theorem mem_of_lookup {α β : Type} [BEq α] [LawfulBEq α] {l : List (α × β)} {a : α} {b : β}
    (h : l.lookup a = some b) : (a, b) ∈ l := by
  obtain ⟨l₁, l₂, rfl, -⟩ := List.lookup_eq_some_iff.mp h
  simp

/-- A character outside the tables has no fixed opening. -/
theorem fixed?_eq_none {c : Char} (h : c ∉ tableChars) : fixed? c = none := by
  have hp : TokenKind.punctuation.lookup c = none := by
    cases hk : TokenKind.punctuation.lookup c with
    | none => rfl
    | some kind =>
      have table : ∀ p ∈ TokenKind.punctuation, p.1 ∈ tableChars := by decide
      exact absurd (table _ (mem_of_lookup hk)) h
  have ho : TokenKind.operators.lookup c = none := by
    cases hk : TokenKind.operators.lookup c with
    | none => rfl
    | some kinds =>
      have table : ∀ p ∈ TokenKind.operators, p.1 ∈ tableChars := by decide
      exact absurd (table _ (mem_of_lookup hk)) h
  simp only [tableChars, List.mem_cons, not_or] at h
  unfold fixed?
  rw [hp, ho]
  split <;> simp_all

/-- No digit or letter is in the tables. -/
theorem notMem_tableChars {c : Char} (h : isWordChar c = true) : c ∉ tableChars := by
  have table : ∀ d ∈ tableChars, isWordChar d = false := forall_mem_of_all (by decide)
  intro hc
  rw [table c hc] at h
  exact Bool.noConfusion h

theorem isLetter_eq_false_of_isDigit {c : Char} (h : isDigit c = true) : isLetter c = false := by
  simp only [isDigit, Bool.and_eq_true, decide_eq_true_eq, Char.le_def, UInt32.le_iff_toNat_le] at h
  simp only [isLetter, Bool.or_eq_false_iff, Bool.and_eq_false_iff, decide_eq_false_iff_not,
    beq_eq_false_iff_ne, ne_eq, Char.le_def, UInt32.le_iff_toNat_le]
  have h1 : ('9' : Char).val.toNat = 57 := by decide
  have h2 : ('a' : Char).val.toNat = 97 := by decide
  have h3 : ('A' : Char).val.toNat = 65 := by decide
  refine ⟨⟨Or.inl ?_, Or.inl ?_⟩, ?_⟩
  · omega
  · omega
  · rintro rfl
    revert h
    decide

theorem isWordChar_of_isDigit {c : Char} (h : isDigit c = true) : isWordChar c = true := by
  simp [isWordChar, h]

theorem isWordChar_of_isLetter {c : Char} (h : isLetter c = true) : isWordChar c = true := by
  simp [isWordChar, h]

/-! ### The opening of a character -/

/-- The opening of a character fits it. -/
theorem fits_ofChar (c : Char) : (ofChar c).Fits c := by
  by_cases hc : c ∈ tableChars
  · have table : ∀ d ∈ tableChars, (ofChar d).Fits d := forall_mem_of_all (by decide)
    exact table c hc
  · unfold ofChar
    rw [fixed?_eq_none hc]
    by_cases hd : isDigit c = true
    · simp [hd, Fits]
    · by_cases hl : isLetter c = true
      · simp [hd, hl, Fits]
      · simp [hd, hl, Fits, hc, isWordChar]

/-- An opening that fits a character is its opening. -/
theorem ofChar_of_fits {o : Opening} {c : Char} (h : o.Fits c) : ofChar c = o := by
  cases o with
  | punctuation kind => simp [ofChar, fixed?, punctuation_lookup h]
  | operator alone joined =>
    have table : ∀ p ∈ TokenKind.operators, ofChar p.1 = .operator p.2.1 p.2.2 := by decide
    exact table _ h
  | blank => rcases h with rfl | rfl | rfl <;> rfl
  | newline => cases h; rfl
  | slash => cases h; rfl
  | quote => cases h; rfl
  | digit =>
    have hf := fixed?_eq_none (notMem_tableChars (isWordChar_of_isDigit h))
    have hd : isDigit c = true := h
    simp [ofChar, hf, hd]
  | letter =>
    have hf := fixed?_eq_none (notMem_tableChars (isWordChar_of_isLetter h))
    have hl : isLetter c = true := h
    have hd : isDigit c = false := by
      by_contra hd
      rw [isLetter_eq_false_of_isDigit (by simpa using hd)] at hl
      exact Bool.noConfusion hl
    simp [ofChar, hf, hd, hl]
  | other =>
    obtain ⟨hc, hw⟩ := h
    obtain ⟨hl, hd⟩ := Bool.or_eq_false_iff.mp hw
    simp [ofChar, fixed?_eq_none hc, hd, hl]

/-- **A character has the one opening that fits it.** -/
theorem ofChar_eq_iff {o : Opening} {c : Char} : ofChar c = o ↔ o.Fits c :=
  ⟨fun h => h ▸ fits_ofChar c, ofChar_of_fits⟩

theorem ofChar_of_blank {c : Char} (h : c ∈ [' ', '\t', '\r']) : ofChar c = .blank := by
  have table : ∀ d ∈ [' ', '\t', '\r'], ofChar d = .blank := forall_mem_of_all (by decide)
  exact table c h

/-- A character that opens nothing is none of those that open something. -/
theorem ne_of_other {c d : Char} (h : ofChar c = .other) (hd : ofChar d ≠ .other) : c ≠ d := by
  rintro rfl
  exact hd h

end Opening

end LoxLex
