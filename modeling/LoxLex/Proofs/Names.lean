import LoxLex.Proofs.Decoding
import LoxLex.Proofs.Splitting
import LoxLex.Text.Ascii
import LoxLex.Unicode.Case
import LoxLex.Unicode.Identifier

/-!
# LoxLex.Proofs.Names — the characters of names

An identifier has no white space in it, and of the ASCII characters only digits, letters and the
underscore (`isNameChar`); so has its lower case.  Everything that is written between names, such as
colons, commas, brackets and newlines, therefore tells one name from the next.

* `isBlank_of_isIdentifier`, `isNameChar_of_isIdentifier`: the characters of an identifier.
* `isNameChar_lower`: and those of its lower case.
-/

namespace LoxLex.Unicode

/-- A digit, a letter, an underscore, or any character beyond ASCII. -/
def isNameChar (c : Char) : Bool := isWordChar c || 128 ≤ c.toNat

theorem isNameChar_of_isWordChar {c : Char} (h : isWordChar c = true) : isNameChar c = true := by
  simp [isNameChar, h]

theorem isNameChar_of_le {c : Char} (h : 128 ≤ c.toNat) : isNameChar c = true := by
  simp [isNameChar, h]

/-! ### Identifiers -/

/-- What holds of the characters that start names, and of those that go on with them. -/
theorem forall_mem_of_isIdentifier {P : Char → Prop} (start : ∀ c, isIdentifierStart c = true → P c)
    (more : ∀ c, isIdentifierContinue c = true → P c) {w : List Char} (h : isIdentifier w = true) :
    ∀ c ∈ w, P c := by
  cases w with
  | nil => cases h
  | cons c w =>
    unfold isIdentifier at h
    rw [Bool.and_eq_true, List.all_eq_true] at h
    rw [List.forall_mem_cons]
    refine ⟨start c h.1, fun d hd => more d (h.2 d hd)⟩

theorem ne_nil_of_isIdentifier {w : List Char} (h : isIdentifier w = true) : w ≠ [] := by
  rintro rfl
  cases h

theorem isNameChar_of_isIdentifier {w : List Char} (h : isIdentifier w = true) :
    ∀ c ∈ w, isNameChar c = true := by
  have table : ∀ n < 128, identifierStartRanges.contains n = true ∨
      identifierContinueRanges.contains n = true → isWordChar (Char.ofNat n) = true := by decide
  have hrange : ∀ c : Char, identifierStartRanges.contains c.toNat = true ∨
      identifierContinueRanges.contains c.toNat = true → isNameChar c = true := by
    intro c hc
    by_cases hn : c.toNat < 128
    · apply isNameChar_of_isWordChar
      have hword := table c.toNat hn hc
      rwa [Char.ofNat_toNat] at hword
    · exact isNameChar_of_le (by omega)
  have hstart : ∀ c, isIdentifierStart c = true → isNameChar c = true := by
    intro c hc
    unfold isIdentifierStart at hc
    rcases Bool.or_eq_true_iff.mp hc with hc | hc
    · rw [beq_iff_eq.mp hc]
      decide
    · exact hrange c (Or.inl hc)
  exact forall_mem_of_isIdentifier hstart (fun c hc => hrange c (Or.inr hc)) h

/-- No name has white space in it. -/
theorem isBlank_of_isIdentifier {w : List Char} (h : isIdentifier w = true) :
    ∀ c ∈ w, isBlank c = false := by
  -- White space is few characters, so these are looked up in the tables of names.
  have table : ∀ r ∈ blankRanges, ∀ k < r.2 - r.1 + 1,
      identifierStartRanges.contains (r.1 + k) = false ∧
        identifierContinueRanges.contains (r.1 + k) = false := by decide +kernel
  have hrange : ∀ c : Char, isBlank c = true → identifierStartRanges.contains c.toNat = false ∧
      identifierContinueRanges.contains c.toNat = false := by
    intro c hc
    obtain ⟨r, hr, hfirst, hlast⟩ := Ranges.exists_of_contains hc
    have hrow := table r hr (c.toNat - r.1) (by omega)
    rwa [Nat.add_sub_of_le hfirst] at hrow
  have hstart : ∀ c, isIdentifierStart c = true → isBlank c = false := by
    intro c hc
    by_contra hblank
    rw [Bool.not_eq_false] at hblank
    unfold isIdentifierStart at hc
    rw [(hrange c hblank).1, Bool.or_false, beq_iff_eq] at hc
    subst hc
    exact absurd hblank (by decide)
  have hmore : ∀ c, isIdentifierContinue c = true → isBlank c = false := by
    intro c hc
    by_contra hblank
    rw [Bool.not_eq_false] at hblank
    unfold isIdentifierContinue at hc
    rw [(hrange c hblank).2] at hc
    cases hc
  exact forall_mem_of_isIdentifier hstart hmore h

theorem word_of_isIdentifier {w : List Char} (h : isIdentifier w = true) : Split.Word w :=
  ⟨ne_nil_of_isIdentifier h, isBlank_of_isIdentifier h⟩

/-! ### Lower case -/

theorem isNameChar_of_run {r : CaseRun} (hr : r ∈ lowerRuns) {n m : Nat} (h : r.image? n = some m) :
    isNameChar (Char.ofNat m) = true := by
  -- A run ends among the small letters, or beyond ASCII, and holds no surrogate.
  have table : ∀ r ∈ lowerRuns,
      (97 ≤ r.first + r.shift ∧ r.last + r.shift ≤ 122) ∨
      (128 ≤ r.first + r.shift ∧ r.last + r.shift < 0xD800) ∨
      (0xE000 ≤ r.first + r.shift ∧ r.last + r.shift < 0x110000) := by decide +kernel
  have letters : ∀ k < 26, isWordChar (Char.ofNat (97 + k)) = true := by decide
  have hrun := table r hr
  unfold CaseRun.image? at h
  split at h
  · next hn =>
    obtain rfl : ((n : Int) + r.shift).toNat = m := Option.some.inj h
    rcases hrun with hrun | hrun
    · apply isNameChar_of_isWordChar
      have hletter := letters (((n : Int) + r.shift).toNat - 97) (by omega)
      rwa [Nat.add_sub_of_le (by omega)] at hletter
    · apply isNameChar_of_le
      have hvalid : (((n : Int) + r.shift).toNat).isValidChar := by
        unfold Nat.isValidChar
        omega
      rw [Utf8.toNat_ofNat hvalid]
      omega
  · cases h

/-- What one character becomes: a text of the list of expansions, what a run maps it to, or itself. -/
theorem lowerChar_cases (c : Char) :
    (∃ image, (c.toNat, image) ∈ lowerExpansions ∧ lowerChar c = image.map Char.ofNat) ∨
    (∃ r ∈ lowerRuns, ∃ n, r.image? c.toNat = some n ∧ lowerChar c = [Char.ofNat n]) ∨
    lowerChar c = [c] := by
  unfold lowerChar mapCase
  split
  · next image himage =>
    obtain ⟨before, after, hsplit, -⟩ := List.lookup_eq_some_iff.mp himage
    exact Or.inl ⟨image, by simp [hsplit], rfl⟩
  · split
    · next n hn =>
      obtain ⟨r, hr, himage⟩ := List.exists_of_findSome?_eq_some hn
      exact Or.inr (Or.inl ⟨r, hr, n, himage, rfl⟩)
    · exact Or.inr (Or.inr rfl)

theorem isNameChar_lowerChar {c : Char} (hc : isNameChar c = true) :
    ∀ d ∈ lowerChar c, isNameChar d = true := by
  have table : ∀ x ∈ lowerExpansions, ∀ n ∈ x.2, isNameChar (Char.ofNat n) = true := by decide
  rcases lowerChar_cases c with ⟨image, hmem, himage⟩ | ⟨r, hr, n, hn, himage⟩ | himage
  · rw [himage]
    exact List.forall_mem_map.mpr (table _ hmem)
  · rw [himage]
    exact List.forall_mem_singleton.mpr (isNameChar_of_run hr hn)
  · rw [himage]
    exact List.forall_mem_singleton.mpr hc

/-- **What lower case keeps of every character, it keeps of a text**, if the two forms of a sigma have it. -/
theorem forall_mem_lowerFrom {P : Char → Prop} (sigma : P 'ς' ∧ P 'σ')
    (hchar : ∀ c, P c → ∀ d ∈ lowerChar c, P d) {cs : List Char} (h : ∀ c ∈ cs, P c)
    (before : List Char) : ∀ d ∈ lowerFrom before cs, P d := by
  induction cs generalizing before with
  | nil =>
    intro d hd
    cases hd
  | cons c cs ih =>
    obtain ⟨hc, hcs⟩ := List.forall_mem_cons.mp h
    intro d hd
    unfold lowerFrom at hd
    rcases List.mem_append.mp hd with hd | hd
    · split at hd
      · split at hd
        · rw [List.mem_singleton.mp hd]
          exact sigma.1
        · rw [List.mem_singleton.mp hd]
          exact sigma.2
      · exact hchar c hc d hd
    · exact ih hcs (c :: before) d hd

/-- **The lower case of a name is made of name characters.** -/
theorem isNameChar_lower {s : String} (h : ∀ c ∈ s.toList, isNameChar c = true) :
    ∀ d ∈ (lower s).toList, isNameChar d = true := by
  unfold lower
  rw [String.toList_ofList]
  exact forall_mem_lowerFrom ⟨by decide, by decide⟩ (fun _ => isNameChar_lowerChar) h []

end LoxLex.Unicode
