import LoxLex.Proofs.Checked

/-!
# LoxLex.Proofs.Progress — a scan ends

Every turn moves the cursor on, and not past the end (`Scanner.advances_scanLexeme`).  `Turns n s t`
is a run of `n` turns before the end of the source, with no budget; the loop of a scan is such a run
(`Scanner.turns_of_scanLexemes`), and a run that starts at the beginning has no more turns than the
source has characters.  So the scan that asks whether each step applies may loop without a budget as
well: `Checked.scan_eq` says that it ends without a misstep, from any state and with any listener.

* `Scanner.scan_terminates`: all of it, and how much a scan leaves behind, if nobody refuses to go on.
-/

namespace LoxLex

/-- A span gives a token, or a diagnostic, or nothing. -/
theorem length_tokensFrom_add_le (file : String) (line : Nat) (ps : List Span) :
    (tokensFrom line ps).length + (diagnosticsFrom file line ps).length ≤ ps.length := by
  induction ps generalizing line with
  | nil => exact Nat.le_refl 0
  | cons p ps ih =>
    have hrest := ih (line + p.text.count '\n')
    have hone : (p.token? (line + p.text.count '\n')).toList.length +
        (p.diagnostic? ⟨file, ((line + p.text.count '\n' : Nat) : Int)⟩).toList.length ≤ 1 := by
      cases hd : p.diagnostic? ⟨file, ((line + p.text.count '\n' : Nat) : Int)⟩ with
      | some d =>
        rw [Span.token?_eq_none hd]
        exact Nat.le_refl 1
      | none => exact Option.length_toList_le
    rw [tokensFrom_cons, diagnosticsFrom_cons, List.length_append, List.length_append,
      List.length_cons]
    omega

namespace Scanner

variable {s t u : Scanner} {n : Nat}

theorem isAtEnd_eq_false_iff : s.isAtEnd = false ↔ ∃ c cs, s.rest = c :: cs := by
  unfold isAtEnd
  cases s.rest <;> simp

theorem isAtEnd_of_length_rest (h : s.rest.length ≤ 0) : s.isAtEnd = true :=
  List.isEmpty_iff.mpr (List.length_eq_zero_iff.mp (Nat.le_zero.mp h))

theorem isAtEnd_iff : s.isAtEnd = true ↔ s.source.length ≤ s.current := by
  unfold isAtEnd rest
  rw [List.isEmpty_iff, List.drop_eq_nil_iff]

/-! ### Turns -/

/-- The cursor of `s` has moved on to that of `t`, and not past the end. -/
structure Advances (s t : Scanner) : Prop where
  source : t.source = s.source
  listener : t.listener = s.listener
  lt : s.current < t.current
  le : t.current ≤ t.source.length

/-- What is left to read gets less. -/
theorem Advances.length_rest_lt (h : Advances s t) : t.rest.length < s.rest.length := by
  have hlt := h.lt
  have hle := h.le
  rw [rest, rest, List.length_drop, List.length_drop, ← h.source]
  omega

/-- **A turn moves the cursor on, and not past the end**, even if the listener refuses to go on. -/
theorem advances_of_turn {answer : Except Fault Unit} (hend : s.isAtEnd = false)
    (h : s.scanLexeme = (answer, t)) : Advances s t := by
  obtain ⟨c, cs, hr⟩ := isAtEnd_eq_false_iff.mp hend
  obtain ⟨more, e, hne⟩ := Span.exists_rest c cs
  obtain rfl : (s.absorb (Span.first c cs)).2 = t := by rw [← scanLexeme_eq hr, h]
  have hg := gathers_absorb (Span.first c cs) s
  have hcurrent : (s.absorb (Span.first c cs)).2.current =
      s.current + (Span.first c cs).text.length := by
    rw [hg.current, spelled_cons, spelled_nil, List.append_nil]
  have hpos := List.length_pos_iff.mpr hne
  have hlen : s.source.length - s.current = (Span.first c cs).text.length + more.length := by
    rw [← List.length_drop, ← List.length_append, ← e, ← hr]
    rfl
  refine ⟨hg.source, hg.listener, ?_, ?_⟩
  · omega
  · rw [hg.source]
    omega

/-- A listener that takes every call lets every turn go through. -/
theorem exists_turn (hend : s.isAtEnd = false) (hp : Patient s.listener) :
    ∃ t, s.scanLexeme = (.ok (), t) ∧ Advances s t := by
  obtain ⟨c, cs, hr⟩ := isAtEnd_eq_false_iff.mp hend
  have hok : s.scanLexeme.1 = .ok () := by
    rw [scanLexeme_eq hr]
    exact absorb_fst_of_takes (takes_of_patient hp _)
  have hturn : s.scanLexeme = (.ok (), s.scanLexeme.2) := Prod.ext hok rfl
  exact ⟨_, hturn, advances_of_turn hend hturn⟩

/-- From `s`, `n` turns before the end of the source lead to `t`. -/
inductive Turns : Nat → Scanner → Scanner → Prop
  | done (s : Scanner) : Turns 0 s s
  | next {n : Nat} {s t u : Scanner} : s.isAtEnd = false → s.scanLexeme = (.ok (), t) →
      Turns n t u → Turns (n + 1) s u

/-- Each turn takes one character at least. -/
theorem Turns.bounds (h : Turns n s t) (hs : s.current ≤ s.source.length) :
    t.source = s.source ∧ t.listener = s.listener ∧ s.current + n ≤ t.current ∧
      t.current ≤ t.source.length := by
  induction h with
  | done s => exact ⟨rfl, rfl, Nat.le_refl _, hs⟩
  | next hend hturn _ ih =>
    have hadv := advances_of_turn hend hturn
    obtain ⟨hsource, hlistener, hlow, hhigh⟩ := ih hadv.le
    have hlt := hadv.lt
    exact ⟨hsource.trans hadv.source, hlistener.trans hadv.listener, by omega, hhigh⟩

/-- **A loop that nobody stops is a run of turns up to the end**, if its budget is the length of what is
left to read. -/
theorem turns_of_scanLexemes (h : s.scanLexemes n = (.ok (), t)) (hn : s.rest.length ≤ n) :
    ∃ k, Turns k s t ∧ t.isAtEnd = true := by
  -- A turn takes one from the budget, and one character at least from what is left to read.
  induction n generalizing s with
  | zero =>
    cases h
    exact ⟨0, .done _, isAtEnd_of_length_rest hn⟩
  | succ n ih =>
    unfold scanLexemes at h
    cases hend : s.isAtEnd with
    | true =>
      rw [hend, if_pos rfl] at h
      cases h
      exact ⟨0, .done _, hend⟩
    | false =>
      rw [hend, if_neg Bool.false_ne_true] at h
      cases hturn : s.scanLexeme with
      | mk answer u =>
        have hless := (advances_of_turn hend hturn).length_rest_lt
        rw [hturn] at h
        cases answer with
        | error fault => cases h
        | ok =>
          obtain ⟨k, hk, hdone⟩ := ih h (by omega)
          exact ⟨k + 1, .next hend hturn hk, hdone⟩

end Scanner

/-! ### The loop that asks -/

namespace Checked

variable {s t : Scanner} {n : Nat}

theorem length_rest_lt (hend : ¬ s.isAtEnd = true) (h : scanLexeme s = .ok (.ok (), t)) :
    t.rest.length < s.rest.length := by
  rw [Bool.not_eq_true] at hend
  obtain ⟨c, cs, hr⟩ := Scanner.isAtEnd_eq_false_iff.mp hend
  rw [scanLexeme_eq hr] at h
  exact (Scanner.advances_of_turn hend (Except.ok.inj h)).length_rest_lt

/-- Reads lexemes up to the end. -/
def scanLexemes (s : Scanner) : Except Misstep (Except Fault Unit × Scanner) :=
  if _hend : s.isAtEnd = true then .ok (.ok (), s)
  else match _h : scanLexeme s with
    | .ok (.ok (), t) => scanLexemes t
    | answer => answer
termination_by s.rest.length
decreasing_by exact length_rest_lt _hend _h

/-- Scans the whole source from its beginning. -/
def scan (s : Scanner) : Except Misstep (Except Fault (Array Token) × Scanner) := do
  match ← scanLexemes s.restart with
  | (.ok (), s) => return (.ok s.finish.tokens, s.finish)
  | (.error fault, s) => return (.error fault, s)

theorem scanLexemes_eq (hn : s.rest.length ≤ n) : scanLexemes s = .ok (s.scanLexemes n) := by
  induction n generalizing s with
  | zero =>
    rw [scanLexemes, dif_pos (Scanner.isAtEnd_of_length_rest hn)]
    rfl
  | succ n ih =>
    rw [scanLexemes, Scanner.scanLexemes]
    by_cases hend : s.isAtEnd = true
    · rw [dif_pos hend, if_pos hend]
    · rw [dif_neg hend, if_neg hend]
      rw [Bool.not_eq_true] at hend
      obtain ⟨c, cs, hr⟩ := Scanner.isAtEnd_eq_false_iff.mp hend
      cases hturn : s.scanLexeme with
      | mk answer t =>
        have hless := (Scanner.advances_of_turn hend hturn).length_rest_lt
        have hchecked : scanLexeme s = .ok (answer, t) := by rw [scanLexeme_eq hr, hturn]
        split
        · next u hu =>
          cases hchecked.symm.trans hu
          exact ih (Nat.le_of_lt_succ (Nat.lt_of_lt_of_le hless hn))
        · next hother =>
          cases answer with
          | error fault => exact hchecked
          | ok => exact (hother t hchecked).elim

/-- **A scan has no misstep.** -/
theorem scan_eq (s : Scanner) : scan s = .ok s.scan := by
  have hloop : scanLexemes s.restart = .ok (s.restart.scanLexemes s.restart.source.length) :=
    scanLexemes_eq (Nat.le_refl _)
  unfold scan Scanner.scan
  dsimp only
  rw [hloop, ok_bind]
  cases s.restart.scanLexemes s.restart.source.length with
  | mk answer t => cases answer <;> rfl

end Checked

/-! ### A whole scan -/

namespace Scanner

variable {s : Scanner}

/-- The run of a whole scan. -/
theorem exists_turns (h : Patient s.listener) : ∃ n,
    Turns n s.restart (s.restart.gather (segments s.source)) ∧
      (s.restart.gather (segments s.source)).isAtEnd = true := by
  refine turns_of_scanLexemes ?_ (Nat.le_refl _)
  rw [show s.restart.rest.length = s.source.length from rfl, scanLexemes_restart]
  exact absorbAll_takes (takes_of_patient h _)

/-- What a whole scan leaves behind. -/
theorem Completes.size_add_le {t : Scanner} (h : Completes s t) :
    t.tokens.size + t.diagnostics.size ≤ s.source.length + 1 := by
  have hsize := length_tokensFrom_add_le s.file 1 (segments s.source)
  have hsegments := length_segments_le s.source
  rw [← Array.length_toList, ← Array.length_toList, h.tokens, h.diagnostics, List.length_append,
    List.length_singleton]
  omega

/-- **A scan ends, and nothing stops it**, if the listener takes every call.  Every turn moves the
cursor on and not past the end, so there are no more turns than characters; no turn has a misstep; and
tokens and diagnostics together are one more than the characters at most. -/
theorem scan_terminates (s : Scanner) (h : Patient s.listener) :
    (∀ n t, Turns n s.restart t → n ≤ t.current ∧ t.current ≤ s.source.length ∧
      (t.isAtEnd = false → ∃ u, t.scanLexeme = (.ok (), u) ∧
        t.current < u.current ∧ u.current ≤ s.source.length)) ∧
    Checked.scan s = .ok s.scan ∧
    ∃ n t, n ≤ s.source.length ∧ Turns n s.restart t ∧ t.current = s.source.length ∧
      s.scan = (.ok t.finish.tokens, t.finish) ∧
      t.finish.tokens.size + t.finish.diagnostics.size ≤ s.source.length + 1 := by
  have bounds : ∀ {n t}, Turns n s.restart t → t.source = s.source ∧ t.listener = s.listener ∧
      0 + n ≤ t.current ∧ t.current ≤ t.source.length := fun ht => ht.bounds (Nat.zero_le _)
  refine ⟨fun n t ht => ?_, Checked.scan_eq s, ?_⟩
  · obtain ⟨hsource, hlistener, hlow, hhigh⟩ := bounds ht
    rw [← hsource]
    refine ⟨by omega, hhigh, fun hend => ?_⟩
    obtain ⟨u, hu, hadv⟩ := exists_turn hend (hlistener ▸ h)
    exact ⟨u, hu, hadv.lt, hadv.source ▸ hadv.le⟩
  · obtain ⟨n, hn, hend⟩ := exists_turns h
    obtain ⟨hsource, -, hlow, hhigh⟩ := bounds hn
    rw [isAtEnd_iff, hsource] at hend
    rw [hsource] at hhigh
    exact ⟨n, _, by omega, hn, Nat.le_antisymm hhigh hend, scan_takes (takes_of_patient h _),
      (completes_completed s).size_add_le⟩

/-- The stand-in for the end inside the source, a number before a point, and a quote that is never
closed: no more than six turns, and five things found. -/
theorem scan_terminates_open_quote :
    let s := Scanner.new ['\x00', '1', '.', ' ', '"', '\n'] "<string>" (some .patient)
    Patient s.listener ∧ Checked.scan s = .ok s.scan ∧
      (∃ n t, n ≤ 6 ∧ Turns n s.restart t ∧ t.current = 6 ∧ s.scan = (.ok t.finish.tokens, t.finish) ∧
        t.finish.tokens.size + t.finish.diagnostics.size ≤ 7) ∧
      s.scan.2.tokens.size = 3 ∧ s.scan.2.diagnostics.size = 2 := by
  intro s
  obtain ⟨-, hchecked, hrun⟩ := scan_terminates s patient_patient
  exact ⟨patient_patient, hchecked, hrun, by decide +kernel, by decide +kernel⟩

end Scanner

end LoxLex
