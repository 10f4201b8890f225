import LoxLex.Proofs.Run

/-!
# LoxLex.Proofs.LineEnds — what stands before a line end and what stands behind it

A newline closes every lexeme but an open string.  So the segments of two texts with a newline between
them are the segments of the first, the newline, and the segments of the second
(`segments_line_end`), and the tokens and diagnostics of the second only move down
(`scanSource_line_end`).
-/

namespace LoxLex

theorem segments_newline (b : List Char) :
    segments ('\n' :: b) = .lexeme .newline ['\n'] :: segments b := by
  have ht : ['\n'] ∈ Pattern.newline.language := rfl
  exact segments_lexeme ht trivial

theorem segments_line_end {a : List Char} (hopen : ∀ w, .unterminated w ∉ segments a)
    (b : List Char) :
    segments (a ++ '\n' :: b) = segments a ++ .lexeme .newline ['\n'] :: segments b := by
  have hjoin : Stops Joins ('\n' :: b) := by
    rw [Stops.cons_iff]
    decide
  have hline : Stops (· ≠ '\n') ('\n' :: b) := by
    rw [Stops.cons_iff]
    exact not_not.mpr rfl
  rw [segments_append hopen hjoin fun _ _ => hline, segments_newline]

variable (file : String) (line : Nat) (ps qs : List Span)

/-- The tokens behind a line end are those of their own text, further down. -/
theorem tokensFrom_line_end : tokensFrom 1 (ps ++ .lexeme .newline ['\n'] :: qs) =
    tokensFrom 1 ps ++ (tokensFrom 1 qs).map (Token.below (1 + (spelled ps).count '\n')) := by
  rw [tokensFrom_append, tokensFrom_cons, ← tokensFrom_add]
  rfl

theorem diagnosticsFrom_line_end :
    diagnosticsFrom file 1 (ps ++ .lexeme .newline ['\n'] :: qs) =
      diagnosticsFrom file 1 ps ++
        (diagnosticsFrom file 1 qs).map (Diagnostic.below (1 + (spelled ps).count '\n')) := by
  rw [diagnosticsFrom_append, diagnosticsFrom_cons, ← diagnosticsFrom_add]
  rfl

/-- **Scanning goes line by line**: if the text before a line end leaves no string open, the text behind
it is scanned as it would be alone, and neither changes the other. -/
theorem scanSource_line_end (a b : List Char) (file : String)
    (h : ∀ d ∈ (scanSource a file).diagnostics, d.code ≠ some "L002") :
    let k := 1 + a.count '\n'
    ∃ ts, (scanSource a file).tokens = ts ++ [.endOfInput k] ∧
      (Scanner.new (a ++ '\n' :: b) file none).scan.1 =
        .ok (ts ++ (scanSource b file).tokens.map (Token.below k)).toArray ∧
      scanSource (a ++ '\n' :: b) file =
        ⟨ts ++ (scanSource b file).tokens.map (Token.below k),
          (scanSource a file).diagnostics ++
            (scanSource b file).diagnostics.map (Diagnostic.below k)⟩ := by
  intro k
  have hopen : ∀ w, .unterminated w ∉ segments a := by
    intro w hw
    obtain ⟨d, hd, hcode⟩ := (exists_unterminated_iff file 1 (segments a)).mpr ⟨w, hw⟩
    rw [scanSource_eq] at h
    exact h d hd hcode
  have hcount : (1 + (a ++ '\n' :: b).count '\n' : Int) = k + (1 + b.count '\n') := by
    rw [List.count_append, List.count_cons_self]
    simp only [k]
    push_cast
    omega
  have hend : scanSource (a ++ '\n' :: b) file =
      ⟨tokensFrom 1 (segments a) ++ (scanSource b file).tokens.map (Token.below k),
        (scanSource a file).diagnostics ++
          (scanSource b file).diagnostics.map (Diagnostic.below k)⟩ := by
    rw [scanSource_eq, segments_line_end hopen b, tokensFrom_line_end, diagnosticsFrom_line_end,
      spelled_segments, hcount, scanSource_eq a, scanSource_eq b]
    simp [k, Token.below, Token.endOfInput]
  refine ⟨tokensFrom 1 (segments a), ?_, ?_, hend⟩
  · rw [scanSource_eq]
    simp [k]
  · rw [scan_ok, hend]

/-- A slash before a line end and a slash behind it open no comment. -/
theorem scanSource_line_end_slashes :
    (∀ d ∈ (scanSource ['/'] "a.lox").diagnostics, d.code ≠ some "L002") ∧
      scanSource ['/', '\n', '/'] "a.lox" =
        ⟨[⟨.slash, "/", .absent, 1⟩, ⟨.slash, "/", .absent, 2⟩, .endOfInput 2], []⟩ := by
  have h : ∀ d ∈ (scanSource ['/'] "a.lox").diagnostics, d.code ≠ some "L002" := by decide
  have hone : scanSource ['/'] "a.lox" = ⟨[⟨.slash, "/", .absent, 1⟩, .endOfInput 1], []⟩ := by
    decide
  obtain ⟨ts, hts, -, hscan⟩ := scanSource_line_end ['/'] ['/'] "a.lox" h
  rw [hone] at hts hscan
  obtain rfl : [⟨.slash, "/", .absent, 1⟩] = ts := List.append_inj_left' hts rfl
  exact ⟨h, hscan⟩

end LoxLex
