import LoxLex.Proofs.Context
import LoxLex.Proofs.MaximalMunch

/-!
# LoxLex.Proofs.LineNumbers — the line of every token and of every diagnostic

A line number is one more than the newlines in front of a place in the source: for a token the place
where its lexeme ends, for a stray the stray itself, and for an open quote and the end of input the end
of the source.  Newlines are counted once, in whatever lexeme they stand.

* `Scanner.scan_lines`: this holds of every whole scan, and so the lines only ever grow.
-/

namespace LoxLex

variable {line : Nat} {ps : List Span}

/-- What is spelled before a span, the span, and what is spelled behind it make up the source. -/
theorem exists_rest_of_mem_spansAfter {before : List Char} {x : List Char × Span}
    (h : x ∈ spansAfter before ps) : ∃ rest, before ++ spelled ps = x.1 ++ x.2.text ++ rest := by
  induction ps generalizing before with
  | nil => cases h
  | cons p ps ih =>
    rw [spansAfter, List.mem_cons] at h
    rw [spelled_cons]
    rcases h with rfl | h
    · exact ⟨spelled ps, (List.append_assoc _ _ _).symm⟩
    · rw [← List.append_assoc]
      exact ih h

/-! ### Lines only grow -/

theorem line_le_of_mem_placed {x : Nat × Span} (h : x ∈ placed line ps) :
    line ≤ x.1 ∧ x.1 ≤ line + (spelled ps).count '\n' := by
  induction ps generalizing line with
  | nil => cases h
  | cons p ps ih =>
    rw [placed, List.mem_cons] at h
    rw [spelled_cons, List.count_append]
    rcases h with rfl | h
    · dsimp only
      omega
    · have := ih h
      omega

theorem pairwise_placed (line : Nat) (ps : List Span) :
    (placed line ps).Pairwise fun x y => x.1 ≤ y.1 := by
  induction ps generalizing line with
  | nil => exact .nil
  | cons p ps ih =>
    rw [placed, List.pairwise_cons]
    refine ⟨fun x hx => (line_le_of_mem_placed hx).1, ih _⟩

theorem pairwise_tokensFrom (line : Nat) (ps : List Span) :
    (tokensFrom line ps).Pairwise fun t u => t.line ≤ u.line := by
  unfold tokensFrom
  rw [List.pairwise_filterMap]
  refine (pairwise_placed line ps).imp fun {x y} hxy t ht u hu => ?_
  rw [Span.line_of_token? ht, Span.line_of_token? hu]
  exact_mod_cast hxy

theorem line_le_of_mem_tokensFrom {t : Token} (h : t ∈ tokensFrom line ps) :
    t.line ≤ line + (spelled ps).count '\n' := by
  obtain ⟨x, hx, ht⟩ := List.mem_filterMap.mp h
  rw [Span.line_of_token? ht]
  exact_mod_cast (line_le_of_mem_placed hx).2

theorem line_le_of_mem_diagnosticsFrom {file : String} {d : Diagnostic}
    (h : d ∈ diagnosticsFrom file line ps) :
    line ≤ d.line ∧ d.line ≤ line + (spelled ps).count '\n' := by
  obtain ⟨x, hx, hd⟩ := List.mem_filterMap.mp h
  obtain ⟨hfirst, hlast⟩ := line_le_of_mem_placed hx
  rw [Diagnostic.line, Span.location_of_diagnostic? hd]
  exact ⟨Int.ofNat_le.mpr hfirst, Int.ofNat_le.mpr hlast⟩

theorem pairwise_diagnosticsFrom (file : String) (line : Nat) (ps : List Span) :
    (diagnosticsFrom file line ps).Pairwise fun d e => d.line ≤ e.line := by
  unfold diagnosticsFrom
  rw [List.pairwise_filterMap]
  refine (pairwise_placed line ps).imp fun {x y} hxy d hd e he => ?_
  rw [Diagnostic.line, Diagnostic.line, Span.location_of_diagnostic? hd,
    Span.location_of_diagnostic? he]
  exact Int.ofNat_le.mpr hxy

/-! ### A whole scan -/

/-- The lines of the tokens `ts` and the diagnostics `ds` of a source, by the newlines of the source.
Each token stands for a lexeme and has the line on which this ends; each stray is reported on its own
line, and an open quote on the last one. -/
structure Lines (source : List Char) (file : String) (ts : List Token) (ds : List Diagnostic) :
    Prop where
  tokens : ∃ ps us, Segmentation source ps ∧ ts = us ++ [.endOfInput (1 + source.count '\n')] ∧
    List.Forall₂ (fun x t => (∃ rest, source = x.1 ++ x.2.text ++ rest) ∧ YieldsOn 1 x t)
      ((spansAfter [] ps).filter (·.2.isToken)) us
  diagnostics : ∃ tail, ds =
      (strays source).map (fun (before, c) => .stray c ⟨file, 1 + before.count '\n'⟩) ++ tail ∧
    ∀ d ∈ tail, d = .unterminated ⟨file, 1 + source.count '\n'⟩
  tokens_mono : ts.Pairwise fun t u => t.line ≤ u.line
  diagnostics_mono : ds.Pairwise fun d e => d.line ≤ e.line

theorem lines_segments (source : List Char) (file : String) :
    Lines source file (tokensFrom 1 (segments source) ++ [.endOfInput (1 + source.count '\n')])
      (diagnosticsFrom file 1 (segments source)) := by
  have hyields := yieldsOn_tokensFrom 1 [] fun p text h => mem_language_of_mem_segments source h
  have hplace : ∀ x ∈ (spansAfter [] (segments source)).filter (·.2.isToken),
      ∃ rest, source = x.1 ++ x.2.text ++ rest := by
    intro x hx
    obtain ⟨rest, hrest⟩ := exists_rest_of_mem_spansAfter (List.mem_of_mem_filter hx)
    rw [spelled_segments] at hrest
    exact ⟨rest, hrest⟩
  refine ⟨⟨segments source, _, segmentation_segments source, rfl, ?_⟩, ?_, ?_,
    pairwise_diagnosticsFrom file 1 _⟩
  · exact (List.forall₂_and_left _ _).mpr ⟨hplace, hyields⟩
  · obtain ⟨tail, hds, htail⟩ := diagnosticsFrom_segments file source
    refine ⟨tail, hds, ?_⟩
    rcases htail with ⟨-, rfl⟩ | ⟨-, rfl⟩
    · exact fun d hd => List.mem_singleton.mp hd
    · exact fun d hd => absurd hd List.not_mem_nil
  · -- Behind all tokens comes the end of input, on the last line.
    rw [List.pairwise_append]
    refine ⟨pairwise_tokensFrom 1 _, List.pairwise_singleton _ _, fun t ht u hu => ?_⟩
    have hle := line_le_of_mem_tokensFrom ht
    rw [spelled_segments] at hle
    rw [List.mem_singleton.mp hu]
    exact hle

namespace Scanner

/-- **Every line is counted by the newlines in front**, for each token and each diagnostic of a whole
scan, so that lines never go back. -/
theorem scan_lines {s : Scanner} (h : Patient s.listener) :
    ∃ t, s.scan = (.ok t.tokens, t) ∧
      Lines s.source s.file t.tokens.toList t.diagnostics.toList := by
  obtain ⟨t, ht, hc⟩ := scan_patient h
  refine ⟨t, ht, ?_⟩
  rw [hc.tokens, hc.diagnostics]
  exact lines_segments s.source s.file

/-- A string on two lines, a stray behind it, and a quote that is open over the last line end. -/
theorem scan_lines_two_strings :
    let source := ['"', '\n', '"', '@', '\n', '"', '\n']
    Patient (some .patient) ∧
      ∃ t, (new source "a.lox" (some .patient)).scan = (.ok t.tokens, t) ∧
        Lines source "a.lox" t.tokens.toList t.diagnostics.toList ∧
        t.tokens.toList.map (·.line) = [2, 4] ∧ t.diagnostics.toList.map (·.line) = [2, 4] := by
  intro source
  obtain ⟨t, ht, hlines⟩ := scan_lines (s := new source "a.lox" (some .patient)) patient_patient
  have hscan : t = (new source "a.lox" (some .patient)).scan.2 := by rw [ht]
  refine ⟨patient_patient, t, ht, hlines, ?_, ?_⟩
  · rw [hscan]
    decide +kernel
  · rw [hscan]
    decide +kernel

end Scanner

end LoxLex
