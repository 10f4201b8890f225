import LoxLex.Proofs.Lookahead

/-!
# LoxLex.Proofs.Recovery — a character that begins nothing is passed over like a space

A scan reports a character that begins no lexeme and goes on behind it.  What stands beside the character
does not see the difference from a space: neither of the two goes on with any lexeme, and between two
lexemes they part them alike.

* `Pattern.Closed.blanks`: a rest that cannot go on with a lexeme cannot do so with spaces for such
  characters.
* `segments_blanked`: the spans of a source with spaces for them.
* `scanSource_blanked`: what a scan gives of this source.
-/

namespace LoxLex

/-- The places of the characters that a scan reports, since they begin no lexeme. -/
def strayPlaces (source : List Char) (file : String) : List Nat :=
  ((diagnosticFindings source file).filter (·.item.code = some "L001")).map (·.first)

/-- The source with a space for each of these characters. -/
def blanked (source : List Char) (file : String) : List Char :=
  source.mapIdx fun i c => if i ∈ strayPlaces source file then ' ' else c

/-! ### Beside a lexeme -/

/-- The same text, but that characters that begin nothing may have become spaces. -/
def Blanks (cs ds : List Char) : Prop :=
  List.Forall₂ (fun c d => d = c ∨ (d = ' ' ∧ Opening.ofChar c = .other)) cs ds

namespace Blanks

variable {rest more : List Char}

theorem refl (cs : List Char) : Blanks cs cs := List.forall₂_same.mpr fun _ _ => Or.inl rfl

theorem append {cs ds : List Char} (h : Blanks cs ds) (h' : Blanks rest more) :
    Blanks (cs ++ rest) (ds ++ more) := List.rel_append h h'

/-- A rest that stops a run still stops it if a space does. -/
theorem stops {p : Char → Prop} (h : Blanks rest more) (hspace : ¬ p ' ') (hstop : Stops p rest) :
    Stops p more := by
  cases h with
  | nil => exact Stops.nil
  | cons hc _ =>
    rw [Stops.cons_iff] at hstop ⊢
    rcases hc with rfl | ⟨rfl, -⟩
    · exact hstop
    · exact hspace

/-- Newlines stay where they are. -/
theorem stops_newline (h : Blanks rest more) (hstop : Stops (· ≠ '\n') rest) :
    Stops (· ≠ '\n') more := by
  cases h with
  | nil => exact Stops.nil
  | cons hc _ =>
    rw [Stops.cons_iff, not_not] at hstop ⊢
    subst hstop
    rcases hc with rfl | ⟨-, ho⟩
    · rfl
    · exact absurd ho (by decide)

end Blanks

/-- **What cannot go on with a lexeme cannot do so with spaces** for characters that begin nothing. -/
theorem Pattern.Closed.blanks {p : Pattern} {text rest more : List Char} (h : Blanks rest more)
    (hc : p.Closed text rest) : p.Closed text more := by
  cases p with
  | comment => exact h.stops_newline hc
  | slash => exact h.stops (by decide) hc
  | operator => exact fun ht => h.stops (by decide) (hc ht)
  | number =>
    refine ⟨h.stops (by decide) hc.1, fun hpoint d cs hmore => ?_⟩
    subst hmore
    -- The point has always been there, and the character behind it is the old one or a space.
    obtain ⟨point, rest, hdot, htail, rfl⟩ := List.forall₂_cons_right_iff.mp h
    obtain ⟨e, cs', hd, -, rfl⟩ := List.forall₂_cons_right_iff.mp htail
    rcases hdot with rfl | ⟨hdot, -⟩
    · rcases hd with rfl | ⟨rfl, -⟩
      · exact hc.2 hpoint d cs' rfl
      · decide
    · exact absurd hdot (by decide)
  | word => exact h.stops (by decide) hc
  | _ => trivial

/-! ### From span to span -/

/-- A span, or a space for a character that begins nothing. -/
def Span.blanked : Span → Span
  | .unexpected _ => .lexeme .blank [' ']
  | p => p

theorem segments_space (cs : List Char) : segments (' ' :: cs) = .lexeme .blank [' '] :: segments cs := by
  have ht : [' '] ∈ Pattern.blank.language := Pattern.mem_blank.mpr ⟨' ', by decide, rfl⟩
  exact segments_lexeme ht trivial

theorem blanks_spelled (cs : List Char) : Blanks cs (spelled ((segments cs).map Span.blanked)) := by
  induction cs using segments_induction with
  | nil =>
    rw [segments_nil]
    exact .nil
  | lexeme p text rest ht hc ih =>
    rw [segments_lexeme ht hc, List.map_cons, spelled_cons]
    exact (Blanks.refl text).append ih
  | unterminated cs hq =>
    rw [segments_unterminated hq, List.map_singleton, spelled_cons, spelled_nil, List.append_nil]
    exact Blanks.refl _
  | unexpected c cs ho ih =>
    rw [segments_unexpected ho, List.map_cons, spelled_cons]
    exact .cons (Or.inr ⟨rfl, ho⟩) ih

/-- **With spaces for the characters that begin nothing**, all other spans stay as they are. -/
theorem segments_blanked (cs : List Char) :
    segments (spelled ((segments cs).map Span.blanked)) = (segments cs).map Span.blanked := by
  induction cs using segments_induction with
  | nil => simp
  | lexeme p text rest ht hc ih =>
    have hmore := hc.blanks (blanks_spelled rest)
    rw [segments_lexeme ht hc, List.map_cons, spelled_cons]
    show segments (text ++ _) = .lexeme p text :: _
    rw [segments_lexeme ht hmore, ih]
  | unterminated cs hq =>
    rw [segments_unterminated hq, List.map_singleton, spelled_cons, spelled_nil, List.append_nil]
    exact segments_unterminated hq
  | unexpected c cs ho ih =>
    rw [segments_unexpected ho, List.map_cons, spelled_cons]
    show segments (' ' :: spelled _) = .lexeme .blank [' '] :: _
    rw [segments_space, ih]

/-! ### The places of the characters -/

section Places

variable (file : String) (pos line : Nat) (ps : List Span)

/-- The places of the characters that begin nothing, where the first span begins at a position and a
line. -/
def straysAt : List Nat :=
  ((findingsAt (fun line p => p.diagnostic? ⟨file, line⟩) pos line ps).filter
    (·.item.code = some "L001")).map (·.first)

theorem strayPlaces_eq (source : List Char) (file : String) :
    strayPlaces source file = straysAt file 0 1 (segments source) := by
  unfold strayPlaces straysAt
  rw [diagnosticFindings_eq]

variable {file pos line ps}

theorem straysAt_unexpected (c : Char) : straysAt file pos line (.unexpected c :: ps) =
    pos :: straysAt file (pos + 1) (line + (Span.unexpected c).text.count '\n') ps := by
  unfold straysAt
  rw [findingsAt, List.filter_append, List.map_append]
  rfl

theorem straysAt_other {p : Span} (h : p.blanked = p) : straysAt file pos line (p :: ps) =
    straysAt file (pos + p.text.length) (line + p.text.count '\n') ps := by
  unfold straysAt
  rw [findingsAt, List.filter_append, List.map_append]
  cases p with
  | lexeme q text => rfl
  | unterminated text => rfl
  | unexpected c => cases h

theorem le_of_mem_straysAt {i : Nat} (h : i ∈ straysAt file pos line ps) : pos ≤ i := by
  obtain ⟨f, hf, rfl⟩ := List.mem_map.mp h
  obtain ⟨before, p, behind, -, hfirst, -, -⟩ := exists_span_of_mem (List.mem_of_mem_filter hf)
  omega

/-- A text that ends before all of these places stays as it is. -/
theorem mapIdx_before (text : List Char) : text.mapIdx
      (fun i c => if pos + i ∈ straysAt file (pos + text.length) line ps then ' ' else c) = text := by
  rw [List.mapIdx_eq_iff]
  intro i
  cases hc : text[i]? with
  | none => rfl
  | some c =>
    obtain ⟨hi, -⟩ := List.getElem?_eq_some_iff.mp hc
    have hbefore : pos + i ∉ straysAt file (pos + text.length) line ps := by
      intro hmem
      have hle := le_of_mem_straysAt hmem
      omega
    rw [Option.map_some, if_neg hbefore]

variable (file pos line ps) in
/-- **Spaces for the characters at these places** are spaces for the spans. -/
theorem mapIdx_straysAt : (spelled ps).mapIdx
      (fun i c => if pos + i ∈ straysAt file pos line ps then ' ' else c) =
    spelled (ps.map Span.blanked) := by
  induction ps generalizing pos line with
  | nil => rfl
  | cons p ps ih =>
    have hshift : ∀ i, pos + (i + p.text.length) = pos + p.text.length + i := fun i => by omega
    rw [spelled_cons, List.mapIdx_append, List.map_cons, spelled_cons]
    by_cases hp : p.blanked = p
    · rw [straysAt_other hp, hp]
      simp only [hshift]
      rw [ih, mapIdx_before]
    · cases p with
      | lexeme q text => exact absurd rfl hp
      | unterminated text => exact absurd rfl hp
      | unexpected c =>
        rw [straysAt_unexpected]
        -- Only the character itself stands at its place; all others stand behind it.
        generalize line + (Span.unexpected c).text.count '\n' = line'
        have hbehind : ∀ i, pos + (i + 1) ∈ pos :: straysAt file (pos + 1) line' ps ↔
            pos + 1 + i ∈ straysAt file (pos + 1) line' ps := by
          intro i
          rw [List.mem_cons, show pos + (i + 1) = pos + 1 + i by omega]
          exact or_iff_right (by omega)
        have hself : pos + 0 ∈ pos :: straysAt file (pos + 1) line' ps := List.mem_cons_self
        rw [← ih (pos + 1) line']
        show (if pos + 0 ∈ _ then ' ' else c) :: List.mapIdx _ (spelled ps) = ' ' :: List.mapIdx _ _
        rw [if_pos hself]
        simp only [Span.text, List.length_singleton, hbehind]

theorem blanked_eq (source : List Char) (file : String) :
    blanked source file = spelled ((segments source).map Span.blanked) := by
  have hplaces := mapIdx_straysAt file 0 1 (segments source)
  rw [spelled_segments] at hplaces
  unfold blanked
  rw [← hplaces, strayPlaces_eq]
  simp only [Nat.zero_add]

end Places

/-! ### What a scan gives -/

/-- Neither a space gives a token nor a character that begins nothing. -/
theorem Span.token?_blanked (line : Nat) (p : Span) : p.blanked.token? line = p.token? line := by
  cases p <;> rfl

theorem Span.count_blanked {p : Span} (h : ∀ c, p = .unexpected c → c ≠ '\n') :
    p.blanked.text.count '\n' = p.text.count '\n' := by
  cases p with
  | unexpected c => simp [Span.blanked, Span.text, h c rfl]
  | _ => rfl

theorem Span.diagnostic?_blanked (location : Location) (p : Span) :
    (p.blanked.diagnostic? location).toList =
      (p.diagnostic? location).toList.filter (·.code ≠ some "L001") := by
  cases p <;> rfl

variable {ps : List Span}

theorem count_spelled_blanked (h : ∀ c, .unexpected c ∈ ps → c ≠ '\n') :
    (spelled (ps.map Span.blanked)).count '\n' = (spelled ps).count '\n' := by
  induction ps with
  | nil => rfl
  | cons p ps ih =>
    have hp := Span.count_blanked fun c hc => h c (hc ▸ List.mem_cons_self)
    have hps := ih fun c hc => h c (List.mem_cons_of_mem p hc)
    rw [List.map_cons, spelled_cons, spelled_cons, List.count_append, List.count_append, hp, hps]

theorem tokensFrom_blanked (h : ∀ c, .unexpected c ∈ ps → c ≠ '\n') (line : Nat) :
    tokensFrom line (ps.map Span.blanked) = tokensFrom line ps := by
  induction ps generalizing line with
  | nil => rfl
  | cons p ps ih =>
    have hp := Span.count_blanked fun c hc => h c (hc ▸ List.mem_cons_self)
    have hps := ih fun c hc => h c (List.mem_cons_of_mem p hc)
    rw [List.map_cons, tokensFrom_cons, tokensFrom_cons, hp, Span.token?_blanked, hps]

theorem diagnosticsFrom_blanked (h : ∀ c, .unexpected c ∈ ps → c ≠ '\n') (file : String)
    (line : Nat) : diagnosticsFrom file line (ps.map Span.blanked) =
      (diagnosticsFrom file line ps).filter (·.code ≠ some "L001") := by
  induction ps generalizing line with
  | nil => rfl
  | cons p ps ih =>
    have hp := Span.count_blanked fun c hc => h c (hc ▸ List.mem_cons_self)
    have hps := ih fun c hc => h c (List.mem_cons_of_mem p hc)
    rw [List.map_cons, diagnosticsFrom_cons, diagnosticsFrom_cons, List.filter_append, hp,
      Span.diagnostic?_blanked, hps]

/-- **Going on behind a character that begins nothing is passing over a space**: with spaces for all
these characters a scan finds the same tokens on the same lines, and of the diagnostics just the other
ones. -/
theorem scanSource_blanked (source : List Char) (file : String) :
    WellPlaced source file ∧ (blanked source file).length = source.length ∧
      scanSource (blanked source file) file =
        ⟨(scanSource source file).tokens,
          (scanSource source file).diagnostics.filter (·.code ≠ some "L001")⟩ := by
  have hline : ∀ c, .unexpected c ∈ segments source → c ≠ '\n' := fun c hc =>
    Opening.ne_of_other (ofChar_of_mem_segments source hc) (by decide)
  refine ⟨wellPlaced source file, List.length_mapIdx, ?_⟩
  have hsegments := segments_blanked source
  rw [← blanked_eq source file] at hsegments
  have hcount : (blanked source file).count '\n' = source.count '\n' := by
    rw [blanked_eq, count_spelled_blanked hline, spelled_segments]
  rw [scanSource_eq, scanSource_eq, hsegments, tokensFrom_blanked hline,
    diagnosticsFrom_blanked hline, hcount]

/-- A stray between the digits of a number and its point parts them as a space does. -/
example : blanked ['1', '@', '.', '5', '"', '@', '"'] "a.lox" = ['1', ' ', '.', '5', '"', '@', '"'] ∧
    (scanSource ['1', '@', '.', '5', '"', '@', '"'] "a.lox").tokens.map (·.lexeme) =
      ["1", ".", "5", "\"@\"", ""] := by
  decide

end LoxLex
