import LoxLex.Proofs.Run

/-!
# LoxLex.Proofs.Separation — lexemes with blanks between them

Lexemes that are written down with blanks between them are read back one by one.  `spread lead pieces`
is such a text, `Separated` says that its blanks are blanks and that no two lexemes touch, and
`segments_spread` gives its segments.

* `scanSource_separated`: each lexeme gives the token that it gives alone, and nothing is wrong.  As a
  case of it, the lexemes of any scan, written with single spaces, give back the tokens of the scan.
-/

namespace LoxLex

/-- A text of one of the languages that is not layout. -/
structure Lexeme where
  pattern : Pattern
  text : List Char
  mem : text ∈ pattern.language
  notLayout : ¬ pattern.IsLayout

namespace Lexeme

/-- The lexeme as a span. -/
def span (x : Lexeme) : Span := .lexeme x.pattern x.text

/-- The token of a lexeme, but for its line. -/
def content (x : Lexeme) : Content :=
  ((x.pattern.kind? x.text).getD .endOfInput, String.ofList x.text, x.pattern.literal x.text)

theorem content?_span (x : Lexeme) : x.span.content? = some x.content := by
  have hk : x.pattern.kind? x.text ≠ none := mt (Pattern.kind?_eq_none_iff x.mem).mp x.notLayout
  obtain ⟨kind, hkind⟩ := Option.ne_none_iff_exists'.mp hk
  simp [span, Span.content?, content, hkind]

theorem not_comment (x : Lexeme) : x.pattern ≠ .comment := fun h =>
  x.notLayout (Or.inr (Or.inr h))

end Lexeme

/-- A space, a tab, a carriage return or a newline. -/
def IsGap (c : Char) : Prop := c ∈ [' ', '\t', '\r', '\n']

def gapPattern (c : Char) : Pattern := if c = '\n' then .newline else .blank

/-- A blank as a span. -/
def gapSpan (c : Char) : Span := .lexeme (gapPattern c) [c]

/-- Lexemes, each with the blanks behind it, and blanks in front of all. -/
def spread (lead : List Char) (pieces : List (Lexeme × List Char)) : List Char :=
  lead ++ pieces.flatMap fun x => x.1.text ++ x.2

/-- The blanks are blanks, and there is one at least between any two lexemes. -/
structure Separated (lead : List Char) (pieces : List (Lexeme × List Char)) : Prop where
  lead : ∀ c ∈ lead, IsGap c
  blanks : ∀ x ∈ pieces, ∀ c ∈ x.2, IsGap c
  apart : ∀ x ∈ pieces.dropLast, x.2 ≠ []

variable {lead : List Char} {pieces : List (Lexeme × List Char)}

/-! ### The segments of the text -/

theorem not_joins_of_isGap {c : Char} (h : IsGap c) : ¬ Joins c := by
  have table : ∀ d ∈ [' ', '\t', '\r', '\n'], ¬ Joins d := forall_mem_of_all (by decide)
  exact table c h

theorem mem_gap {c : Char} (h : IsGap c) : [c] ∈ (gapPattern c).language := by
  unfold gapPattern
  by_cases hn : c = '\n'
  · subst hn
    rfl
  · rw [if_neg hn]
    refine ⟨c, ?_, rfl⟩
    unfold IsGap at h
    simpa [hn] using h

theorem closed_gap (c : Char) (text rest : List Char) : (gapPattern c).Closed text rest := by
  unfold gapPattern
  split <;> trivial

theorem segments_gap {u : List Char} (h : ∀ c ∈ u, IsGap c) (rest : List Char) :
    segments (u ++ rest) = u.map gapSpan ++ segments rest := by
  induction u with
  | nil => rfl
  | cons c u ih =>
    obtain ⟨hc, hu⟩ := List.forall_mem_cons.mp h
    rw [List.map_cons, List.cons_append, List.cons_append, ← ih hu]
    exact segments_lexeme (mem_gap hc) (closed_gap c [c] (u ++ rest))

/-- What stands behind a lexeme of a separated text joins nothing. -/
theorem Separated.stops {x : Lexeme × List Char} (h : Separated lead (x :: pieces)) :
    Stops Joins (spread x.2 pieces) := by
  unfold spread
  cases hx : x.2 with
  | nil =>
    cases pieces with
    | nil => simp
    | cons y pieces =>
      have hne := h.apart x (by simp)
      exact absurd hx hne
  | cons c u =>
    have hc := h.blanks x (by simp) c (by simp [hx])
    rw [List.cons_append, Stops.cons_iff]
    exact not_joins_of_isGap hc

theorem Separated.tail {x : Lexeme × List Char} (h : Separated lead (x :: pieces)) :
    Separated x.2 pieces := by
  refine ⟨h.blanks x List.mem_cons_self, fun y hy => h.blanks y (List.mem_cons_of_mem x hy), ?_⟩
  intro y hy
  cases pieces with
  | nil => cases hy
  | cons z pieces => exact h.apart y (List.mem_cons_of_mem x hy)

/-- **A separated text is cut into its lexemes and its blanks.** -/
theorem segments_spread (h : Separated lead pieces) : segments (spread lead pieces) =
    lead.map gapSpan ++ pieces.flatMap fun x => x.1.span :: x.2.map gapSpan := by
  induction pieces generalizing lead with
  | nil =>
    unfold spread
    rw [segments_gap h.lead]
    simp
  | cons x pieces ih =>
    have hclosed : x.1.pattern.Closed x.1.text (spread x.2 pieces) :=
      Pattern.closed_of_stops x.1.not_comment h.stops x.1.text
    have hbehind : spread lead (x :: pieces) = lead ++ (x.1.text ++ spread x.2 pieces) := by
      simp [spread]
    rw [hbehind, segments_gap h.lead, segments_lexeme x.1.mem hclosed, ih h.tail,
      List.flatMap_cons]
    rfl

/-! ### Its tokens -/

theorem content?_gap (c : Char) : (gapSpan c).content? = none := by
  unfold gapSpan gapPattern
  split <;> rfl

theorem filterMap_gap (u : List Char) : (u.map gapSpan).filterMap Span.content? = [] := by
  rw [List.filterMap_eq_nil_iff]
  intro p hp
  obtain ⟨c, -, rfl⟩ := List.mem_map.mp hp
  exact content?_gap c

theorem contents_spread (pieces : List (Lexeme × List Char)) :
    (pieces.flatMap fun x => x.1.span :: x.2.map gapSpan).filterMap Span.content? =
      pieces.map (·.1.content) := by
  induction pieces with
  | nil => rfl
  | cons x pieces ih =>
    rw [List.flatMap_cons, List.filterMap_append, ih, List.filterMap_cons, x.1.content?_span,
      filterMap_gap]
    rfl

theorem diagnosticsFrom_spread (file : String) (h : Separated lead pieces) :
    diagnosticsFrom file 1 (segments (spread lead pieces)) = [] := by
  refine diagnosticsFrom_eq_nil file 1 _ fun p hp => ?_
  rw [segments_spread h, List.mem_append, List.mem_flatMap] at hp
  have hgap : ∀ u : List Char, p ∈ u.map gapSpan → ∃ q text, p = .lexeme q text := by
    intro u hu
    obtain ⟨c, -, rfl⟩ := List.mem_map.mp hu
    exact ⟨_, _, rfl⟩
  rcases hp with hp | ⟨x, -, hp⟩
  · exact hgap lead hp
  · rcases List.mem_cons.mp hp with rfl | hp
    · exact ⟨_, _, rfl⟩
    · exact hgap x.2 hp

/-- A separated text gives the tokens of its lexemes, and nothing is wrong with it. -/
theorem scanSource_spread (file : String) (h : Separated lead pieces) :
    ∃ ts, scanSource (spread lead pieces) file =
        ⟨ts ++ [.endOfInput (1 + (spread lead pieces).count '\n')], []⟩ ∧
      ts.map Token.content = pieces.map (·.1.content) := by
  refine ⟨tokensFrom 1 (segments (spread lead pieces)), ?_, ?_⟩
  · rw [scanSource_eq, diagnosticsFrom_spread file h]
  · rw [map_content_tokensFrom, segments_spread h, List.filterMap_append, filterMap_gap,
      contents_spread, List.nil_append]

/-- A lexeme alone. -/
theorem scan_alone (x : Lexeme) :
    ∃ u line, scan x.text = [u, .endOfInput line] ∧ u.content = x.content := by
  have hsegments : segments x.text = [x.span] := by
    have h := segments_lexeme x.mem (Pattern.closed_nil x.pattern x.text)
    rw [List.append_nil, segments_nil] at h
    exact h
  have hcontent := map_content_tokensFrom 1 [x.span]
  rw [List.filterMap_cons, x.content?_span, List.filterMap_nil] at hcontent
  obtain ⟨u, hu, hx⟩ := List.map_eq_singleton_iff.mp hcontent
  refine ⟨u, 1 + x.text.count '\n', ?_, hx⟩
  rw [scan_eq, hsegments, hu]
  rfl

/-! ### The tokens of a scan, written again -/

/-- The lexemes of a source. -/
theorem exists_lexemes (cs : List Char) :
    ∃ xs : List Lexeme, (segments cs).filterMap Span.content? = xs.map Lexeme.content := by
  induction cs using segments_induction with
  | nil => exact ⟨[], by rw [segments_nil]; rfl⟩
  | lexeme p text rest ht hc ih =>
    obtain ⟨xs, hxs⟩ := ih
    rw [segments_lexeme ht hc, List.filterMap_cons]
    by_cases hl : p.IsLayout
    · exact ⟨xs, by rw [(Span.content?_eq_none_iff ht).mpr hl, hxs]⟩
    · have hsome := Lexeme.content?_span ⟨p, text, ht, hl⟩
      refine ⟨⟨p, text, ht, hl⟩ :: xs, ?_⟩
      rw [show Span.lexeme p text = Lexeme.span ⟨p, text, ht, hl⟩ from rfl, hsome, hxs]
      rfl
  | unterminated cs hq => exact ⟨[], by rw [segments_unterminated hq]; rfl⟩
  | unexpected c cs ho ih =>
    rw [segments_unexpected ho]
    exact ih

/-- Lexemes with single spaces between them, and `last` behind the last. -/
def spaced (last : List Char) : List Lexeme → List (Lexeme × List Char)
  | [] => []
  | [x] => [(x, last)]
  | x :: y :: xs => (x, [' ']) :: spaced last (y :: xs)

theorem Separated.cons {sep : List Char} (x : Lexeme) (hsep : ∀ c ∈ sep, IsGap c)
    (hne : sep ≠ [] ∨ pieces = []) (h : Separated [] pieces) :
    Separated [] ((x, sep) :: pieces) := by
  refine ⟨h.lead, List.forall_mem_cons.mpr ⟨hsep, h.blanks⟩, ?_⟩
  cases pieces with
  | nil => exact fun y hy => (List.not_mem_nil hy).elim
  | cons z pieces =>
    have hsep : sep ≠ [] := hne.resolve_right (List.cons_ne_nil z pieces)
    exact List.forall_mem_cons.mpr ⟨hsep, h.apart⟩

theorem separated_spaced {last : List Char} (h : ∀ c ∈ last, IsGap c) (xs : List Lexeme) :
    Separated [] (spaced last xs) := by
  have hnil : Separated [] [] := by refine ⟨?_, ?_, ?_⟩ <;> rintro x ⟨⟩
  have hspace : ∀ c ∈ [' '], IsGap c := by
    intro c hc
    rw [List.mem_singleton.mp hc]
    exact List.mem_cons_self
  induction xs with
  | nil => exact hnil
  | cons x xs ih =>
    cases xs with
    | nil => exact hnil.cons x h (Or.inr rfl)
    | cons y xs => exact ih.cons x hspace (Or.inl (List.cons_ne_nil ' ' []))

theorem spread_spaced (last : List Char) (xs : List Lexeme) : spread [] (spaced last xs) =
    [' '].intercalate (xs.map Lexeme.text) ++ if xs.isEmpty then [] else last := by
  induction xs with
  | nil => rfl
  | cons x xs ih =>
    cases xs with
    | nil => simp [spread, spaced]
    | cons y xs =>
      have hbehind : spread [] (spaced last (x :: y :: xs)) =
          x.text ++ ' ' :: spread [] (spaced last (y :: xs)) := by
        simp [spread, spaced]
      rw [hbehind, ih]
      simp [List.intercalate_cons_cons]

theorem intercalate_append_nil (ws : List (List Char)) : [' '].intercalate (ws ++ [[]]) =
    [' '].intercalate ws ++ if ws.isEmpty then [] else [' '] := by
  induction ws with
  | nil => rfl
  | cons w ws ih =>
    cases ws with
    | nil => simp [List.intercalate_cons_cons]
    | cons v ws =>
      rw [List.cons_append, List.cons_append, List.intercalate_cons_cons, ← List.cons_append, ih,
        List.intercalate_cons_cons]
      simp

/-- The tokens of a source are those of some lexemes, and one for the end of input. -/
theorem exists_lexemes_scan (source : List Char) :
    ∃ xs : List Lexeme, ∃ ts line, scan source = ts ++ [.endOfInput line] ∧
      ts.map Token.content = xs.map Lexeme.content ∧
      ts.map (·.lexeme.toList) = xs.map Lexeme.text := by
  obtain ⟨xs, hxs⟩ := exists_lexemes source
  have hcontent : (tokensFrom 1 (segments source)).map Token.content = xs.map Lexeme.content := by
    rw [map_content_tokensFrom, hxs]
  refine ⟨xs, _, _, scan_eq source, hcontent, ?_⟩
  have h := congrArg (List.map fun x : Content => x.2.1.toList) hcontent
  rw [List.map_map, List.map_map] at h
  refine h.trans (List.map_congr_left fun x _ => ?_)
  exact String.toList_ofList

theorem scanSource_spaced (file : String) {last : List Char} (h : ∀ c ∈ last, IsGap c)
    (xs : List Lexeme) :
    (scanSource (spread [] (spaced last xs)) file).diagnostics = [] ∧
      (scanSource (spread [] (spaced last xs)) file).tokens.map Token.content =
        xs.map Lexeme.content ++ [(.endOfInput, "", .absent)] := by
  have hpieces : (spaced last xs).map (·.1.content) = xs.map Lexeme.content := by
    induction xs with
    | nil => rfl
    | cons x xs ih =>
      cases xs with
      | nil => rfl
      | cons y xs => exact congrArg (x.content :: ·) ih
  obtain ⟨ts, hts, hcontent⟩ := scanSource_spread file (separated_spaced h xs)
  rw [hts]
  refine ⟨rfl, ?_⟩
  rw [List.map_append, hcontent, hpieces]
  rfl

/-- **Separated lexemes are read back**, each as the token that it is alone, with nothing wrong and
nothing besides.  So the lexemes of a scan, with or without the empty one for the end of input, give
back the tokens of the scan when they are written with single spaces and scanned again. -/
theorem scanSource_separated :
    (∀ lead pieces file, Separated lead pieces →
      ∃ ts, scanSource (spread lead pieces) file =
          ⟨ts ++ [.endOfInput (1 + (spread lead pieces).count '\n')], []⟩ ∧
        (Scanner.new (spread lead pieces) file none).scan.1 =
          .ok (ts ++ [.endOfInput (1 + (spread lead pieces).count '\n')]).toArray ∧
        List.Forall₂ (fun x t => ∃ u line, scan x.1.text = [u, .endOfInput line] ∧
          u.lexeme = String.ofList x.1.text ∧ t.content = u.content) pieces ts) ∧
    ∀ source file ts, ts = scan source ∨ ts = (scan source).dropLast →
      let again := scanSource ([' '].intercalate (ts.map (·.lexeme.toList))) file
      again.diagnostics = [] ∧ again.tokens.map Token.content = (scan source).map Token.content := by
  constructor
  · intro lead pieces file h
    obtain ⟨ts, hts, hcontent⟩ := scanSource_spread file h
    refine ⟨ts, hts, by rw [scan_ok, hts], ?_⟩
    have hpairs : List.Forall₂ (· = ·) (pieces.map (·.1.content)) (ts.map Token.content) := by
      rw [List.forall₂_eq_eq_eq, hcontent]
    rw [List.forall₂_map_left_iff, List.forall₂_map_right_iff] at hpairs
    refine hpairs.imp fun x t ht => ?_
    obtain ⟨u, line, hu, hx⟩ := scan_alone x.1
    exact ⟨u, line, hu, congrArg (·.2.1) hx, ht.symm.trans hx.symm⟩
  · intro source file ts hts again
    obtain ⟨xs, us, line, hscan, hcontent, hlexemes⟩ := exists_lexemes_scan source
    have hsource : (scan source).map Token.content =
        xs.map Lexeme.content ++ [(.endOfInput, "", .absent)] := by
      rw [hscan, List.map_append, hcontent]
      rfl
    have hlast : ∃ last, (∀ c ∈ last, IsGap c) ∧
        [' '].intercalate (ts.map (·.lexeme.toList)) = spread [] (spaced last xs) := by
      rcases hts with rfl | rfl
      · refine ⟨[' '], by simp [IsGap], ?_⟩
        rw [hscan, List.map_append, hlexemes, spread_spaced]
        have h := intercalate_append_nil (xs.map Lexeme.text)
        rw [List.isEmpty_map] at h
        exact h
      · refine ⟨[], by simp, ?_⟩
        rw [hscan, List.dropLast_concat, hlexemes, spread_spaced]
        simp
    obtain ⟨last, hgap, htext⟩ := hlast
    obtain ⟨hds, htokens⟩ := scanSource_spaced file hgap xs
    have hagain : again = scanSource (spread [] (spaced last xs)) file := by rw [← htext]
    rw [hagain, hsource]
    exact ⟨hds, htokens⟩

/-- A word and, on the next line, a string of two slashes. -/
theorem scanSource_separated_word_string :
    ∃ pieces, Separated [' '] pieces ∧
      spread [' '] pieces = [' ', 'i', 'f', '\n', '"', '/', '/', '"'] ∧
      ∃ t u, scanSource [' ', 'i', 'f', '\n', '"', '/', '/', '"'] "a.lox" =
          ⟨[t, u, .endOfInput 2], []⟩ ∧
        t.content = (.ifWord, "if", .absent) ∧
        u.content = (.string, "\"//\"", .string "//") := by
  have hword : ['i', 'f'] ∈ Pattern.word.language :=
    Pattern.mem_word.mpr ⟨'i', ['f'], rfl, by decide, forall_mem_of_all (by decide)⟩
  have hstring : ['"', '/', '/', '"'] ∈ Pattern.string.language :=
    Pattern.mem_string.mpr ⟨['/', '/'], rfl, by decide⟩
  let pieces : List (Lexeme × List Char) :=
    [(⟨.word, ['i', 'f'], hword, by decide⟩, ['\n']),
      (⟨.string, ['"', '/', '/', '"'], hstring, by decide⟩, [])]
  have hpieces : Separated [' '] pieces := by
    refine ⟨?_, ?_, ?_⟩ <;> simp [pieces, IsGap]
  have hif : scan ['i', 'f'] = [⟨.ifWord, "if", .absent, 1⟩, .endOfInput 1] := by decide
  have hslashes : scan ['"', '/', '/', '"'] =
      [⟨.string, "\"//\"", .string "//", 1⟩, .endOfInput 1] := by decide
  obtain ⟨ts, hts, -, hpairs⟩ := scanSource_separated.1 [' '] pieces "a.lox" hpieces
  obtain ⟨t, us, ⟨v, line, hv, -, ht⟩, hmore, rfl⟩ := List.forall₂_cons_left_iff.mp hpairs
  obtain ⟨u, vs, ⟨w, line', hw, -, hu⟩, hnil, rfl⟩ := List.forall₂_cons_left_iff.mp hmore
  obtain rfl := List.forall₂_nil_left_iff.mp hnil
  obtain ⟨rfl, -⟩ := List.cons.inj (hif.symm.trans hv)
  obtain ⟨rfl, -⟩ := List.cons.inj (hslashes.symm.trans hw)
  exact ⟨pieces, hpieces, rfl, t, u, hts, ht, hu⟩

end LoxLex
