import LoxLex.Proofs.MaximalMunch
import LoxLex.Proofs.Separation

/-!
# LoxLex.Proofs.Layout — layout carries no meaning

Blanks may be put between the spans of a source, and comments left out.  `Relaid ps cs` says that `cs` is
what the spans `ps` spell after changes of this sort, any number of them in any places.

* `Alike ps qs`: two lists of spans that give the same tokens and the same diagnostics.
* `Pattern.Closed.relaid`: what cannot go on with a lexeme cannot do so after such changes, for a comment
  ends with its line.
* `alike_relaid`: the changed text is cut into spans that are alike.
* `scans_relaid`: a scan gives what it gave before.
-/

namespace LoxLex

/-! ### Spans that give the same -/

/-- The span is blank, a newline or a comment. -/
def Span.IsLayout : Span → Prop
  | .lexeme p _ => p.IsLayout
  | _ => False

theorem Span.content?_of_isLayout {p : Span} (h : p.IsLayout) : p.content? = none := by
  cases p with
  | lexeme q text => rcases h with rfl | rfl | rfl <;> rfl
  | _ => rfl

theorem tokensFrom_layout {ps : List Span} (h : ∀ p ∈ ps, p.IsLayout) (line : Nat) :
    tokensFrom line ps = [] := by
  induction ps generalizing line with
  | nil => rfl
  | cons p ps ih =>
    obtain ⟨hp, hps⟩ := List.forall_mem_cons.mp h
    rw [tokensFrom_cons, ih hps, Span.token?, Span.content?_of_isLayout hp]
    rfl

theorem diagnosticsFrom_layout {ps : List Span} (h : ∀ p ∈ ps, p.IsLayout) (file : String)
    (line : Nat) : diagnosticsFrom file line ps = [] := by
  refine diagnosticsFrom_eq_nil file line ps fun p hp => ?_
  cases p with
  | lexeme q text => exact ⟨q, text, rfl⟩
  | unterminated text => exact (h _ hp).elim
  | unexpected c => exact (h _ hp).elim

/-- Spans that give the same tokens and the same diagnostics, wherever they begin, and have as many
newlines. -/
structure Alike (ps qs : List Span) : Prop where
  tokens : ∀ line, tokensFrom line ps = tokensFrom line qs
  diagnostics : ∀ file line, diagnosticsFrom file line ps = diagnosticsFrom file line qs
  lines : (spelled ps).count '\n' = (spelled qs).count '\n'

namespace Alike

variable {ps qs rs us : List Span}

theorem refl (ps : List Span) : Alike ps ps := ⟨fun _ => rfl, fun _ _ => rfl, rfl⟩

theorem symm (h : Alike ps qs) : Alike qs ps :=
  ⟨fun line => (h.tokens line).symm, fun file line => (h.diagnostics file line).symm, h.lines.symm⟩

theorem trans (h : Alike ps qs) (h' : Alike qs rs) : Alike ps rs :=
  ⟨fun line => (h.tokens line).trans (h'.tokens line),
    fun file line => (h.diagnostics file line).trans (h'.diagnostics file line),
    h.lines.trans h'.lines⟩

theorem append (h : Alike ps qs) (h' : Alike rs us) : Alike (ps ++ rs) (qs ++ us) := by
  refine ⟨fun line => ?_, fun file line => ?_, ?_⟩
  · rw [tokensFrom_append, tokensFrom_append, h.tokens, h.lines, h'.tokens]
  · rw [diagnosticsFrom_append, diagnosticsFrom_append, h.diagnostics, h.lines, h'.diagnostics]
  · rw [spelled_append, spelled_append, List.count_append, List.count_append, h.lines, h'.lines]

theorem cons (p : Span) (h : Alike ps qs) : Alike (p :: ps) (p :: qs) := (refl [p]).append h

/-- Of layout only the newlines matter. -/
theorem of_layout (hp : ∀ p ∈ ps, p.IsLayout) (hq : ∀ q ∈ qs, q.IsLayout)
    (h : (spelled ps).count '\n' = (spelled qs).count '\n') : Alike ps qs := by
  refine ⟨fun line => ?_, fun file line => ?_, h⟩
  · rw [tokensFrom_layout hp, tokensFrom_layout hq]
  · rw [diagnosticsFrom_layout hp, diagnosticsFrom_layout hq]

/-- Layout without newlines does not matter at all. -/
theorem of_layout_nil (hp : ∀ p ∈ ps, p.IsLayout) (h : '\n' ∉ spelled ps) : Alike ps [] := by
  refine of_layout hp (fun q hq => absurd hq List.not_mem_nil) ?_
  rw [List.count_eq_zero.mpr h]
  rfl

/-- Of a string without end only the newlines matter. -/
theorem of_unterminated {u v : List Char} (h : u.count '\n' = v.count '\n') :
    Alike [.unterminated u] [.unterminated v] := by
  have hlines : (Span.unterminated u).text.count '\n' = (Span.unterminated v).text.count '\n' := h
  refine ⟨fun line => ?_, fun file line => ?_, ?_⟩
  · rw [tokensFrom_cons, tokensFrom_cons]
    rfl
  · rw [diagnosticsFrom_cons, diagnosticsFrom_cons, hlines]
    rfl
  · rw [spelled_cons, spelled_cons, List.count_append, List.count_append, hlines]

end Alike

theorem isLayout_gapSpan (c : Char) : (gapSpan c).IsLayout := by
  unfold gapSpan gapPattern
  split
  · exact Or.inr (Or.inl rfl)
  · exact Or.inl rfl

theorem forall_isLayout_gaps (u : List Char) : ∀ p ∈ u.map gapSpan, p.IsLayout := by
  intro p hp
  obtain ⟨c, -, rfl⟩ := List.mem_map.mp hp
  exact isLayout_gapSpan c

theorem spelled_gaps (u : List Char) : spelled (u.map gapSpan) = u := by
  induction u with
  | nil => rfl
  | cons c u ih =>
    rw [List.map_cons, spelled_cons, ih]
    rfl

/-- A source whose spans are alike gives the same. -/
theorem scanSource_of_alike {a b : List Char} (h : Alike (segments a) (segments b)) (file : String) :
    scanSource a file = scanSource b file := by
  have hlines := h.lines
  rw [spelled_segments, spelled_segments] at hlines
  rw [scanSource_eq, scanSource_eq, h.tokens, h.diagnostics, hlines]

/-! ### Changes of the layout -/

/-- `cs` is what the spans spell after changes of the layout: blanks may have been put in before and
behind any of them, and comments may have been left out. -/
inductive Relaid : List Span → List Char → Prop
  | nil : Relaid [] []
  | blank {c : Char} {ps : List Span} {cs : List Char} (hc : c ∈ [' ', '\t', '\r'])
      (more : Relaid ps cs) : Relaid ps (c :: cs)
  | keep {ps : List Span} {cs : List Char} (p : Span) (more : Relaid ps cs) :
      Relaid (p :: ps) (p.text ++ cs)
  | drop {ps : List Span} {cs : List Char} (text : List Char) (more : Relaid ps cs) :
      Relaid (.lexeme .comment text :: ps) cs

theorem isGap_of_blank {c : Char} (h : c ∈ [' ', '\t', '\r']) : IsGap c := by
  have table : ∀ d ∈ [' ', '\t', '\r'], d ∈ [' ', '\t', '\r', '\n'] := forall_mem_of_all (by decide)
  exact table c h

theorem newline_notMem_blanks {u : List Char} (h : ∀ c ∈ u, c ∈ [' ', '\t', '\r']) : '\n' ∉ u :=
  fun hmem => absurd (h _ hmem) (by decide)

/-- Blanks in front of a text change nothing. -/
theorem alike_blanks {u : List Char} (h : ∀ c ∈ u, c ∈ [' ', '\t', '\r']) (rest : List Char) :
    Alike (segments (u ++ rest)) (segments rest) := by
  have hnone : Alike (u.map gapSpan) [] := by
    refine Alike.of_layout_nil (forall_isLayout_gaps u) ?_
    rw [spelled_gaps]
    exact newline_notMem_blanks h
  rw [segments_gap fun c hc => isGap_of_blank (h c hc)]
  exact hnone.append (.refl (segments rest))

/-- A comment is nothing. -/
theorem alike_comment {text : List Char} (ht : text ∈ Pattern.comment.language) :
    Alike [.lexeme .comment text] [] := by
  refine Alike.of_layout_nil (fun p hp => ?_) ?_
  · rw [List.mem_singleton.mp hp]
    exact Or.inr (Or.inr rfl)
  · rw [spelled_cons, spelled_nil, List.append_nil]
    exact Pattern.newline_notMem ht (by decide) (by decide)

theorem Span.Heads.text_ne_nil {p : Span} {rest : List Char} (h : p.Heads rest) : p.text ≠ [] := by
  cases p with
  | lexeme q text => exact Pattern.ne_nil_of_mem h.1
  | unterminated text =>
    obtain ⟨-, cs, rfl, -⟩ := h
    exact List.cons_ne_nil '"' cs
  | unexpected c => exact List.cons_ne_nil c []

/-- What stops a run still stops it with more behind. -/
theorem Span.Heads.stops {q : Char → Prop} {p : Span} {rest : List Char} (h : p.Heads rest)
    (hstop : Stops q (p.text ++ rest)) (cs : List Char) : Stops q (p.text ++ cs) :=
  hstop.of_append.append h.text_ne_nil cs

theorem not_stops_comment {text rest : List Char} (ht : text ∈ Pattern.comment.language) :
    ¬ Stops (· ≠ '\n') (text ++ rest) := by
  obtain ⟨body, rfl, -⟩ := Pattern.mem_comment.mp ht
  rw [List.cons_append, Stops.cons_iff]
  decide

namespace Relaid

variable {rest cs : List Char}

theorem blanks (h : Relaid [] cs) : ∀ c ∈ cs, c ∈ [' ', '\t', '\r'] := by
  generalize hps : ([] : List Span) = ps at h
  induction h with
  | nil => simp
  | blank hc _ ih => exact List.forall_mem_cons.mpr ⟨hc, ih hps⟩
  | keep => cases hps
  | drop => cases hps

/-- Where a line ended there are only blanks now before its end. -/
theorem line_end (h : Relaid (segments rest) cs) (hrest : Stops (· ≠ '\n') rest) :
    ∃ u v, cs = u ++ v ∧ (∀ c ∈ u, c ∈ [' ', '\t', '\r']) ∧ Stops (· ≠ '\n') v := by
  generalize hps : segments rest = ps at h
  induction h with
  | nil => exact ⟨[], [], rfl, by simp, Stops.nil⟩
  | blank hc _ ih =>
    obtain ⟨u, v, rfl, hu, hv⟩ := ih hps
    exact ⟨_ :: u, v, rfl, List.forall_mem_cons.mpr ⟨hc, hu⟩, hv⟩
  | keep p _ _ =>
    obtain ⟨more, rfl, hp, -⟩ := segments_eq_cons_iff.mp hps
    exact ⟨[], _, rfl, by simp, hp.stops hrest _⟩
  | drop text _ _ =>
    obtain ⟨more, rfl, hp, -⟩ := segments_eq_cons_iff.mp hps
    exact absurd hrest (not_stops_comment hp.1)

/-- What does not go on with a run that blanks and newlines end, does not go on with it now. -/
theorem stops {q : Char → Prop} (hq : ∀ c, IsGap c → ¬ q c) (h : Relaid (segments rest) cs)
    (hrest : Stops q rest) : Stops q cs := by
  generalize hps : segments rest = ps at h
  cases h with
  | nil => exact Stops.nil
  | blank hc _ => exact Stops.cons_iff.mpr (hq _ (isGap_of_blank hc))
  | keep p _ =>
    obtain ⟨more, rfl, hp, -⟩ := segments_eq_cons_iff.mp hps
    exact hp.stops hrest _
  | drop text more =>
    -- Behind the comment stood the end of its line, and blanks at most stand before that.
    obtain ⟨behind, -, hp, rfl⟩ := segments_eq_cons_iff.mp hps
    obtain ⟨u, v, rfl, hu, hv⟩ := more.line_end hp.2
    cases u with
    | nil =>
      intro c hc
      have hline : c = '\n' := not_not.mp (hv c hc)
      exact hq c (by rw [hline]; simp [IsGap])
    | cons c u => exact Stops.cons_iff.mpr (hq c (isGap_of_blank (hu c List.mem_cons_self)))

/-- A point that stands at the head now stood there before. -/
theorem point (h : Relaid (segments rest) ('.' :: cs)) :
    ∃ more, rest = '.' :: more ∧ Relaid (segments more) cs := by
  have hhead : ∃ more, rest = '.' :: more := by
    by_contra hno
    have hrest : Stops (· = '.') rest := by
      rintro c hc rfl
      exact hno (List.head?_eq_some_iff.mp hc)
    have hgap : ∀ c, IsGap c → ¬ c = '.' := by
      rintro c hc rfl
      exact not_joins_of_isGap hc (by decide)
    exact Stops.cons_iff.mp (h.stops hgap hrest) rfl
  obtain ⟨more, rfl⟩ := hhead
  have ht : ['.'] ∈ Pattern.punctuation.language := Pattern.mem_punctuation.mpr ⟨'.', by decide, rfl⟩
  rw [show '.' :: more = ['.'] ++ more from rfl, segments_lexeme ht trivial] at h
  refine ⟨more, rfl, ?_⟩
  generalize hds : '.' :: cs = ds at h
  cases h with
  | blank hc _ =>
    obtain ⟨rfl, -⟩ := List.cons.inj hds
    exact absurd hc (by decide)
  | keep p more' =>
    obtain ⟨-, rfl⟩ := List.cons.inj hds
    exact more'

end Relaid

/-- **What cannot go on with a lexeme cannot do so in another layout.** -/
theorem Pattern.Closed.relaid {p : Pattern} {text rest cs : List Char} (hc : p.Closed text rest)
    (hp : p ≠ .comment) (h : Relaid (segments rest) cs) : p.Closed text cs := by
  have hgap : ∀ c, IsGap c → ¬ isDigit c = true := fun c hg hd =>
    not_joins_of_isGap hg (Or.inr (Or.inr (Or.inr (Opening.isWordChar_of_isDigit hd))))
  refine hc.transfer hp (fun q hq => h.stops fun c hg hqc => not_joins_of_isGap hg (hq c hqc)) ?_
  rintro ds rfl
  obtain ⟨more, rfl, hmore⟩ := h.point
  exact ⟨more, rfl, hmore.stops hgap⟩

/-- A comment with blanks behind it is a comment. -/
theorem mem_comment_append {text u : List Char} (ht : text ∈ Pattern.comment.language)
    (hu : ∀ c ∈ u, c ∈ [' ', '\t', '\r']) : text ++ u ∈ Pattern.comment.language := by
  obtain ⟨body, rfl, hbody⟩ := Pattern.mem_comment.mp ht
  refine Pattern.mem_comment.mpr ⟨body ++ u, rfl, fun hmem => ?_⟩
  rcases List.mem_append.mp hmem with h | h
  · exact hbody h
  · exact newline_notMem_blanks hu h

/-- A comment that takes blanks with it is a comment still, and nothing behind it is changed. -/
theorem alike_comment_blanks {text u v : List Char} (ht : text ∈ Pattern.comment.language)
    (hu : ∀ c ∈ u, c ∈ [' ', '\t', '\r']) (hv : Stops (· ≠ '\n') v) :
    Alike (segments (text ++ (u ++ v))) (.lexeme .comment text :: segments (u ++ v)) := by
  have hclosed : Pattern.comment.Closed (text ++ u) v := hv
  have hcomment := mem_comment_append ht hu
  rw [← List.append_assoc, segments_lexeme hcomment hclosed]
  exact ((alike_comment hcomment).trans (alike_comment ht).symm).append (alike_blanks hu v).symm

/-- **A text in another layout is cut into spans that give the same.** -/
theorem alike_relaid {source cs : List Char} (h : Relaid (segments source) cs) :
    Alike (segments cs) (segments source) := by
  generalize hps : segments source = ps at h ⊢
  induction h generalizing source with
  | nil =>
    rw [segments_nil]
    exact .refl []
  | @blank c _ cs hc _ ih =>
    have hone : ∀ d ∈ [c], d ∈ [' ', '\t', '\r'] := fun d hd => List.mem_singleton.mp hd ▸ hc
    exact (alike_blanks hone cs).trans (ih hps)
  | @drop _ cs text _ ih =>
    obtain ⟨rest, -, hp, rfl⟩ := segments_eq_cons_iff.mp hps
    exact (ih rfl).trans ((alike_comment hp.1).symm.append (.refl (segments rest)))
  | @keep _ cs p more ih =>
    obtain ⟨rest, -, hp, rfl⟩ := segments_eq_cons_iff.mp hps
    cases p with
    | lexeme q text =>
      by_cases hq : q = .comment
      · -- The comment takes the blanks with it that now stand behind it.
        subst hq
        obtain ⟨u, v, rfl, hu, hv⟩ := more.line_end hp.2
        exact (alike_comment_blanks hp.1 hu hv).trans ((ih rfl).cons _)
      · rw [Span.text, segments_lexeme hp.1 (hp.2.relaid hq more)]
        exact (ih rfl).cons _
    | unterminated text =>
      obtain ⟨rfl, w, rfl, hw⟩ := hp
      rw [segments_nil] at more ⊢
      have hquote : '"' ∉ w ++ cs := by
        rw [List.mem_append, not_or]
        exact ⟨hw, fun hmem => absurd (more.blanks _ hmem) (by decide)⟩
      rw [Span.text, List.cons_append, segments_unterminated hquote]
      refine Alike.of_unterminated ?_
      rw [← List.cons_append, List.count_append,
        List.count_eq_zero.mpr (newline_notMem_blanks more.blanks), Nat.add_zero]
    | unexpected c =>
      have ho : Opening.ofChar c = .other := hp
      rw [Span.text, List.singleton_append, segments_unexpected ho]
      exact (ih rfl).cons _

/-! ### What a scan gives -/

/-- The cursor stands behind the spans that have been read. -/
theorem current_scanLexemes (source : List Char) (file : String) (n : Nat) :
    (Scanner.scanLexemes n (Scanner.new source file none)).2.current =
      (spelled ((segments source).take n)).length := by
  obtain ⟨t, ht, hg⟩ := Scanner.absorbAll_patient (s := Scanner.new source file none) patient_none
    ((segments source).take n)
  rw [Scanner.scanLexemes_eq, show (Scanner.new source file none).rest = source from rfl, ht, hg.current]
  exact Nat.zero_add _

/-- **Layout carries no meaning**: the spans of a source are what the scanner reads turn by turn, and if
comments among them are left out and blanks are put between them, a scan gives all the same tokens and
diagnostics. -/
theorem scans_relaid (source relaid : List Char) (file : String) (ps : List Span)
    (hps : Segmentation source ps) (h : Relaid ps relaid) :
    (∀ n, (Scanner.scanLexemes n (Scanner.new source file none)).2.current =
        (spelled (ps.take n)).length) ∧
      ∃ ts ds, Scans source file ts ds ∧ Scans relaid file ts ds := by
  obtain rfl := segmentation_iff.mp hps
  refine ⟨current_scanLexemes source file, _, _, scans_of_eq rfl, scans_of_eq ?_⟩
  exact scanSource_of_alike (alike_relaid h) file

/-- A word before a comment, and a slash before an open quote: the comment is left out, a tab is put in
front of the quote and a space behind all. -/
theorem scans_relaid_open_quote :
    let source := ['a', '/', '/', 'c', '\n', '/', '"', 'b']
    let relaid := ['a', '\n', '/', '\t', '"', 'b', ' ']
    ∃ ps, Segmentation source ps ∧ Relaid ps relaid ∧
      Scans relaid "a.lox"
        [⟨.identifier, "a", .absent, 1⟩, ⟨.slash, "/", .absent, 2⟩, .endOfInput 2]
        [.unterminated ⟨"a.lox", 2⟩] := by
  intro source relaid
  have hps : segments source = [.lexeme .word ['a'], .lexeme .comment ['/', '/', 'c'],
      .lexeme .newline ['\n'], .lexeme .slash ['/'], .unterminated ['"', 'b']] := by
    rw [segments_cons ['/', '/', 'c', '\n', '/', '"', 'b'] (by decide),
      segments_cons ['\n', '/', '"', 'b'] (by decide), segments_cons ['/', '"', 'b'] (by decide),
      segments_cons ['"', 'b'] (by decide), segments_cons [] (by decide), segments_nil]
    decide
  have hrelaid : Relaid (segments source) relaid := by
    rw [hps]
    refine .keep _ (.drop _ (.keep _ (.keep _ (.blank (by decide) ?_))))
    exact .keep (.unterminated ['"', 'b']) (.blank (by decide) .nil)
  obtain ⟨-, ts, ds, hsource, hsame⟩ :=
    scans_relaid source relaid "a.lox" _ (segmentation_segments source) hrelaid
  have hscan : scanSource source "a.lox" =
      ⟨[⟨.identifier, "a", .absent, 1⟩, ⟨.slash, "/", .absent, 2⟩, .endOfInput 2],
        [.unterminated ⟨"a.lox", 2⟩]⟩ := by
    decide
  obtain ⟨rfl, rfl⟩ := ScanResult.mk.inj (hsource.result.symm.trans hscan)
  exact ⟨_, segmentation_segments source, hrelaid, hsame⟩

end LoxLex
