import LoxLex.Proofs.Context
import LoxLex.Proofs.Lookahead

/-!
# LoxLex.Proofs.ClosingQuote — a quote behind a source

A quote behind a source closes the string that the source left open, or else it opens one, except in a
comment.  It changes nothing in front of it: no lexeme goes on with a quote.

* `segments_close_quote`, `segments_open_quote`: the spans of the source with the quote.
* `run_eq_comment`: where a comment stands last, the source ends in a comment.
* `scans_quote`: what a scan gives in either case.
-/

namespace LoxLex

theorem stops_joins_quote : Stops Joins ['"'] := Stops.cons_iff.mpr (by decide)

theorem ne_nil_of_segments {cs : List Char} {ps : List Span} {p : Span}
    (h : segments cs = ps ++ [p]) : cs ≠ [] := by
  rintro rfl
  rw [segments_nil] at h
  exact absurd h.symm (by simp)

/-- **A quote closes an open string**, and all other spans stay as they are. -/
theorem segments_close_quote {cs w : List Char} {ps : List Span}
    (h : segments cs = ps ++ [.unterminated w]) :
    (∃ body, w = '"' :: body) ∧ segments (cs ++ ['"']) = ps ++ [.lexeme .string (w ++ ['"'])] := by
  induction ps generalizing cs with
  | nil =>
    obtain ⟨rest, rfl, ⟨rfl, body, rfl, hbody⟩, -⟩ := segments_eq_cons_iff.mp h
    refine ⟨⟨body, rfl⟩, segments_eq_cons_iff.mpr ⟨[], by simp [Span.text], ⟨?_, trivial⟩, segments_nil⟩⟩
    exact Pattern.mem_string.mpr ⟨body, rfl, hbody⟩
  | cons p ps ih =>
    obtain ⟨rest, rfl, hp, hrest⟩ := segments_eq_cons_iff.mp h
    obtain ⟨hw, hmore⟩ := ih hrest
    have hne := ne_nil_of_segments hrest
    refine ⟨hw, segments_eq_cons_iff.mpr ⟨rest ++ ['"'], List.append_assoc _ _ _, ?_, hmore⟩⟩
    cases p with
    | lexeme q text =>
      exact ⟨hp.1, hp.2.append stops_joins_quote fun _ hnil => absurd hnil hne⟩
    | unterminated text => exact absurd hp.1 hne
    | unexpected c => exact hp

/-! ### The end of a comment -/

/-- Behind a span that is not the last, the next one may begin. -/
theorem Span.Heads.ready {p : Span} {rest : List Char} {k : Context} (h : p.Heads rest)
    (hne : rest ≠ []) (hk : k.Ready (p.text ++ rest)) : (k.run p.text).Ready rest := by
  cases p with
  | lexeme q text => exact (Context.quiet_of_closed hk h.1 h.2).2
  | unterminated text => exact absurd h.1 hne
  | unexpected c =>
    have ho : Opening.ofChar c = .other := h
    have hslash : c ≠ '/' := Opening.ne_of_other ho (by decide)
    have hquote : c ≠ '"' := Opening.ne_of_other ho (by decide)
    have hnext : k.next c = Context.code.next c := Context.Ready.next hk
    have hcode : k.run (Span.unexpected c).text = .code := by
      rw [Span.text, Context.run_cons, Context.run_nil, hnext]
      simp [Context.next, hslash, hquote]
    rw [hcode]
    trivial

/-- **Where a comment is the last span, the text ends in a comment.** -/
theorem run_eq_comment {cs w : List Char} {ps : List Span} {k : Context}
    (h : segments cs = ps ++ [.lexeme .comment w]) (hk : k.Ready cs) : k.run cs = .comment := by
  induction ps generalizing cs k with
  | nil =>
    obtain ⟨rest, rfl, hp, hrest⟩ := segments_eq_cons_iff.mp h
    obtain ⟨body, rfl, hbody⟩ := Pattern.mem_comment.mp hp.1
    have hnil : rest = [] := by
      rw [← spelled_segments rest, hrest, spelled_nil]
    subst hnil
    rw [Span.text, List.append_nil] at hk ⊢
    rw [Context.run_cons, Context.Ready.next hk, Context.run_cons]
    exact Context.run_comment hbody
  | cons p ps ih =>
    obtain ⟨rest, rfl, hp, hrest⟩ := segments_eq_cons_iff.mp h
    have hne := ne_nil_of_segments hrest
    rw [Context.run_append]
    exact ih hrest (hp.ready hne hk)

/-- **A quote opens a string** where none is open and the text does not end in a comment. -/
theorem segments_open_quote {cs : List Char} (hopen : ∀ w, .unterminated w ∉ segments cs)
    (hcomment : Context.after cs ≠ .comment) :
    segments (cs ++ ['"']) = segments cs ++ [.unterminated ['"']] := by
  have hlast : ∀ w, (segments cs).getLast? = some (.lexeme .comment w) → Stops (· ≠ '\n') ['"'] := by
    intro w hw
    obtain ⟨ps, hps⟩ := List.getLast?_eq_some_iff.mp hw
    exact absurd (run_eq_comment (k := .code) hps trivial) hcomment
  rw [segments_append hopen stops_joins_quote hlast, segments_unterminated List.not_mem_nil]

/-! ### What a scan gives -/

section

variable {source body : List Char} {ps : List Span}

theorem count_quote (cs : List Char) : (cs ++ ['"']).count '\n' = cs.count '\n' := by simp

/-- A string that is left open gives a diagnostic on the last line, and no token. -/
theorem scanSource_open_string (e : segments source = ps ++ [.unterminated ('"' :: body)])
    (file : String) : scanSource source file =
      ⟨tokensFrom 1 ps ++ [.endOfInput (1 + source.count '\n')],
        diagnosticsFrom file 1 ps ++ [.unterminated ⟨file, 1 + source.count '\n'⟩]⟩ := by
  have hsource := spelled_segments source
  rw [e, spelled_append, spelled_cons, spelled_nil, List.append_nil] at hsource
  have hcount : 1 + (spelled ps).count '\n' + (Span.unterminated ('"' :: body)).text.count '\n' =
      1 + source.count '\n' := by
    rw [← hsource, List.count_append, Nat.add_assoc]
  rw [scanSource_eq, e, tokensFrom_append, diagnosticsFrom_append, tokensFrom_cons,
    diagnosticsFrom_cons, hcount]
  simp [Span.token?, Span.content?, Span.diagnostic?]

/-- With a quote behind it, it gives a token on that line, and no diagnostic. -/
theorem scanSource_closed_string (e : segments source = ps ++ [.unterminated ('"' :: body)])
    (file : String) : scanSource (source ++ ['"']) file =
      ⟨tokensFrom 1 ps ++ [⟨.string, String.ofList ('"' :: body ++ ['"']),
          .string (String.ofList body), 1 + source.count '\n'⟩, .endOfInput (1 + source.count '\n')],
        diagnosticsFrom file 1 ps⟩ := by
  obtain ⟨-, hclosed⟩ := segments_close_quote e
  have hsource := spelled_segments (source ++ ['"'])
  rw [hclosed, spelled_append, spelled_cons, spelled_nil, List.append_nil] at hsource
  have hcount : 1 + (spelled ps).count '\n' +
      (Span.lexeme .string ('"' :: body ++ ['"'])).text.count '\n' = 1 + source.count '\n' := by
    rw [← count_quote source, ← hsource, List.count_append, Nat.add_assoc]
  rw [scanSource_eq, hclosed, count_quote, tokensFrom_append, diagnosticsFrom_append, tokensFrom_cons,
    diagnosticsFrom_cons, hcount]
  simp [Span.token?, Span.content?, Span.diagnostic?, Pattern.kind?, Pattern.literal]

/-- What is found to be an open string is the last span, from its quote on, and it is reported on the last
line. -/
theorem exists_open_string {file : String} {f : Finding Diagnostic}
    (hf : f ∈ diagnosticFindings source file) (hcode : f.item.code = some "L002") :
    ∃ ps body, segments source = ps ++ [.unterminated ('"' :: body)] ∧
      source.drop f.first = '"' :: body ∧ f.item = .unterminated ⟨file, 1 + source.count '\n'⟩ := by
  rw [diagnosticFindings_eq] at hf
  obtain ⟨before, p, behind, e, hfirst, -, hd⟩ := exists_span_of_mem hf
  cases p with
  | lexeme q text => cases hd
  | unexpected c =>
    rw [← Option.some.inj hd] at hcode
    exact absurd hcode (by simp [Diagnostic.stray, Diagnostic.error])
  | unterminated w =>
    obtain rfl := eq_nil_of_unterminated e
    obtain ⟨⟨body, rfl⟩, -⟩ := segments_close_quote e
    have hsource : source = spelled before ++ '"' :: body := by
      rw [source_eq_of_segments e, spelled_nil, List.append_nil]
      rfl
    refine ⟨before, body, e, ?_, ?_⟩
    · rw [hfirst, hsource, Nat.zero_add, List.drop_left]
    · rw [hsource, ← Option.some.inj hd]
      exact congrArg (fun n => Diagnostic.unterminated ⟨file, n⟩) (Int.natCast_add 1 _)

end

/-- **A quote behind a source** closes the string that is open, which becomes one more token in place of
its diagnostic; where none is open, and the source does not end in a comment, it opens one, which adds
a diagnostic and no token. -/
theorem scans_quote (source : List Char) (file : String) :
    WellPlaced source file ∧
      (∀ f ∈ diagnosticFindings source file, f.item.code = some "L002" →
        source[f.first]? = some '"' ∧
        ∃ ts ds, Scans source file (ts ++ [.endOfInput f.item.line]) (ds ++ [f.item]) ∧
          Scans (source ++ ['"']) file
            (ts ++ [⟨.string, String.ofList (source.drop f.first ++ ['"']),
                .string (String.ofList (source.drop (f.first + 1))), f.item.line⟩,
              .endOfInput f.item.line]) ds) ∧
      ((∀ d ∈ (scanSource source file).diagnostics, d.code ≠ some "L002") →
        Context.after source ≠ .comment →
        ∃ ts ds line, Scans source file (ts ++ [.endOfInput line]) ds ∧
          Scans (source ++ ['"']) file (ts ++ [.endOfInput line])
            (ds ++ [.unterminated ⟨file, line⟩])) := by
  refine ⟨wellPlaced source file, fun f hf hcode => ?_, fun hnone hcomment => ?_⟩
  · obtain ⟨ps, body, e, hdrop, hitem⟩ := exists_open_string hf hcode
    have hbody : source.drop (f.first + 1) = body := by
      rw [← List.drop_drop, hdrop, List.drop_one, List.tail_cons]
    refine ⟨?_, tokensFrom 1 ps, diagnosticsFrom file 1 ps, scans_of_eq ?_, scans_of_eq ?_⟩
    · rw [← List.head?_drop, hdrop, List.head?_cons]
    · rw [scanSource_open_string e, hitem]
      rfl
    · rw [scanSource_closed_string e, hdrop, hbody, hitem]
      rfl
  · have hopen := unterminated_notMem_segments hnone
    refine ⟨_, _, _, scans_of_eq (scanSource_eq source file), scans_of_eq ?_⟩
    rw [scanSource_eq, segments_open_quote hopen hcomment, count_quote, tokensFrom_append,
      diagnosticsFrom_append, spelled_segments]
    simp [tokensFrom_cons, diagnosticsFrom_cons, Span.token?, Span.content?, Span.diagnostic?, Span.text]

/-- A string over a line end is closed; behind a slash, a string is opened. -/
theorem scans_quote_two_lines :
    let source := ['a', '\n', '"', 'b', '\n']
    let f : Finding Diagnostic := ⟨2, 5, .unterminated ⟨"a.lox", 3⟩⟩
    f ∈ diagnosticFindings source "a.lox" ∧ f.item.code = some "L002" ∧
      Scans (source ++ ['"']) "a.lox"
        [⟨.identifier, "a", .absent, 1⟩, ⟨.string, "\"b\n\"", .string "b\n", 3⟩, .endOfInput 3] [] ∧
      (∀ d ∈ (scanSource ['/'] "a.lox").diagnostics, d.code ≠ some "L002") ∧
      Context.after ['/'] ≠ .comment ∧
      Scans ['/', '"'] "a.lox" [⟨.slash, "/", .absent, 1⟩, .endOfInput 1]
        [.unterminated ⟨"a.lox", 1⟩] := by
  intro source f
  have hf : f ∈ diagnosticFindings source "a.lox" := by decide
  have hscan : scanSource source "a.lox" =
      ⟨[⟨.identifier, "a", .absent, 1⟩] ++ [.endOfInput 3], [] ++ [.unterminated ⟨"a.lox", 3⟩]⟩ := by
    decide
  have hnone : ∀ d ∈ (scanSource ['/'] "a.lox").diagnostics, d.code ≠ some "L002" := by decide
  have hcomment : Context.after ['/'] ≠ .comment := by decide
  have hslash : scanSource ['/'] "a.lox" =
      ⟨[⟨.slash, "/", .absent, 1⟩] ++ [.endOfInput 1], []⟩ := by
    decide
  obtain ⟨-, ts, ds, hbefore, hclosed⟩ := (scans_quote source "a.lox").2.1 f hf rfl
  obtain ⟨hts, hds⟩ := ScanResult.mk.inj (hbefore.result.symm.trans hscan)
  obtain rfl := (List.append_inj' hts rfl).1
  obtain rfl := (List.append_inj' hds rfl).1
  obtain ⟨us, es, line, halone, hopened⟩ := (scans_quote ['/'] "a.lox").2.2 hnone hcomment
  obtain ⟨hus, rfl⟩ := ScanResult.mk.inj (halone.result.symm.trans hslash)
  obtain ⟨rfl, hline⟩ := List.append_inj' hus rfl
  obtain rfl : line = 1 := congrArg Token.line (List.cons.inj hline).1
  exact ⟨hf, rfl, hclosed, hnone, hcomment, hopened⟩

end LoxLex
