import LoxLex.Proofs.Layout
import LoxLex.Proofs.LineEnds

/-!
# LoxLex.Proofs.CarriageReturns — two ways to end a line

A line may end with a newline alone or with a carriage return before it.  `crlf` puts the carriage
return there.  Between lexemes it is blank and in a comment it is one character more; only a string has
it in its text.

* `Pattern.Closed.crlf`: what cannot go on with a lexeme cannot do so behind a carriage return.
* `alike_crlf`: the new text is cut into the old spans, each with its own line ends changed.
* `scans_crlf`: the tokens of a scan have their texts changed in this way, and all else is as before.
-/

namespace LoxLex

/-- A text with a carriage return before every newline. -/
def crlf (cs : List Char) : List Char := cs.flatMap fun c => if c = '\n' then ['\r', '\n'] else [c]

/-- A value whose text has carriage returns. -/
def Literal.crlf : Literal → Literal
  | .string value => .string (String.ofList (LoxLex.crlf value.toList))
  | literal => literal

/-- A token whose lexeme, and value if it is a text, have carriage returns. -/
def Token.crlf (t : Token) : Token :=
  { t with lexeme := String.ofList (LoxLex.crlf t.lexeme.toList), literal := t.literal.crlf }

/-! ### The text -/

@[simp] theorem crlf_nil : crlf [] = [] := rfl

@[simp] theorem crlf_newline (cs : List Char) : crlf ('\n' :: cs) = '\r' :: '\n' :: crlf cs := rfl

theorem crlf_append (u v : List Char) : crlf (u ++ v) = crlf u ++ crlf v := List.flatMap_append

theorem crlf_cons {c : Char} (h : c ≠ '\n') (cs : List Char) : crlf (c :: cs) = c :: crlf cs := by
  unfold crlf
  rw [List.flatMap_cons, if_neg h]
  rfl

theorem crlf_of_notMem {cs : List Char} (h : '\n' ∉ cs) : crlf cs = cs := by
  induction cs with
  | nil => rfl
  | cons c cs ih =>
    rw [List.mem_cons, not_or] at h
    rw [crlf_cons (Ne.symm h.1), ih h.2]

theorem mem_crlf {c : Char} (hc : c ≠ '\r') (cs : List Char) : c ∈ crlf cs ↔ c ∈ cs := by
  induction cs with
  | nil => rfl
  | cons d cs ih =>
    by_cases hd : d = '\n'
    · rw [hd, crlf_newline, List.mem_cons, List.mem_cons, List.mem_cons, ih]
      exact or_iff_right hc
    · rw [crlf_cons hd, List.mem_cons, List.mem_cons, ih]

/-- No line is added. -/
theorem count_crlf (cs : List Char) : (crlf cs).count '\n' = cs.count '\n' := by
  induction cs with
  | nil => rfl
  | cons c cs ih =>
    by_cases hc : c = '\n'
    · rw [hc, crlf_newline, List.count_cons_of_ne (by decide), List.count_cons_self,
        List.count_cons_self, ih]
    · rw [crlf_cons hc, List.count_cons_of_ne hc, List.count_cons_of_ne hc, ih]

/-! ### Beside a lexeme -/

variable {p : Pattern} {text rest : List Char}

/-- A rest that stops a run that a carriage return stops still stops it. -/
theorem Stops.crlf {q : Char → Prop} (hq : ¬ q '\r') (h : Stops q rest) : Stops q (crlf rest) := by
  cases rest with
  | nil => exact Stops.nil
  | cons c rest =>
    by_cases hc : c = '\n'
    · rw [hc, crlf_newline, Stops.cons_iff]
      exact hq
    · rw [crlf_cons hc]
      exact Stops.cons_iff.mpr (Stops.cons_iff.mp h)

/-- At the end of a comment there may be a carriage return, and then there is the newline. -/
theorem exists_crlf_line_end (h : Stops (· ≠ '\n') rest) :
    ∃ u v, crlf rest = u ++ v ∧ (∀ c ∈ u, c ∈ [' ', '\t', '\r']) ∧ Stops (· ≠ '\n') v := by
  cases rest with
  | nil => exact ⟨[], [], rfl, by simp, Stops.nil⟩
  | cons c rest =>
    rw [Stops.cons_iff, not_not] at h
    subst h
    exact ⟨['\r'], '\n' :: crlf rest, rfl, by simp, by simp⟩

/-- A point at the head of the new text has always been there. -/
theorem exists_crlf_point {ds : List Char} (h : crlf rest = '.' :: ds) :
    ∃ cs, rest = '.' :: cs ∧ ds = crlf cs := by
  cases rest with
  | nil => cases h
  | cons c cs =>
    have hc : c ≠ '\n' := by
      rintro rfl
      cases h
    rw [crlf_cons hc] at h
    obtain ⟨rfl, rfl⟩ := List.cons.inj h
    exact ⟨cs, rfl, rfl⟩

/-- **What cannot go on with a lexeme cannot do so behind a carriage return.** -/
theorem Pattern.Closed.crlf (hp : p ≠ .comment) (h : p.Closed text rest) :
    p.Closed text (crlf rest) := by
  have hjoin : ¬ Joins '\r' := by decide
  refine h.transfer hp (fun q hq => Stops.crlf fun hr => hjoin (hq _ hr)) fun ds hds => ?_
  obtain ⟨cs, rfl, rfl⟩ := exists_crlf_point hds
  exact ⟨cs, rfl, Stops.crlf (by decide)⟩

/-! ### From span to span -/

/-- A span whose text has carriage returns. -/
def Span.crlf : Span → Span
  | .lexeme p text => .lexeme p (LoxLex.crlf text)
  | .unterminated text => .unterminated (LoxLex.crlf text)
  | .unexpected c => .unexpected c

/-- A string with carriage returns is a string. -/
theorem crlf_string {body : List Char} :
    crlf ('"' :: (body ++ ['"'])) = '"' :: (crlf body ++ ['"']) := by
  rw [crlf_cons (by decide), crlf_append]
  rfl

theorem mem_language_crlf (hn : p ≠ .newline) (ht : text ∈ p.language) :
    crlf text ∈ p.language := by
  by_cases hs : p = .string
  · subst hs
    obtain ⟨body, rfl, hbody⟩ := Pattern.mem_string.mp ht
    refine Pattern.mem_string.mpr ⟨crlf body, crlf_string, ?_⟩
    rwa [mem_crlf (by decide)]
  · rwa [crlf_of_notMem (Pattern.newline_notMem ht hn hs)]

theorem Pattern.Closed.crlf_text (ht : text ∈ p.language) (hn : p ≠ .newline)
    (h : p.Closed text rest) : p.Closed (LoxLex.crlf text) rest := by
  by_cases hs : p = .string
  · subst hs
    trivial
  · rwa [crlf_of_notMem (Pattern.newline_notMem ht hn hs)]

/-- **With carriage returns a text is cut into the same spans**, but for the layout. -/
theorem alike_crlf (cs : List Char) :
    Alike (segments (crlf cs)) ((segments cs).map Span.crlf) := by
  induction cs using segments_induction with
  | nil =>
    rw [crlf_nil, segments_nil]
    exact .refl []
  | lexeme p text rest ht hc ih =>
    rw [segments_lexeme ht hc, List.map_cons, crlf_append]
    by_cases hn : p = .newline
    · -- The carriage return is blank, and the newline stays.
      subst hn
      obtain rfl := Pattern.mem_newline.mp ht
      have hline : Alike [.lexeme .newline ['\n']] [.lexeme .newline ['\r', '\n']] := by
        refine Alike.of_layout ?_ ?_ rfl <;> intro q hq <;> rw [List.mem_singleton.mp hq]
        · exact Or.inr (Or.inl rfl)
        · exact Or.inr (Or.inl rfl)
      have hblank := alike_blanks (u := ['\r']) (by simp) ('\n' :: crlf rest)
      rw [segments_newline] at hblank
      exact hblank.trans (hline.append ih)
    · by_cases hcomment : p = .comment
      · subst hcomment
        obtain ⟨u, v, huv, hu, hv⟩ := exists_crlf_line_end hc
        rw [huv] at ih ⊢
        exact (alike_comment_blanks (mem_language_crlf hn ht) hu hv).trans (ih.cons _)
      · have hclosed := (hc.crlf hcomment).crlf_text ht hn
        rw [segments_lexeme (mem_language_crlf hn ht) hclosed]
        exact ih.cons _
  | unterminated cs hq =>
    have hquote : '"' ∉ crlf cs := by rwa [mem_crlf (by decide)]
    rw [segments_unterminated hq, crlf_cons (by decide), segments_unterminated hquote]
    exact .refl _
  | unexpected c cs ho ih =>
    have hc : c ≠ '\n' := Opening.ne_of_other ho (by decide)
    rw [segments_unexpected ho, crlf_cons hc, segments_unexpected ho]
    exact ih.cons _

/-! ### The tokens of the spans -/

/-- Only for newlines and strings does a return show in the text, and neither takes its kind from it. -/
theorem Pattern.kind?_crlf (ht : text ∈ p.language) : p.kind? (LoxLex.crlf text) = p.kind? text := by
  by_cases h : p = .newline ∨ p = .string
  · rcases h with rfl | rfl <;> rfl
  · rw [not_or] at h
    rw [crlf_of_notMem (newline_notMem ht h.1 h.2)]

theorem Pattern.literal_crlf (ht : text ∈ p.language) :
    p.literal (LoxLex.crlf text) = (p.literal text).crlf := by
  by_cases hs : p = .string
  · subst hs
    obtain ⟨body, rfl, -⟩ := mem_string.mp ht
    simp [crlf_string, literal, Literal.crlf]
  · have hid : (p.literal text).crlf = p.literal text := by
      cases p with
      | string => exact absurd rfl hs
      | _ => rfl
    rw [hid]
    by_cases hn : p = .newline
    · subst hn
      rfl
    · rw [crlf_of_notMem (newline_notMem ht hn hs)]

/-- The token of a span with carriage returns. -/
theorem Span.token?_crlf {q : Span} (h : ∀ p text, q = .lexeme p text → text ∈ Pattern.language p)
    (line : Nat) : q.crlf.token? line = (q.token? line).map Token.crlf := by
  cases q with
  | lexeme p text =>
    have ht := h p text rfl
    rw [show Span.crlf (.lexeme p text) = .lexeme p (LoxLex.crlf text) from rfl, token?_lexeme,
      token?_lexeme, Pattern.kind?_crlf ht, Pattern.literal_crlf ht, Option.map_map]
    refine Option.map_congr fun kind _ => ?_
    simp [Token.crlf]
  | _ => rfl

theorem Span.count_crlf (q : Span) : q.crlf.text.count '\n' = q.text.count '\n' := by
  cases q with
  | unexpected c => rfl
  | _ => exact LoxLex.count_crlf _

theorem tokensFrom_crlf {ps : List Span}
    (h : ∀ p text, .lexeme p text ∈ ps → text ∈ Pattern.language p) (line : Nat) :
    tokensFrom line (ps.map Span.crlf) = (tokensFrom line ps).map Token.crlf := by
  induction ps generalizing line with
  | nil => rfl
  | cons q ps ih =>
    have hq := Span.token?_crlf (q := q) fun p text e => h p text (e ▸ List.mem_cons_self)
    have hps := ih fun p text hmem => h p text (List.mem_cons_of_mem q hmem)
    rw [List.map_cons, tokensFrom_cons, tokensFrom_cons, Span.count_crlf, hq, hps, List.map_append]
    cases q.token? (line + q.text.count '\n') <;> rfl

theorem diagnosticsFrom_crlf (file : String) (line : Nat) (ps : List Span) :
    diagnosticsFrom file line (ps.map Span.crlf) = diagnosticsFrom file line ps := by
  induction ps generalizing line with
  | nil => rfl
  | cons q ps ih =>
    have hq : ∀ location, q.crlf.diagnostic? location = q.diagnostic? location := fun _ => by
      cases q <;> rfl
    rw [List.map_cons, diagnosticsFrom_cons, diagnosticsFrom_cons, Span.count_crlf, hq, ih]

/-- **It makes no difference how lines end**: with a carriage return before every newline a scan finds
the same tokens on the same lines, with the carriage returns in the texts of strings, and the same
diagnostics. -/
theorem scans_crlf (source : List Char) (file : String) :
    ∃ ts ds, Scans source file ts ds ∧ Scans (crlf source) file (ts.map Token.crlf) ds := by
  refine ⟨_, _, scans_of_eq (scanSource_eq source file), scans_of_eq ?_⟩
  have halike := alike_crlf source
  have htokens := tokensFrom_crlf (fun p text => mem_language_of_mem_segments source) 1
  rw [scanSource_eq, halike.tokens, halike.diagnostics, htokens, diagnosticsFrom_crlf, count_crlf,
    List.map_append]
  rfl

/-- Both lines of a string count, and the comment behind it takes its carriage return along. -/
example : scanSource (crlf ['"', '\n', '"', '/', '/', '\n', 'a']) "a.lox" =
    ⟨[⟨.string, "\"\r\n\"", .string "\r\n", 2⟩, ⟨.identifier, "a", .absent, 3⟩, .endOfInput 3], []⟩ := by
  decide

end LoxLex
