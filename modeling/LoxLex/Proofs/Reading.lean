import LoxLex.Proofs.Numeral
import LoxLex.Proofs.Segments
import LoxLex.Proofs.StrayHelp
import LoxLex.Token.Basic

/-!
# LoxLex.Proofs.Reading — what the spans of a text give

A lexeme gives one token or, as layout, none; what is no lexeme gives one diagnostic.  `content?` and
`diagnostic?` say which, for one span.  `tokensFrom` and `diagnosticsFrom` gather them over a list of
spans, each on the line on which its span ends.  Both are additive (`_append`) and move with the line
on which the text begins (`_add`).
-/

namespace LoxLex

/-- A token without its line: kind, lexeme and value. -/
abbrev Content := TokenKind × String × Literal

/-- All of a token but its line. -/
def Token.content (t : Token) : Content := (t.kind, t.lexeme, t.literal)

/-- The token `k` lines further down. -/
def Token.below (k : Nat) (t : Token) : Token := { t with line := k + t.line }

namespace Diagnostic

/-- The diagnostic `k` lines further down. -/
def below (k : Nat) (d : Diagnostic) : Diagnostic :=
  { d with location := ⟨d.location.file, k + d.location.line⟩ }

end Diagnostic

namespace TokenKind

/-- The kinds that stand in no table. -/
def untabled : List TokenKind := [.string, .number, .endOfInput]

theorem ofWord_notMem (w : String) : ofWord w ∉ untabled := by
  have table : ∀ x ∈ keywords, x.2 ∉ untabled := by decide
  unfold ofWord
  cases hk : keywords.lookup w with
  | none => decide
  | some kind => exact table _ (Opening.mem_of_lookup hk)

end TokenKind

namespace Pattern

/-- The kind of the token that a lexeme of this sort gives, if it gives one. -/
def kind? : Pattern → List Char → Option TokenKind
  | .punctuation, [c] => TokenKind.punctuation.lookup c
  | .slash, _ => some .slash
  | .operator, [c] => (TokenKind.operators.lookup c).map (·.1)
  | .operator, [c, '='] => (TokenKind.operators.lookup c).map (·.2)
  | .string, _ => some .string
  | .number, _ => some .number
  | .word, text => some (TokenKind.ofWord (String.ofList text))
  | _, _ => none

/-- The value that a lexeme of this sort has: what stands between the quotes, or the number. -/
def literal : Pattern → List Char → Literal
  | .string, text => .string (String.ofList (text.drop 1).dropLast)
  | .number, text => .number (Double.ofNumeral text)
  | _, _ => .absent

/-- Blanks, newlines and comments are layout. -/
def IsLayout (p : Pattern) : Prop := p = .blank ∨ p = .newline ∨ p = .comment

instance (p : Pattern) : Decidable p.IsLayout :=
  inferInstanceAs (Decidable (p = .blank ∨ p = .newline ∨ p = .comment))

/-- **Layout gives no token, and every other lexeme gives one.** -/
theorem kind?_eq_none_iff {p : Pattern} {text : List Char} (h : text ∈ p.language) :
    p.kind? text = none ↔ p.IsLayout := by
  cases p with
  | blank => simp [kind?, IsLayout]
  | newline => simp [kind?, IsLayout]
  | comment => simp [kind?, IsLayout]
  | punctuation =>
    obtain ⟨c, hc, rfl⟩ := mem_punctuation.mp h
    obtain ⟨kind, hk⟩ := Opening.exists_punctuation hc
    simp [kind?, IsLayout, Opening.punctuation_lookup hk]
  | operator =>
    obtain ⟨c, hc, rfl | rfl⟩ := mem_operator.mp h
    all_goals
      obtain ⟨alone, joined, hk⟩ := Opening.exists_operator hc
      simp [kind?, IsLayout, Opening.operators_lookup hk]
  | slash => simp [kind?, IsLayout]
  | string => simp [kind?, IsLayout]
  | number => simp [kind?, IsLayout]
  | word => simp [kind?, IsLayout]

/-- **A table gives the kind, or it is the one of strings or of numbers.** -/
theorem kind?_cases {p : Pattern} {text : List Char} {kind : TokenKind} (h : p.kind? text = some kind) :
    kind ∉ TokenKind.untabled ∨ (p = .string ∧ kind = .string) ∨ (p = .number ∧ kind = .number) := by
  have hpunctuation : ∀ x ∈ TokenKind.punctuation, x.2 ∉ TokenKind.untabled := by decide
  have hoperators : ∀ x ∈ TokenKind.operators,
      x.2.1 ∉ TokenKind.untabled ∧ x.2.2 ∉ TokenKind.untabled := by decide
  unfold kind? at h
  split at h
  · exact Or.inl (hpunctuation _ (Opening.mem_of_lookup h))
  · cases h
    exact Or.inl (by decide)
  · obtain ⟨kinds, hk, rfl⟩ := Option.map_eq_some_iff.mp h
    exact Or.inl (hoperators _ (Opening.mem_of_lookup hk)).1
  · obtain ⟨kinds, hk, rfl⟩ := Option.map_eq_some_iff.mp h
    exact Or.inl (hoperators _ (Opening.mem_of_lookup hk)).2
  · cases h
    exact Or.inr (Or.inl ⟨rfl, rfl⟩)
  · cases h
    exact Or.inr (Or.inr ⟨rfl, rfl⟩)
  · cases h
    exact Or.inl (TokenKind.ofWord_notMem _)
  · cases h

/-- Only newlines and strings have newlines in them. -/
theorem newline_notMem {p : Pattern} {text : List Char} (h : text ∈ p.language)
    (hn : p ≠ .newline) (hs : p ≠ .string) : '\n' ∉ text := by
  have hdigits : ∀ w ∈ digits, '\n' ∉ w := fun w hw hmem =>
    absurd (isDigit_of_mem_digits hw _ hmem) (by decide)
  cases p with
  | blank =>
    obtain ⟨c, hc, rfl⟩ := mem_blank.mp h
    rw [List.mem_singleton]
    rintro rfl
    exact absurd hc (by decide)
  | newline => exact absurd rfl hn
  | comment =>
    obtain ⟨body, rfl, hbody⟩ := mem_comment.mp h
    simpa using hbody
  | punctuation =>
    obtain ⟨c, hc, rfl⟩ := mem_punctuation.mp h
    rw [List.mem_singleton]
    rintro rfl
    exact absurd hc (by decide)
  | slash => rw [mem_slash.mp h]; decide
  | operator =>
    obtain ⟨c, hc, ht⟩ := mem_operator.mp h
    have hne : c ≠ '\n' := by
      rintro rfl
      exact absurd hc (by decide)
    rcases ht with rfl | rfl <;> simpa using hne.symm
  | string => exact absurd rfl hs
  | number =>
    obtain ⟨whole, hw, rfl | ⟨fraction, hf, rfl⟩⟩ := mem_number.mp h
    · exact hdigits _ hw
    · simpa using ⟨hdigits _ hw, hdigits _ hf⟩
  | word =>
    obtain ⟨c, cs, rfl, hc, hcs⟩ := mem_word.mp h
    intro hmem
    rcases List.mem_cons.mp hmem with rfl | hmem
    · exact absurd hc (by decide)
    · exact absurd (hcs _ hmem) (by decide)

end Pattern

namespace Span

/-- The token of a span, but for its line. -/
def content? : Span → Option Content
  | .lexeme p text => (p.kind? text).map fun kind => (kind, String.ofList text, p.literal text)
  | .unterminated _ => none
  | .unexpected _ => none

/-- The token of a span that ends on a line. -/
def token? (line : Nat) (p : Span) : Option Token :=
  p.content?.map fun (kind, spelling, literal) => ⟨kind, spelling, literal, line⟩

/-- What is wrong with a span that ends at a location. -/
def diagnostic? (location : Location) : Span → Option Diagnostic
  | .lexeme _ _ => none
  | .unterminated _ => some (.unterminated location)
  | .unexpected c => some (.stray c location)

/-- Among the lexemes, layout is what gives no token. -/
theorem content?_eq_none_iff {p : Pattern} {text : List Char} (h : text ∈ p.language) :
    (Span.lexeme p text).content? = none ↔ p.IsLayout :=
  Option.map_eq_none_iff.trans (Pattern.kind?_eq_none_iff h)

theorem token?_lexeme (line : Nat) (p : Pattern) (text : List Char) :
    (lexeme p text).token? line =
      (p.kind? text).map fun kind => ⟨kind, String.ofList text, p.literal text, line⟩ :=
  Option.map_map _ _ _

theorem content?_token? (line : Nat) (p : Span) :
    (p.token? line).map Token.content = p.content? := by
  unfold token?
  cases p.content? <;> rfl

theorem token?_add (k line : Nat) (p : Span) :
    p.token? (k + line) = (p.token? line).map (Token.below k) := by
  unfold token?
  cases p.content? <;> simp [Token.below]

theorem diagnostic?_add (file : String) (k line : Nat) (p : Span) :
    p.diagnostic? ⟨file, ((k + line : Nat) : Int)⟩ =
      (p.diagnostic? ⟨file, line⟩).map (Diagnostic.below k) := by
  cases p <;> simp [diagnostic?, Diagnostic.below, Diagnostic.stray, Diagnostic.unterminated,
    Diagnostic.error]

/-- A span with a diagnostic has no token. -/
theorem token?_eq_none {p : Span} {location : Location} {d : Diagnostic}
    (h : p.diagnostic? location = some d) (line : Nat) : p.token? line = none := by
  cases p with
  | lexeme q text => cases h
  | unterminated text => rfl
  | unexpected c => rfl

theorem location_of_diagnostic? {p : Span} {location : Location} {d : Diagnostic}
    (h : p.diagnostic? location = some d) : d.location = location := by
  cases p with
  | lexeme q text => cases h
  | unterminated text =>
    cases h
    rfl
  | unexpected c =>
    cases h
    rfl

theorem line_of_token? {p : Span} {line : Nat} {t : Token} (h : p.token? line = some t) :
    t.line = line := by
  obtain ⟨x, -, rfl⟩ := Option.map_eq_some_iff.mp h
  rfl

end Span

/-! ### Over a list of spans -/

/-- Spans with the line on which each ends, where the first begins on a line. -/
def placed : Nat → List Span → List (Nat × Span)
  | _, [] => []
  | line, p :: ps =>
    (line + p.text.count '\n', p) :: placed (line + p.text.count '\n') ps

/-- The tokens of spans. -/
def tokensFrom (line : Nat) (ps : List Span) : List Token :=
  (placed line ps).filterMap fun (n, p) => p.token? n

/-- The diagnostics of spans. -/
def diagnosticsFrom (file : String) (line : Nat) (ps : List Span) : List Diagnostic :=
  (placed line ps).filterMap fun (n, p) => p.diagnostic? ⟨file, n⟩

/-- The text that spans spell. -/
def spelled (ps : List Span) : List Char := (ps.map Span.text).flatten

@[simp] theorem spelled_nil : spelled [] = [] := rfl

@[simp] theorem spelled_cons (p : Span) (ps : List Span) :
    spelled (p :: ps) = p.text ++ spelled ps := rfl

@[simp] theorem spelled_append (ps qs : List Span) :
    spelled (ps ++ qs) = spelled ps ++ spelled qs := by
  simp [spelled]

@[simp] theorem spelled_segments (cs : List Char) : spelled (segments cs) = cs := flatten_segments cs

theorem placed_append (line : Nat) (ps qs : List Span) :
    placed line (ps ++ qs) = placed line ps ++ placed (line + (spelled ps).count '\n') qs := by
  induction ps generalizing line with
  | nil => simp [placed]
  | cons p ps ih => simp [placed, ih, Nat.add_assoc]

theorem placed_add (k line : Nat) (ps : List Span) :
    placed (k + line) ps = (placed line ps).map fun (n, p) => (k + n, p) := by
  induction ps generalizing line with
  | nil => rfl
  | cons p ps ih => simp [placed, ih, Nat.add_assoc]

variable (file : String) (k line : Nat) (p : Span) (ps qs : List Span)

@[simp] theorem tokensFrom_nil : tokensFrom line [] = [] := rfl

@[simp] theorem diagnosticsFrom_nil : diagnosticsFrom file line [] = [] := rfl

theorem tokensFrom_append : tokensFrom line (ps ++ qs) =
    tokensFrom line ps ++ tokensFrom (line + (spelled ps).count '\n') qs := by
  simp [tokensFrom, placed_append]

theorem diagnosticsFrom_append : diagnosticsFrom file line (ps ++ qs) =
    diagnosticsFrom file line ps ++ diagnosticsFrom file (line + (spelled ps).count '\n') qs := by
  simp [diagnosticsFrom, placed_append]

theorem tokensFrom_cons : tokensFrom line (p :: ps) =
    (p.token? (line + p.text.count '\n')).toList ++ tokensFrom (line + p.text.count '\n') ps := by
  unfold tokensFrom
  rw [placed, List.filterMap_cons]
  dsimp only
  cases p.token? (line + p.text.count '\n') <;> rfl

theorem diagnosticsFrom_cons : diagnosticsFrom file line (p :: ps) =
    (p.diagnostic? ⟨file, ((line + p.text.count '\n' : Nat) : Int)⟩).toList ++
      diagnosticsFrom file (line + p.text.count '\n') ps := by
  unfold diagnosticsFrom
  rw [placed, List.filterMap_cons]
  dsimp only
  cases p.diagnostic? ⟨file, ((line + p.text.count '\n' : Nat) : Int)⟩ <;> rfl

/-- Lexemes have no diagnostics. -/
theorem diagnosticsFrom_eq_nil (h : ∀ p ∈ ps, ∃ q text, p = .lexeme q text) :
    diagnosticsFrom file line ps = [] := by
  induction ps generalizing line with
  | nil => rfl
  | cons p ps ih =>
    obtain ⟨⟨q, text, rfl⟩, hps⟩ := List.forall_mem_cons.mp h
    rw [diagnosticsFrom_cons, ih _ hps]
    rfl

/-- The code of a string without end stands for such a span. -/
theorem exists_unterminated_iff :
    (∃ d ∈ diagnosticsFrom file line ps, d.code = some "L002") ↔ ∃ w, .unterminated w ∈ ps := by
  induction ps generalizing line with
  | nil => simp
  | cons p ps ih =>
    have hp : (∃ d ∈ (p.diagnostic? ⟨file, ((line + p.text.count '\n' : Nat) : Int)⟩).toList,
        d.code = some "L002") ↔ ∃ w, p = .unterminated w := by
      cases p <;> simp [Span.diagnostic?, Diagnostic.unterminated, Diagnostic.stray, Diagnostic.error]
    have hps := ih (line + p.text.count '\n')
    rw [diagnosticsFrom_cons]
    simp only [List.mem_append, or_and_right, exists_or, hp, hps, List.mem_cons]
    refine or_congr ⟨?_, ?_⟩ Iff.rfl
    · rintro ⟨w, rfl⟩
      exact ⟨w, rfl⟩
    · rintro ⟨w, h⟩
      exact ⟨w, h.symm⟩

/-- Tokens keep their places to one another when the text begins further down. -/
theorem tokensFrom_add : tokensFrom (k + line) ps = (tokensFrom line ps).map (Token.below k) := by
  unfold tokensFrom
  rw [placed_add, List.filterMap_map, List.map_filterMap]
  exact List.filterMap_congr fun _ _ => Span.token?_add k _ _

theorem diagnosticsFrom_add : diagnosticsFrom file (k + line) ps =
    (diagnosticsFrom file line ps).map (Diagnostic.below k) := by
  unfold diagnosticsFrom
  rw [placed_add, List.filterMap_map, List.map_filterMap]
  exact List.filterMap_congr fun _ _ => Span.diagnostic?_add file k _ _

/-- But for the lines, a list of spans gives the contents of its spans. -/
theorem map_content_tokensFrom :
    (tokensFrom line ps).map Token.content = ps.filterMap Span.content? := by
  induction ps generalizing line with
  | nil => rfl
  | cons p ps ih =>
    rw [tokensFrom_cons, List.map_append, ih, List.filterMap_cons,
      ← Span.content?_token? (line + p.text.count '\n') p]
    cases p.token? (line + p.text.count '\n') <;> rfl

/-- Every token is that of a lexeme. -/
theorem exists_lexeme_of_mem {line : Nat} {ps : List Span} {t : Token} (h : t ∈ tokensFrom line ps) :
    ∃ p text, .lexeme p text ∈ ps ∧ p.kind? text = some t.kind ∧ t.lexeme = String.ofList text ∧
      t.literal = p.literal text := by
  have hcontent := List.mem_map_of_mem (f := Token.content) h
  rw [map_content_tokensFrom, List.mem_filterMap] at hcontent
  obtain ⟨q, hq, hcontent⟩ := hcontent
  cases q with
  | lexeme p text =>
    obtain ⟨kind, hkind, htoken⟩ := Option.map_eq_some_iff.mp hcontent
    obtain ⟨rfl, hlexeme, hliteral⟩ :
        kind = t.kind ∧ String.ofList text = t.lexeme ∧ p.literal text = t.literal := by
      simpa [Token.content] using htoken
    exact ⟨p, text, hq, hkind, hlexeme.symm, hliteral.symm⟩
  | _ => cases hcontent

end LoxLex
