import LoxLex.Proofs.Run

/-!
# LoxLex.Proofs.MaximalMunch — the segmentation that the grammar asks for

`Segmentation cs ps` is the maximal munch of a text, said by the languages of the grammar alone: at
every place the longest text of any language is taken; where there is none, a quote takes the whole
rest and any other character stands alone.  `Denotes p text x` is the token that a lexeme is read as,
by the tables; `YieldsOn line x t` also places it, on the line on which its lexeme ends.

* `segmentation_iff`: the segments of the scanner are the only segmentation.
* `scan_maximalMunch`: the tokens of a scan are those of the segmentation, one for each lexeme that is
  not layout.
-/

namespace LoxLex

/-- `text` is at the head of `cs` and belongs to `p`, and no text there that belongs to any language is
longer.  No language has the empty text. -/
structure Longest (cs : List Char) (p : Pattern) (text : List Char) : Prop where
  head : text <+: cs
  mem : text ∈ p.language
  longest : ∀ q w, w <+: cs → w ∈ Pattern.language q → w.length ≤ text.length

/-- No text at the head of `cs` belongs to a language. -/
def Unmatched (cs : List Char) : Prop := ∀ p w, w <+: cs → w ∉ Pattern.language p

/-- The maximal munch of a text. -/
inductive Segmentation : List Char → List Span → Prop
  | nil : Segmentation [] []
  | lexeme {p : Pattern} {text rest : List Char} {ps : List Span}
      (taken : Longest (text ++ rest) p text) (more : Segmentation rest ps) :
      Segmentation (text ++ rest) (.lexeme p text :: ps)
  | unterminated {cs : List Char} (none : Unmatched ('"' :: cs)) :
      Segmentation ('"' :: cs) [.unterminated ('"' :: cs)]
  | unexpected {c : Char} {cs : List Char} {ps : List Span} (none : Unmatched (c :: cs))
      (quote : c ≠ '"') (more : Segmentation cs ps) :
      Segmentation (c :: cs) (.unexpected c :: ps)

variable {p q : Pattern} {c : Char} {cs text rest : List Char} {ps : List Span}

/-! ### The longest text -/

/-- A text belongs to one language at most. -/
theorem pattern_unique (hp : text ∈ p.language) (hq : text ∈ q.language) : p = q := by
  obtain ⟨c, w, rfl⟩ := List.exists_cons_of_ne_nil (Pattern.ne_nil_of_mem hp)
  have h := (Span.first_of_mem hp).symm.trans (Span.first_of_mem hq)
  cases h
  rfl

/-- What cannot be continued is the longest: a longer text of a language would be, up to the end of
`text`, both this lexeme and another one. -/
theorem longest_of_closed (ht : text ∈ p.language) (hc : p.Closed text rest) :
    Longest (text ++ rest) p text := by
  refine ⟨List.prefix_append text rest, ht, ?_⟩
  intro q w hw hq
  by_contra hlen
  have hlonger : text.length ≤ w.length := by omega
  obtain ⟨u, rfl⟩ := List.prefix_of_prefix_length_le (List.prefix_append text rest) hw hlonger
  obtain ⟨v, rfl⟩ := (List.prefix_append_right_inj text).mp hw
  obtain ⟨c, w, e⟩ := List.exists_cons_of_ne_nil (Pattern.ne_nil_of_mem hq)
  have h1 : Span.first c w = .lexeme p text := Span.first_of_closed ht hc.of_append e.symm
  have h2 : Span.first c w = .lexeme q (text ++ u) := by
    rw [e] at hq ⊢
    exact Span.first_of_mem hq
  obtain ⟨-, h⟩ := Span.lexeme.inj (h1.symm.trans h2)
  exact hlen (le_of_eq (congrArg List.length h.symm))

theorem Longest.unique {w : List Char} (h : Longest cs p text) (h' : Longest cs q w) :
    p = q ∧ text = w := by
  have hlen : text.length = w.length :=
    Nat.le_antisymm (h'.longest p text h.head h.mem) (h.longest q w h'.head h'.mem)
  have e : text = w := by
    rw [List.prefix_iff_eq_take.mp h.head, List.prefix_iff_eq_take.mp h'.head, hlen]
  subst e
  exact ⟨pattern_unique h.mem h'.mem, rfl⟩

theorem unmatched_of_other (ho : Opening.ofChar c = .other) : Unmatched (c :: cs) := by
  intro p w hw hp
  obtain ⟨d, w, rfl⟩ := List.exists_cons_of_ne_nil (Pattern.ne_nil_of_mem hp)
  obtain ⟨rfl, -⟩ := List.cons_prefix_cons.mp hw
  have h := (Span.first_unexpected ho).symm.trans (Span.first_of_mem hp)
  cases h

theorem unmatched_of_quote (hq : '"' ∉ cs) : Unmatched ('"' :: cs) := by
  intro p w hw hp
  obtain ⟨d, w, rfl⟩ := List.exists_cons_of_ne_nil (Pattern.ne_nil_of_mem hp)
  obtain ⟨rfl, hcs⟩ := List.cons_prefix_cons.mp hw
  have hno : '"' ∉ w := fun h => hq (hcs.subset h)
  have h := (Span.first_unterminated hno).symm.trans (Span.first_of_mem hp)
  cases h

/-! ### The only segmentation -/

theorem segmentation_segments (cs : List Char) : Segmentation cs (segments cs) := by
  induction cs using segments_induction with
  | nil =>
    rw [segments_nil]
    exact .nil
  | lexeme p text rest ht hc ih =>
    rw [segments_lexeme ht hc]
    exact .lexeme (longest_of_closed ht hc) ih
  | unterminated cs hq =>
    rw [segments_unterminated hq]
    exact .unterminated (unmatched_of_quote hq)
  | unexpected c cs ho ih =>
    rw [segments_unexpected ho]
    exact .unexpected (unmatched_of_other ho) (Opening.ne_of_other ho (by decide)) ih

/-- The longest text is the one that cannot be continued. -/
theorem Longest.closed (h : Longest (text ++ rest) p text) : p.Closed text rest := by
  obtain ⟨c, w, rfl⟩ := List.exists_cons_of_ne_nil (Pattern.ne_nil_of_mem h.mem)
  rcases Span.exists_closed c (w ++ rest) with ho | ⟨rfl, hq⟩ | ⟨q, v, more, e, hv, hc⟩
  · exact absurd h.mem (unmatched_of_other ho p _ h.head)
  · exact absurd h.mem (unmatched_of_quote hq p _ h.head)
  · have hl : Longest (c :: w ++ rest) q v := by
      rw [List.cons_append, e]
      exact longest_of_closed hv hc
    obtain ⟨rfl, rfl⟩ := h.unique hl
    obtain rfl : rest = more := List.append_cancel_left (List.cons.inj e).2
    exact hc

/-- Where no language has a text, a quote is never closed, and any other character opens nothing. -/
theorem Unmatched.cases (h : Unmatched (c :: cs)) :
    Opening.ofChar c = .other ∨ (c = '"' ∧ '"' ∉ cs) := by
  rcases Span.exists_closed c cs with ho | hq | ⟨p, text, rest, e, ht, -⟩
  · exact Or.inl ho
  · exact Or.inr hq
  · exact absurd ht (h p text (e ▸ List.prefix_append text rest))

/-- **The segments of a text are its maximal munch, and nothing else is.** -/
theorem segmentation_iff : Segmentation cs ps ↔ ps = segments cs := by
  refine ⟨fun h => ?_, fun h => h ▸ segmentation_segments cs⟩
  induction h with
  | nil => exact segments_nil.symm
  | lexeme taken more ih => rw [segments_lexeme taken.mem taken.closed, ih]
  | unterminated none =>
    rcases none.cases with ho | ⟨-, hq⟩
    · exact absurd ho (by decide)
    · exact (segments_unterminated hq).symm
  | unexpected none quote more ih =>
    rcases none.cases with ho | ⟨hc, -⟩
    · rw [segments_unexpected ho, ih]
    · exact absurd hc quote

/-! ### The tokens of the segmentation -/

/-- The token that a lexeme is read as. -/
inductive Denotes : Pattern → List Char → Content → Prop
  | punctuation {c : Char} {kind : TokenKind} (row : (c, kind) ∈ TokenKind.punctuation) :
      Denotes .punctuation [c] (kind, String.ofList [c], .absent)
  | slash : Denotes .slash ['/'] (.slash, "/", .absent)
  | alone {c : Char} {alone joined : TokenKind} (row : (c, alone, joined) ∈ TokenKind.operators) :
      Denotes .operator [c] (alone, String.ofList [c], .absent)
  | joined {c : Char} {alone joined : TokenKind} (row : (c, alone, joined) ∈ TokenKind.operators) :
      Denotes .operator [c, '='] (joined, String.ofList [c, '='], .absent)
  | string (body : List Char) :
      Denotes .string ('"' :: (body ++ ['"']))
        (.string, String.ofList ('"' :: (body ++ ['"'])), .string (String.ofList body))
  | number {text : List Char} {value : Double} (numeral : Double.ofText? text = some value) :
      Denotes .number text (.number, String.ofList text, .number value)
  | keyword {text : List Char} {kind : TokenKind}
      (row : (String.ofList text, kind) ∈ TokenKind.keywords) :
      Denotes .word text (kind, String.ofList text, .absent)
  | identifier {text : List Char} (rows : ∀ kind, (String.ofList text, kind) ∉ TokenKind.keywords) :
      Denotes .word text (.identifier, String.ofList text, .absent)

theorem ofWord_of_row {w : String} {kind : TokenKind} (h : (w, kind) ∈ TokenKind.keywords) :
    TokenKind.ofWord w = kind := by
  have table : ∀ row ∈ TokenKind.keywords, TokenKind.ofWord row.1 = row.2 := by decide
  exact table (w, kind) h

theorem ofWord_of_no_row {w : String} (h : ∀ kind, (w, kind) ∉ TokenKind.keywords) :
    TokenKind.ofWord w = .identifier := by
  unfold TokenKind.ofWord
  cases hk : TokenKind.keywords.lookup w with
  | none => rfl
  | some kind => exact absurd (Opening.mem_of_lookup hk) (h kind)

/-- The scanner's reading of a lexeme is the only token that it denotes. -/
theorem denotes_iff {x : Content} (ht : text ∈ p.language) :
    Denotes p text x ↔ (Span.lexeme p text).content? = some x := by
  constructor
  · intro h
    cases h with
    | punctuation row =>
      simp [Span.content?, Pattern.kind?, Pattern.literal, Opening.punctuation_lookup row]
    | slash => rfl
    | alone row =>
      simp [Span.content?, Pattern.kind?, Pattern.literal, Opening.operators_lookup row]
    | joined row =>
      simp [Span.content?, Pattern.kind?, Pattern.literal, Opening.operators_lookup row]
    | string body => simp [Span.content?, Pattern.kind?, Pattern.literal]
    | number numeral =>
      rw [Double.ofText?_number ht] at numeral
      cases numeral
      rfl
    | keyword row => simp [Span.content?, Pattern.kind?, Pattern.literal, ofWord_of_row row]
    | identifier rows => simp [Span.content?, Pattern.kind?, Pattern.literal, ofWord_of_no_row rows]
  · intro h
    cases p with
    | blank => cases h
    | newline => cases h
    | comment => cases h
    | punctuation =>
      obtain ⟨c, hc, rfl⟩ := Pattern.mem_punctuation.mp ht
      obtain ⟨kind, row⟩ := Opening.exists_punctuation hc
      simp only [Span.content?, Pattern.kind?, Opening.punctuation_lookup row, Option.map_some,
        Option.some.injEq] at h
      exact h ▸ .punctuation row
    | slash =>
      rw [Pattern.mem_slash.mp ht] at h ⊢
      cases h
      exact .slash
    | operator =>
      obtain ⟨c, hc, hw⟩ := Pattern.mem_operator.mp ht
      obtain ⟨alone, joined, row⟩ := Opening.exists_operator hc
      rcases hw with rfl | rfl
      · simp only [Span.content?, Pattern.kind?, Opening.operators_lookup row, Option.map_some,
          Option.some.injEq] at h
        exact h ▸ .alone row
      · simp only [Span.content?, Pattern.kind?, Opening.operators_lookup row, Option.map_some,
          Option.some.injEq] at h
        exact h ▸ .joined row
    | string =>
      obtain ⟨body, rfl, hbody⟩ := Pattern.mem_string.mp ht
      have hvalue :
          Pattern.literal .string ('"' :: (body ++ ['"'])) = .string (String.ofList body) := by
        simp [Pattern.literal]
      cases h
      rw [hvalue]
      exact .string body
    | number =>
      cases h
      exact .number (Double.ofText?_number ht)
    | word =>
      cases h
      by_cases row : ∃ kind, (String.ofList text, kind) ∈ TokenKind.keywords
      · obtain ⟨kind, row⟩ := row
        rw [ofWord_of_row row]
        exact .keyword row
      · have rows : ∀ kind, (String.ofList text, kind) ∉ TokenKind.keywords :=
          fun kind h => row ⟨kind, h⟩
        rw [ofWord_of_no_row rows]
        exact .identifier rows

/-- A lexeme that is not layout. -/
def Span.isToken : Span → Bool
  | .lexeme p _ => !decide p.IsLayout
  | .unterminated _ => false
  | .unexpected _ => false

/-- `t` is the token that the span `p` is read as. -/
def Yields (p : Span) (t : Token) : Prop :=
  ∃ q text, p = .lexeme q text ∧ Denotes q text t.content

/-- A lexeme other than layout gives its token, and no other span gives one. -/
theorem yields_token? {p : Span} (line : Nat)
    (h : ∀ q text, p = .lexeme q text → text ∈ Pattern.language q) :
    (p.isToken = true ∧ ∃ t, p.token? line = some t ∧ Yields p t) ∨
      (p.isToken = false ∧ p.token? line = none) := by
  cases p with
  | unterminated text => exact Or.inr ⟨rfl, rfl⟩
  | unexpected c => exact Or.inr ⟨rfl, rfl⟩
  | lexeme q text =>
    have ht := h q text rfl
    have hcontent := Span.content?_token? line (.lexeme q text)
    by_cases hlayout : q.IsLayout
    · rw [(Span.content?_eq_none_iff ht).mpr hlayout, Option.map_eq_none_iff] at hcontent
      exact Or.inr ⟨by simp [Span.isToken, hlayout], hcontent⟩
    · have hsome := mt (Span.content?_eq_none_iff ht).mp hlayout
      obtain ⟨x, hx⟩ := Option.ne_none_iff_exists'.mp hsome
      rw [hx, Option.map_eq_some_iff] at hcontent
      obtain ⟨t, hp, rfl⟩ := hcontent
      exact Or.inl ⟨by simp [Span.isToken, hlayout], t, hp, q, text, rfl, (denotes_iff ht).mpr hx⟩

/-- Spans, each with the text that stands before it; `before` stands before the first. -/
def spansAfter (before : List Char) : List Span → List (List Char × Span)
  | [] => []
  | p :: ps => (before, p) :: spansAfter (before ++ p.text) ps

theorem map_snd_spansAfter (before : List Char) (ps : List Span) :
    (spansAfter before ps).map (·.2) = ps := by
  induction ps generalizing before with
  | nil => rfl
  | cons p ps ih => rw [spansAfter, List.map_cons, ih]

/-- `t` is the token of a span, on the line on which the span ends; the source begins on `line`. -/
def YieldsOn (line : Nat) (x : List Char × Span) (t : Token) : Prop :=
  Yields x.2 t ∧ t.line = line + (x.1 ++ x.2.text).count '\n'

/-- Spans and their tokens, one to one and in order, each on its line. -/
theorem yieldsOn_tokensFrom (line : Nat) (before : List Char)
    (h : ∀ p text, .lexeme p text ∈ ps → text ∈ Pattern.language p) :
    List.Forall₂ (YieldsOn line) ((spansAfter before ps).filter (·.2.isToken))
      (tokensFrom (line + before.count '\n') ps) := by
  induction ps generalizing before with
  | nil => exact .nil
  | cons p ps ih =>
    have hps := ih (before ++ p.text) fun q w hw => h q w (List.mem_cons_of_mem p hw)
    have hp := yields_token? (line + (before ++ p.text).count '\n') fun q w e =>
      h q w (e ▸ List.mem_cons_self)
    rw [spansAfter, tokensFrom_cons, Nat.add_assoc, ← List.count_append]
    rcases hp with ⟨htoken, t, ht, hyields⟩ | ⟨hlayout, hnone⟩
    · rw [ht, List.filter_cons_of_pos (by simpa using htoken)]
      refine .cons ⟨hyields, ?_⟩ hps
      rw [Span.line_of_token? ht]
      push_cast
      rfl
    · rw [hnone, List.filter_cons_of_neg (by simpa using hlayout)]
      exact hps

/-- Spans and their tokens, one to one and in order. -/
theorem yields_tokensFrom (line : Nat)
    (h : ∀ p text, .lexeme p text ∈ ps → text ∈ Pattern.language p) :
    List.Forall₂ Yields (ps.filter (·.isToken)) (tokensFrom line ps) := by
  have hplaced := yieldsOn_tokensFrom line [] h
  have hspans : ps.filter (·.isToken) =
      ((spansAfter [] ps).filter (·.2.isToken)).map (·.2) := by
    conv_lhs => rw [← map_snd_spansAfter [] ps, List.filter_map]
    rfl
  rw [hspans, List.forall₂_map_left_iff]
  exact hplaced.imp fun x t hx => hx.1

/-- **A scan gives the tokens of the maximal munch**: there is exactly one segmentation of the source,
no character of which is lost, doubled or moved; its lexemes but for the layout are the tokens, each
read as it is written, and the end of input comes last. -/
theorem scan_maximalMunch (source : List Char) :
    ∃ ps ts, Segmentation source ps ∧ (∀ qs, Segmentation source qs → qs = ps) ∧
      (ps.map Span.text).flatten = source ∧
      (Scanner.new source Scanner.unnamed none).scan.1 = .ok (scan source).toArray ∧
      scan source = ts ++ [.endOfInput (1 + source.count '\n')] ∧
      List.Forall₂ Yields (ps.filter (·.isToken)) ts := by
  refine ⟨segments source, tokensFrom 1 (segments source), segmentation_segments source,
    fun qs h => segmentation_iff.mp h, flatten_segments source, scan_ok source Scanner.unnamed,
    scan_eq source, ?_⟩
  exact yields_tokensFrom 1 fun p text h => mem_language_of_mem_segments source h

end LoxLex
