import LoxLex.Proofs.Reading
import LoxLex.Scanner.Scan

/-!
# LoxLex.Proofs.Step — one turn of the scanner

`Scanner.absorb p` is what a span does to a scanner: the span becomes the present lexeme, its newlines
count, and its token or its diagnostic is added.  `Scanner.scanLexeme_eq`: one turn of the scanner
absorbs the span at the head of what is still to be read.  Every rule is opened here, once, and said
by the text that it reads.
-/

namespace LoxLex

namespace Scanner

/-- Passes over a text and counts its newlines. -/
def read (text : List Char) (s : Scanner) : Scanner :=
  { s with current := s.current + text.length, line := s.line + text.count '\n' }

/-- Passes over a text, which becomes the present lexeme. -/
def pass (text : List Char) (s : Scanner) : Scanner := s.mark.read text

/-- What a span does to a scanner that stands before it. -/
def absorb (p : Span) (s : Scanner) : Except Fault Unit × Scanner :=
  let s := s.pass p.text
  match p.diagnostic? s.location, p.token? s.line with
  | some d, _ => s.record d
  | none, some t => (.ok (), { s with tokens := s.tokens.push t })
  | none, none => (.ok (), s)

variable {s : Scanner} {text more : List Char}

@[simp] theorem rest_mark (s : Scanner) : s.mark.rest = s.rest := rfl

theorem rest_skip (h : s.rest = text ++ more) : (s.skip text.length).rest = more := by
  show s.source.drop (s.current + text.length) = more
  rw [← List.drop_drop, show s.source.drop s.current = text ++ more from h, List.drop_left]

theorem rest_skip_one {c : Char} {cs : List Char} (h : s.rest = c :: cs) :
    (s.skip 1).rest = cs := by
  have e : s.rest = [c] ++ cs := h
  exact rest_skip e

theorem rest_read (h : s.rest = text ++ more) : (s.read text).rest = more := rest_skip h

theorem read_append (a b : List Char) (s : Scanner) : (s.read a).read b = s.read (a ++ b) := by
  simp [read, Nat.add_assoc]

/-- Without newlines, only the position moves. -/
theorem skip_eq_read (h : '\n' ∉ text) (s : Scanner) : s.skip text.length = s.read text := by
  simp [read, skip, List.count_eq_zero.mpr h]

theorem skip_one_eq_read {c : Char} (h : c ≠ '\n') (s : Scanner) : s.skip 1 = s.read [c] := by
  have hn : '\n' ∉ [c] := by simpa using h.symm
  exact skip_eq_read hn s

/-- A part of what is still to be read, as a slice of the source. -/
theorem slice_eq (h : s.rest = text ++ more) {first last : Nat} (hf : first = s.current)
    (hl : last = s.current + text.length) : s.slice first last = String.ofList text := by
  subst hf hl
  unfold slice
  rw [show s.source.drop s.current = text ++ more from h, Nat.add_sub_cancel_left, List.take_left]

/-- The text passed over is the lexeme. -/
theorem lexeme_pass (h : s.rest = text ++ more) : (s.pass text).lexeme = String.ofList text :=
  slice_eq h rfl rfl

/-! ### Absorbing a span -/

theorem absorb_token {p : Pattern} {kind : TokenKind} (h : s.rest = text ++ more)
    (hk : p.kind? text = some kind) :
    s.absorb (.lexeme p text) = (.ok (), (s.pass text).addToken kind (p.literal text)) := by
  simp [absorb, Span.diagnostic?, Span.token?, Span.content?, hk, Span.text, addToken,
    lexeme_pass h]

theorem absorb_layout {p : Pattern} (hk : p.kind? text = none) :
    s.absorb (.lexeme p text) = (.ok (), s.pass text) := by
  simp [absorb, Span.diagnostic?, Span.token?, Span.content?, hk, Span.text]

/-- A lexeme is never a fault. -/
theorem exists_absorb_lexeme (h : s.rest = text ++ more) (p : Pattern) :
    ∃ t, s.absorb (.lexeme p text) = (.ok (), t) := by
  cases hk : p.kind? text with
  | none => exact ⟨_, absorb_layout hk⟩
  | some kind => exact ⟨_, absorb_token h hk⟩

/-- A token without newlines. -/
theorem absorb_inline {p : Pattern} {kind : TokenKind} (h : s.rest = text ++ more)
    (hk : p.kind? text = some kind) (hn : '\n' ∉ text) :
    s.absorb (.lexeme p text) =
      (.ok (), (s.mark.skip text.length).addToken kind (p.literal text)) := by
  rw [absorb_token h hk, pass, skip_eq_read hn]

theorem absorb_unterminated : s.absorb (.unterminated text) =
    (s.pass text).record (.unterminated (s.pass text).location) := rfl

theorem absorb_unexpected {c : Char} : s.absorb (.unexpected c) =
    (s.pass [c]).record (.stray c (s.pass [c]).location) := rfl

/-! ### The rules, by the text they read -/

theorem nextIs_of_head {c : Char} {e : String} (he : e.toList = [c]) (h : s.rest = c :: more) :
    s.nextIs e = (true, s.skip 1) := by
  simp [nextIs, h, he]

theorem nextIs_of_stops {c : Char} {e : String} (he : e.toList = [c])
    (h : Stops (· = c) s.rest) : s.nextIs e = (false, s) := by
  unfold nextIs
  split
  · next d rest hr =>
    rw [hr, Stops.cons_iff] at h
    simp [he, Ne.symm h]
  · rfl

/-- The string rule, by the text that it passes over. -/
theorem string_eq (s : Scanner) : s.string =
    let t := s.read (s.rest.takeWhile (· ≠ '"'))
    if t.isAtEnd then (.error (.lexical (.unterminated t.location)), t)
    else (.ok (), (t.skip 1).addToken .string
      (.string (s.slice (s.start + 1) ((t.skip 1).current - 1)))) := rfl

/-- A string with its closing quote. -/
theorem string_closed {body : List Char} (h : s.rest = body ++ '"' :: more) (hbody : '"' ∉ body) :
    s.string = (.ok (), (s.read (body ++ ['"'])).addToken .string
      (.string (s.slice (s.start + 1) (s.current + body.length)))) := by
  have htake : (body ++ '"' :: more).takeWhile (· ≠ '"') = body :=
    Stops.takeWhile_ne_append hbody (by simp)
  have hrest : (s.read body).rest = '"' :: more := rest_read h
  have hend : (s.read body).isAtEnd = false := by simp [isAtEnd, hrest]
  have hskip : (s.read body).skip 1 = s.read (body ++ ['"']) := by
    rw [skip_one_eq_read (c := '"') (by decide), read_append]
  have hlast : (s.read (body ++ ['"'])).current - 1 = s.current + body.length := by
    simp [read]
  rw [string_eq, h, htake]
  simp only [hend, hskip, hlast, Bool.false_eq_true, if_false]

/-- A string that runs off the end. -/
theorem string_open (h : '"' ∉ s.rest) :
    s.string = (.error (.lexical (.unterminated (s.read s.rest).location)), s.read s.rest) := by
  have htake : s.rest.takeWhile (· ≠ '"') = s.rest := by
    rw [List.takeWhile_eq_self_iff]
    intro c hc
    exact decide_eq_true fun e => h (e ▸ hc)
  have hend : (s.read s.rest).isAtEnd = true := by
    have hrest : (s.read s.rest).rest = [] := rest_read (List.append_nil _).symm
    simp [isAtEnd, hrest]
  rw [string_eq, htake]
  simp only [hend, if_true]

/-! ### One turn -/

theorem scanToken_mark {c : Char} {cs : List Char} (h : s.rest = c :: cs) :
    s.mark.scanToken = (s.mark.skip 1).continueFrom c := by
  unfold scanToken advance
  rw [rest_mark, h]

/-- Behind the first character of a text, the rest of the text is next. -/
theorem rest_mark_skip {c : Char} {cs : List Char} (h : s.rest = c :: cs) :
    (s.mark.skip 1).rest = cs :=
  rest_skip_one (s := s.mark) h

theorem skip_skip (m n : Nat) (s : Scanner) : (s.skip m).skip n = s.skip (m + n) := by
  simp [skip, Nat.add_assoc]

/-- Marking, passing over the first character and then over the others is passing over all. -/
theorem read_mark_skip {c : Char} (h : c ≠ '\n') (cs : List Char) (s : Scanner) :
    (s.mark.skip 1).read cs = s.pass (c :: cs) := by
  rw [skip_one_eq_read h, read_append]
  rfl

theorem skip_mark_skip {c : Char} {cs : List Char} (h : '\n' ∉ c :: cs) (s : Scanner) :
    (s.mark.skip 1).skip cs.length = s.pass (c :: cs) := by
  rw [List.mem_cons, not_or] at h
  rw [skip_eq_read h.2, read_mark_skip (Ne.symm h.1)]

theorem scanToken_blank (h : s.rest = text ++ more) (ht : text ∈ Pattern.blank.language) :
    s.mark.scanToken = s.absorb (.lexeme .blank text) := by
  have hn := Pattern.newline_notMem ht (by decide) (by decide)
  obtain ⟨c, hmem, rfl⟩ := Pattern.mem_blank.mp ht
  rw [scanToken_mark h, absorb_layout rfl, pass, ← skip_eq_read hn]
  simp [continueFrom, Opening.ofChar_of_blank hmem]

theorem scanToken_comment (h : s.rest = text ++ more) (ht : text ∈ Pattern.comment.language)
    (hc : Pattern.comment.Closed text more) :
    s.mark.scanToken = s.absorb (.lexeme .comment text) := by
  have hn := Pattern.newline_notMem ht (by decide) (by decide)
  obtain ⟨body, rfl, hbody⟩ := Pattern.mem_comment.mp ht
  have h1 : (s.mark.skip 1).rest = '/' :: (body ++ more) := rest_mark_skip h
  have h2 : ((s.mark.skip 1).skip 1).rest = body ++ more := rest_skip_one h1
  rw [scanToken_mark h, absorb_layout rfl, pass, ← skip_eq_read hn]
  show (Except.ok (), (s.mark.skip 1).slash) = _
  unfold slash
  rw [nextIs_of_head rfl h1]
  dsimp only
  rw [h2, commentLength_append hbody hc, skip_skip, skip_skip]
  simp [Nat.add_comm]

theorem scanToken_punctuation (h : s.rest = text ++ more)
    (ht : text ∈ Pattern.punctuation.language) :
    s.mark.scanToken = s.absorb (.lexeme .punctuation text) := by
  have hn := Pattern.newline_notMem ht (by decide) (by decide)
  obtain ⟨c, hmem, rfl⟩ := Pattern.mem_punctuation.mp ht
  obtain ⟨kind, hk⟩ := Opening.exists_punctuation hmem
  have ho : Opening.ofChar c = .punctuation kind := Opening.ofChar_of_fits hk
  have hkind : Pattern.kind? .punctuation [c] = some kind := Opening.punctuation_lookup hk
  rw [scanToken_mark h, absorb_inline h hkind hn]
  simp [continueFrom, ho, Pattern.literal]

theorem scanToken_slash (h : s.rest = text ++ more) (ht : text ∈ Pattern.slash.language)
    (hc : Pattern.slash.Closed text more) :
    s.mark.scanToken = s.absorb (.lexeme .slash text) := by
  rw [Pattern.mem_slash.mp ht] at h ⊢
  have h1 : (s.mark.skip 1).rest = more := rest_mark_skip h
  have hstop : Stops (· = '/') (s.mark.skip 1).rest := h1 ▸ hc
  rw [scanToken_mark h, absorb_inline h rfl (by decide)]
  show (Except.ok (), (s.mark.skip 1).slash) = _
  unfold slash
  rw [nextIs_of_stops rfl hstop]
  rfl

theorem scanToken_operator (h : s.rest = text ++ more) (ht : text ∈ Pattern.operator.language)
    (hc : Pattern.operator.Closed text more) :
    s.mark.scanToken = s.absorb (.lexeme .operator text) := by
  have hn := Pattern.newline_notMem ht (by decide) (by decide)
  obtain ⟨c, hmem, ht'⟩ := Pattern.mem_operator.mp ht
  obtain ⟨alone, joined, hk⟩ := Opening.exists_operator hmem
  have ho : Opening.ofChar c = .operator alone joined := Opening.ofChar_of_fits hk
  have hlook := Opening.operators_lookup hk
  rcases ht' with rfl | rfl
  · have h1 : (s.mark.skip 1).rest = more := rest_mark_skip h
    have hstop : Stops (· = '=') (s.mark.skip 1).rest := h1 ▸ hc rfl
    have hkind : Pattern.kind? .operator [c] = some alone := by simp [Pattern.kind?, hlook]
    have hnext : (s.mark.skip 1).nextIs "=" = (false, s.mark.skip 1) := nextIs_of_stops rfl hstop
    rw [scanToken_mark h, absorb_inline h hkind hn]
    simp [continueFrom, ho, operator, hnext, Pattern.literal]
  · have h1 : (s.mark.skip 1).rest = '=' :: more := rest_mark_skip h
    have hkind : Pattern.kind? .operator [c, '='] = some joined := by simp [Pattern.kind?, hlook]
    have hnext : (s.mark.skip 1).nextIs "=" = (true, s.mark.skip 2) := nextIs_of_head rfl h1
    rw [scanToken_mark h, absorb_inline h hkind hn]
    simp [continueFrom, ho, operator, hnext, Pattern.literal]

theorem scanToken_string (h : s.rest = text ++ more) (ht : text ∈ Pattern.string.language) :
    s.mark.scanToken = s.absorb (.lexeme .string text) := by
  obtain ⟨body, rfl, hbody⟩ := Pattern.mem_string.mp ht
  have h1 : (s.mark.skip 1).rest = body ++ '"' :: more := by
    refine rest_mark_skip (c := '"') (h.trans ?_)
    simp
  have hvalue : s.slice (s.current + 1) (s.current + 1 + body.length) = String.ofList body :=
    slice_eq h1 rfl rfl
  have hpass : (s.mark.skip 1).read (body ++ ['"']) = s.pass ('"' :: (body ++ ['"'])) :=
    read_mark_skip (by decide) _ s
  have hbetween :
      Pattern.literal .string ('"' :: (body ++ ['"'])) = .string (String.ofList body) := by
    simp [Pattern.literal]
  rw [scanToken_mark h, absorb_token h rfl, hbetween, ← hvalue, ← hpass]
  exact string_closed h1 hbody

theorem numberLength_of_closed {c : Char} {cs : List Char}
    (ht : c :: cs ∈ Pattern.number.language) (hc : Pattern.number.Closed (c :: cs) more) :
    numberLength (cs ++ more) = cs.length := by
  obtain ⟨whole, hw, ht'⟩ := Pattern.mem_number.mp ht
  obtain ⟨d, ds, rfl, -, hds⟩ := Pattern.mem_digits.mp hw
  rcases ht' with ht' | ⟨fraction, hf, ht'⟩
  · obtain ⟨rfl, rfl⟩ := List.cons.inj ht'
    have hpoint : '.' ∉ c :: cs := fun h =>
      absurd (Pattern.isDigit_of_mem_digits hw _ h) (by decide)
    exact numberLength_whole hds hc.1 (hc.2 hpoint)
  · obtain ⟨rfl, rfl⟩ := List.cons.inj ht'
    have hlen := numberLength_fraction hds hf hc.1
    simp only [List.append_assoc, List.cons_append, List.append_eq, hlen, List.length_append,
      List.length_cons]
    omega

theorem scanToken_number (h : s.rest = text ++ more) (ht : text ∈ Pattern.number.language)
    (hc : Pattern.number.Closed text more) :
    s.mark.scanToken = s.absorb (.lexeme .number text) := by
  have hn := Pattern.newline_notMem ht (by decide) (by decide)
  obtain ⟨c, cs, rfl⟩ := List.exists_cons_of_ne_nil (Pattern.ne_nil_of_mem ht)
  have ho : Opening.ofChar c = .digit := Opening.ofChar_of_fits (Pattern.isDigit_of_mem_number ht)
  have h1 : (s.mark.skip 1).rest = cs ++ more := rest_mark_skip h
  have hlexeme := lexeme_pass h
  have hread : (s.mark.skip 1).number =
      (.ok (), (s.pass (c :: cs)).addToken .number (.number (Double.ofNumeral (c :: cs)))) := by
    unfold number
    rw [h1, numberLength_of_closed ht hc, skip_mark_skip hn]
    simp only [hlexeme, String.toList_ofList, Double.ofText?_number ht]
  rw [scanToken_mark h, absorb_token h rfl]
  simp [continueFrom, ho, hread, Pattern.literal]

theorem scanToken_word (h : s.rest = text ++ more) (ht : text ∈ Pattern.word.language)
    (hc : Pattern.word.Closed text more) :
    s.mark.scanToken = s.absorb (.lexeme .word text) := by
  have hn := Pattern.newline_notMem ht (by decide) (by decide)
  obtain ⟨c, cs, rfl, hl, hcs⟩ := Pattern.mem_word.mp ht
  have ho : Opening.ofChar c = .letter := Opening.ofChar_of_fits hl
  have h1 : (s.mark.skip 1).rest = cs ++ more := rest_mark_skip h
  have hlexeme := lexeme_pass h
  have hread : (s.mark.skip 1).word = (s.pass (c :: cs)).addToken
      (TokenKind.ofWord (String.ofList (c :: cs))) .absent := by
    unfold word
    rw [h1, wordLength_append hcs hc, skip_mark_skip hn]
    dsimp only
    rw [hlexeme]
  rw [scanToken_mark h, absorb_token h rfl]
  simp [continueFrom, ho, hread, Pattern.literal]

/-- **A lexeme at the head of what is still to be read is absorbed.** -/
theorem scanToken_lexeme {p : Pattern} (h : s.rest = text ++ more) (ht : text ∈ p.language)
    (hc : p.Closed text more) : s.mark.scanToken = s.absorb (.lexeme p text) := by
  cases p with
  | blank => exact scanToken_blank h ht
  | newline =>
    rw [Pattern.mem_newline.mp ht] at h ⊢
    rw [scanToken_mark h, absorb_layout rfl]
    rfl
  | comment => exact scanToken_comment h ht hc
  | punctuation => exact scanToken_punctuation h ht
  | slash => exact scanToken_slash h ht hc
  | operator => exact scanToken_operator h ht hc
  | string => exact scanToken_string h ht
  | number => exact scanToken_number h ht hc
  | word => exact scanToken_word h ht hc

/-- A string without end stops the scanner behind the whole rest. -/
theorem scanToken_unterminated (h : s.rest = '"' :: more) (hq : '"' ∉ more) :
    s.mark.scanToken = (.error (.lexical (.unterminated (s.pass ('"' :: more)).location)),
      s.pass ('"' :: more)) := by
  have h1 : (s.mark.skip 1).rest = more := rest_mark_skip h
  have hpass : (s.mark.skip 1).read more = s.pass ('"' :: more) :=
    read_mark_skip (by decide) more s
  have hopen := string_open (s := s.mark.skip 1) (h1.symm ▸ hq)
  rw [h1, hpass] at hopen
  rw [scanToken_mark h]
  exact hopen

theorem scanToken_unexpected {c : Char} (h : s.rest = c :: more)
    (ho : Opening.ofChar c = .other) :
    s.mark.scanToken = (.error (.lexical (.stray c (s.pass [c]).location)), s.pass [c]) := by
  have hne : c ≠ '\n' := Opening.ne_of_other ho (by decide)
  have hpass : s.mark.skip 1 = s.pass [c] :=
    skip_one_eq_read hne s.mark
  rw [scanToken_mark h, hpass]
  simp [continueFrom, ho, unexpected, Diagnostic.unexpected_singleton]

/-- **One turn absorbs the span at the head of what is still to be read.** -/
theorem scanLexeme_eq {c : Char} {cs : List Char} (h : s.rest = c :: cs) :
    s.scanLexeme = s.absorb (Span.first c cs) := by
  unfold scanLexeme
  rcases Span.first_cases c cs with ⟨ho, hf⟩ | ⟨rfl, hq, hf⟩ | ⟨p, text, more, e, ht, hc, hf⟩ <;>
    rw [hf]
  · rw [scanToken_unexpected h ho, absorb_unexpected]
  · rw [scanToken_unterminated h hq, absorb_unterminated]
  · rw [scanToken_lexeme (h.trans e) ht hc]
    obtain ⟨t, ha⟩ := exists_absorb_lexeme (h.trans e) p
    rw [ha]

end Scanner

end LoxLex
