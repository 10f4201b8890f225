import LoxLex.Proofs.Run

/-!
# LoxLex.Proofs.Checked — a scan that asks whether each step applies

The rules of the scanner say by whole texts how far they go.  Here they go character by character, read
the source by positions, and look up the tables, and every step that may not apply is asked whether it
does: a position may have no character, a table no row, the bounds of a slice may cross, a lexeme may
be no plain numeral, and a code point is that of one character only.  A step that does not apply is a
`Misstep` and ends everything.  The loops over characters have no budget; each ends because a step
leaves less to read.

* `Checked.peek_eq`, `Checked.peekNext_eq`, `Checked.nextIs_eq`: a look is never a misstep, wherever the
  cursor stands.
* `Checked.scanLexeme_eq`: before the end of the source a turn is not either, and is the scanner's turn.
-/

namespace LoxLex

/-- A step that does not apply. -/
inductive Misstep where
  | position (n : Nat)
  | row (c : Char)
  | bounds (first last : Nat)
  | numeral (text : String)
  | codePoint (error : NotOneCharacter)

namespace Checked

theorem ok_bind {α β : Type} (a : α) (f : α → Except Misstep β) : (Except.ok a >>= f) = f a := rfl

/-! ### The moves of the cursor -/

/-- The character at a position. -/
def charAt (n : Nat) (s : Scanner) : Except Misstep Char :=
  match s.source[n]? with
  | some c => .ok c
  | none => .error (.position n)

/-- The next character, which is passed over. -/
def advance (s : Scanner) : Except Misstep (Char × Scanner) := do
  let s := s.skip 1
  let c ← charAt (s.current - 1) s
  return (c, s)

/-- The next character. -/
def peek (s : Scanner) : Except Misstep Char :=
  if s.source.length ≤ s.current then .ok Scanner.sentinel else charAt s.current s

/-- The character after the next. -/
def peekNext (s : Scanner) : Except Misstep Char :=
  if s.source.length ≤ s.current + 1 then .ok Scanner.sentinel else charAt (s.current + 1) s

/-- Is the next character the expected text? If so it is passed over. -/
def nextIs (expected : String) (s : Scanner) : Except Misstep (Bool × Scanner) := do
  if s.source.length ≤ s.current then return (false, s)
  let c ← charAt s.current s
  return if expected.toList = [c] then (true, s.skip 1) else (false, s)

variable {s t : Scanner} {c : Char} {cs : List Char}

theorem charAt_eq {n : Nat} (h : s.source[n]? = some c) : charAt n s = .ok c := by
  unfold charAt
  rw [h]

theorem source_eq_of_rest (h : s.rest = c :: cs) : s.source[s.current]? = some c := by
  have hhead := congrArg List.head? h
  rw [Scanner.rest, List.head?_drop] at hhead
  exact hhead

theorem current_lt_of_rest (h : s.rest = c :: cs) : s.current < s.source.length := by
  have hlen := congrArg List.length h
  rw [Scanner.rest, List.length_drop, List.length_cons] at hlen
  omega

theorem length_le_of_rest (h : s.rest = []) : s.source.length ≤ s.current :=
  List.drop_eq_nil_iff.mp h

/-- Before the end, the next character can be had. -/
theorem advance_eq (h : s.rest = c :: cs) : advance s = .ok (c, s.skip 1) := by
  have hc : charAt ((s.skip 1).current - 1) (s.skip 1) = .ok c := charAt_eq (source_eq_of_rest h)
  unfold advance
  dsimp only
  rw [hc]
  rfl

theorem advance_nil (h : s.rest = []) : advance s = .error (.position s.current) := by
  have hnone : s.source[s.current]? = none := List.getElem?_eq_none (length_le_of_rest h)
  have hc : charAt ((s.skip 1).current - 1) (s.skip 1) = .error (.position s.current) := by
    unfold charAt
    rw [show (s.skip 1).source[(s.skip 1).current - 1]? = none from hnone]
    rfl
  unfold advance
  dsimp only
  rw [hc]
  rfl

/-- A look never leaves the source, wherever the cursor stands. -/
theorem peek_eq (s : Scanner) : peek s = .ok s.peek := by
  unfold peek Scanner.peek
  cases h : s.rest with
  | nil => rw [if_pos (length_le_of_rest h), List.headD_nil]
  | cons c cs =>
    rw [if_neg (Nat.not_le.mpr (current_lt_of_rest h)), charAt_eq (source_eq_of_rest h)]
    rfl

theorem peekNext_eq (s : Scanner) : peekNext s = .ok s.peekNext := by
  have h := peek_eq (s.skip 1)
  unfold Scanner.peekNext
  rw [Scanner.rest, List.drop_drop]
  exact h

theorem nextIs_eq (expected : String) (s : Scanner) :
    nextIs expected s = .ok (s.nextIs expected) := by
  unfold nextIs Scanner.nextIs
  cases h : s.rest with
  | nil =>
    rw [if_pos (length_le_of_rest h)]
    rfl
  | cons c cs =>
    rw [if_neg (Nat.not_le.mpr (current_lt_of_rest h)), charAt_eq (source_eq_of_rest h)]
    rfl

/-! ### Loops over characters -/

/-- If line ends are counted, counts the one that comes next, if one does. -/
def countLine (counting : Bool) (s : Scanner) : Except Misstep Scanner :=
  if counting then do return if (← peek s) = '\n' then { s with line := s.line + 1 } else s
  else .ok s

/-- One character on. -/
def step (counting : Bool) (s : Scanner) : Except Misstep Scanner := do
  let s ← countLine counting s
  let (_, s) ← advance s
  return s

theorem exists_countLine (counting : Bool) (s : Scanner) :
    ∃ u, countLine counting s = .ok u ∧ u.rest = s.rest := by
  unfold countLine
  cases counting with
  | false => exact ⟨s, rfl, rfl⟩
  | true =>
    rw [if_pos rfl, peek_eq]
    by_cases hc : s.peek = '\n'
    · exact ⟨_, congrArg Except.ok (if_pos hc), rfl⟩
    · exact ⟨_, congrArg Except.ok (if_neg hc), rfl⟩

theorem countLine_cons (h : s.rest = c :: cs) {counting : Bool}
    (hline : counting = true ∨ c ≠ '\n') :
    countLine counting s = .ok { s with line := s.line + [c].count '\n' } := by
  unfold countLine
  by_cases hc : c = '\n'
  · rw [if_pos (hline.resolve_right (not_not.mpr hc)), peek_eq, Scanner.peek, h]
    subst hc
    rfl
  · rw [List.count_eq_zero.mpr (by simpa using Ne.symm hc), peek_eq, Scanner.peek, h]
    cases counting with
    | false => rfl
    | true => exact congrArg Except.ok (if_neg hc)

theorem step_cons (h : s.rest = c :: cs) {counting : Bool} (hline : counting = true ∨ c ≠ '\n') :
    step counting s = .ok (s.read [c]) := by
  unfold step
  rw [countLine_cons h hline]
  show (do let (_, s) ← advance { s with line := s.line + [c].count '\n' }; return s) = _
  rw [advance_eq (s := { s with line := s.line + [c].count '\n' }) h]
  rfl

/-- A step leaves less to read. -/
theorem length_rest_step {counting : Bool} (h : step counting s = .ok t) :
    t.rest.length < s.rest.length := by
  obtain ⟨u, hu, hrest⟩ := exists_countLine counting s
  unfold step at h
  rw [hu] at h
  replace h : (do let (_, s) ← advance u; return s) = Except.ok t := h
  cases hr : u.rest with
  | nil =>
    rw [advance_nil hr] at h
    cases h
  | cons c cs =>
    rw [advance_eq hr] at h
    cases h
    rw [← hrest, hr, Scanner.rest_skip_one hr, List.length_cons]
    exact Nat.lt_succ_self _

/-- Goes on as long as the test holds. -/
def advanceWhile (counting : Bool) (test : Scanner → Except Misstep Bool) (s : Scanner) :
    Except Misstep Scanner :=
  match test s with
  | .error e => .error e
  | .ok false => .ok s
  | .ok true =>
    match _h : step counting s with
    | .error e => .error e
    | .ok t => advanceWhile counting test t
termination_by s.rest.length
decreasing_by exact length_rest_step _h

/-- A loop over the characters of a class passes over the run of them, and stops there. -/
theorem advanceWhile_eq {counting : Bool} {test : Scanner → Except Misstep Bool} {p : Char → Bool}
    (htest : ∀ s, test s = .ok (s.rest.head?.any p)) (hline : counting = true ∨ p '\n' = false)
    (s : Scanner) : advanceWhile counting test s = .ok (s.read (s.rest.takeWhile p)) := by
  induction hr : s.rest generalizing s with
  | nil =>
    rw [advanceWhile, htest, hr]
    rfl
  | cons c cs ih =>
    rw [advanceWhile, htest, hr, List.head?_cons, Option.any_some]
    cases hc : p c with
    | false =>
      rw [List.takeWhile_cons_of_neg (by simp [hc])]
      rfl
    | true =>
      have hcount : counting = true ∨ c ≠ '\n' := hline.imp id fun hn e => by
        rw [e, hn] at hc
        cases hc
      have hrest : (s.read [c]).rest = cs := Scanner.rest_read hr
      rw [List.takeWhile_cons_of_pos hc, step_cons hr hcount]
      dsimp only
      rw [ih _ hrest, Scanner.read_append]
      rfl

theorem advanceWhile_eq_skip {test : Scanner → Except Misstep Bool} {p : Char → Bool}
    (htest : ∀ s, test s = .ok (s.rest.head?.any p)) (hline : p '\n' = false) (s : Scanner) :
    advanceWhile false test s = .ok (s.skip (s.rest.takeWhile p).length) := by
  have hn : '\n' ∉ s.rest.takeWhile p := fun h => by
    rw [List.mem_takeWhile_imp h] at hline
    cases hline
  rw [advanceWhile_eq htest (Or.inr hline), Scanner.skip_eq_read hn]

/-- Is the next character of the class? -/
def isNext (p : Char → Bool) (s : Scanner) : Except Misstep Bool := do
  return p (← peek s)

/-- Is there a next character, and another one than `stop`? -/
def isBefore (stop : Char) (s : Scanner) : Except Misstep Bool := do
  return (← peek s) ≠ stop && !s.isAtEnd

/-- At the end the stand-in is asked, which belongs to no class. -/
theorem isNext_eq {p : Char → Bool} (hp : p Scanner.sentinel = false) (s : Scanner) :
    isNext p s = .ok (s.rest.head?.any p) := by
  unfold isNext
  rw [peek_eq, Scanner.peek]
  cases s.rest with
  | nil => exact congrArg Except.ok hp
  | cons c cs => rfl

theorem isBefore_eq (stop : Char) (s : Scanner) :
    isBefore stop s = .ok (s.rest.head?.any (· ≠ stop)) := by
  unfold isBefore
  rw [peek_eq, Scanner.peek, Scanner.isAtEnd]
  cases s.rest with
  | nil => exact congrArg Except.ok (Bool.and_false _)
  | cons c cs => exact congrArg Except.ok (Bool.and_true _)

/-! ### The rules -/

/-- A part of the source, if its bounds stand in order. -/
def slice (first last : Nat) (s : Scanner) : Except Misstep String :=
  if first ≤ last ∧ last ≤ s.source.length then .ok (s.slice first last)
  else .error (.bounds first last)

/-- The row of a character in a table. -/
def row {α : Type} (table : List (Char × α)) (c : Char) : Except Misstep α :=
  match table.lookup c with
  | some a => .ok a
  | none => .error (.row c)

/-- Reads a string whose opening quote has been passed. -/
def string (s : Scanner) : Except Misstep (Except Fault Unit × Scanner) := do
  let s ← advanceWhile true (isBefore '"') s
  if s.isAtEnd then return (.error (.lexical (.unterminated s.location)), s)
  let (_, s) ← advance s
  let value ← slice (s.start + 1) (s.current - 1) s
  return (.ok (), s.addToken .string (.string value))

/-- Passes over digits, and over a point and digits if a digit follows the point. -/
def passNumeral (s : Scanner) : Except Misstep Scanner := do
  let s ← advanceWhile false (isNext isDigit) s
  if (← peek s) = '.' then
    if isDigit (← peekNext s) then
      let (_, s) ← advance s
      return ← advanceWhile false (isNext isDigit) s
  return s

/-- Reads the rest of a number. The lexeme has to be a plain numeral, and to have a value. -/
def number (s : Scanner) : Except Misstep (Except Fault Unit × Scanner) := do
  let s ← passNumeral s
  if s.lexeme.toList ∈ Pattern.number.language then
    match Double.ofText? s.lexeme.toList with
    | some value => return (.ok (), s.addToken .number (.number value))
    | none => throw (.numeral s.lexeme)
  else throw (.numeral s.lexeme)

/-- Reads the rest of a word. -/
def word (s : Scanner) : Except Misstep (Except Fault Unit × Scanner) := do
  let s ← advanceWhile false (isNext isWordChar) s
  return (.ok (), s.addToken (TokenKind.ofWord s.lexeme) .absent)

/-- Goes on from a slash. -/
def slash (s : Scanner) : Except Misstep (Except Fault Unit × Scanner) := do
  let (second, s) ← nextIs "/" s
  if second then
    let s ← advanceWhile false (isBefore '\n') s
    return (.ok (), s)
  return (.ok (), s.addToken .slash .absent)

/-- Goes on from an operator. -/
def operator (c : Char) (s : Scanner) : Except Misstep (Except Fault Unit × Scanner) := do
  let (alone, joined) ← row TokenKind.operators c
  let (equal, s) ← nextIs "=" s
  return (.ok (), s.addToken (if equal then joined else alone) .absent)

/-- Refuses a character that opens no lexeme. -/
def unexpected (c : Char) (s : Scanner) : Except Misstep (Except Fault Unit × Scanner) :=
  match Diagnostic.unexpected [c] s.location with
  | .ok d => .ok (.error (.lexical d), s)
  | .error e => .error (.codePoint e)

/-- Goes on from the first character of a lexeme, by its class. -/
def continueFrom (c : Char) (s : Scanner) : Except Misstep (Except Fault Unit × Scanner) :=
  match CharClass.ofChar c with
  | .punctuation => do
    let kind ← row TokenKind.punctuation c
    return (.ok (), s.addToken kind .absent)
  | .operator => operator c s
  | .slash => slash s
  | .blank => .ok (.ok (), s)
  | .newline => .ok (.ok (), { s with line := s.line + 1 })
  | .quote => string s
  | .digit => number s
  | .letter => word s
  | .other => unexpected c s

/-- Reads one lexeme. -/
def scanToken (s : Scanner) : Except Misstep (Except Fault Unit × Scanner) := do
  let (c, s) ← advance s
  continueFrom c s

/-- Reads the next lexeme and records a lexical error in it. -/
def scanLexeme (s : Scanner) : Except Misstep (Except Fault Unit × Scanner) := do
  match ← scanToken s.mark with
  | (.error (.lexical d), s) => return s.record d
  | answer => return answer

/-! ### No rule has a misstep -/

theorem row_eq {α : Type} {table : List (Char × α)} {a : α} (h : table.lookup c = some a) :
    row table c = .ok a := by
  unfold row
  rw [h]

/-- The quote that opens a string stands in front of it, so that the bounds of its value do not cross. -/
theorem string_eq (h : s.start < s.current) : string s = .ok s.string := by
  have hloop := advanceWhile_eq (isBefore_eq '"') (Or.inl rfl) s
  rw [Scanner.string_eq]
  dsimp only
  unfold string
  rw [hloop, ok_bind]
  set t := s.read (s.rest.takeWhile (· ≠ '"')) with ht
  cases hr : t.rest with
  | nil =>
    have hend : t.isAtEnd = true := by rw [Scanner.isAtEnd, hr]; rfl
    rw [if_pos hend, if_pos hend]
    rfl
  | cons c cs =>
    have hend : ¬ t.isAtEnd = true := by simp [Scanner.isAtEnd, hr]
    -- The value ends before the closing quote, behind which the cursor now stands.
    have hlast : (t.skip 1).current - 1 = t.current := rfl
    have hcurrent : s.current ≤ t.current := Nat.le_add_right _ _
    have hbounds : (t.skip 1).start + 1 ≤ (t.skip 1).current - 1 ∧
        (t.skip 1).current - 1 ≤ (t.skip 1).source.length := by
      rw [hlast]
      exact ⟨Nat.le_trans h hcurrent, Nat.le_of_lt (current_lt_of_rest hr)⟩
    rw [if_neg hend, if_neg hend, advance_eq hr]
    show (do let value ← slice _ _ (t.skip 1); return _) = _
    rw [slice, if_pos hbounds]
    rfl

/-- Where no quote stands in front, the bounds do cross. -/
example : string (.new ['"'] "a.lox" none) = .error (.bounds 1 0) := by cbv

theorem digits_eq (s : Scanner) : advanceWhile false (isNext isDigit) s =
    .ok (s.skip (s.rest.takeWhile isDigit).length) :=
  advanceWhile_eq_skip (isNext_eq (by decide)) (by decide) s

theorem passNumeral_eq (s : Scanner) : passNumeral s = .ok (s.skip (numberLength s.rest)) := by
  unfold passNumeral numberLength
  rw [digits_eq, ok_bind]
  set n := (s.rest.takeWhile isDigit).length with hn
  have hrest : s.rest.drop n = (s.skip n).rest := List.drop_drop
  dsimp only
  rw [hrest, peek_eq, ok_bind, Scanner.peek]
  cases hr : (s.skip n).rest with
  | nil => rfl
  | cons c cs =>
    rw [List.headD_cons]
    -- Only a point is looked behind, and only if a digit follows it is it passed over.
    by_cases hc : c = '.'
    · subst hc
      rw [if_pos rfl, peekNext_eq, ok_bind, Scanner.peekNext, hr, List.drop_one, List.tail_cons]
      cases cs with
      | nil => rfl
      | cons d ds =>
        rw [List.headD_cons]
        by_cases hd : isDigit d = true
        · have hmore : ((s.skip n).skip 1).rest = d :: ds := Scanner.rest_skip_one hr
          rw [if_pos hd, advance_eq hr]
          show (do let s ← advanceWhile false (isNext isDigit) ((s.skip n).skip 1); return s) = _
          rw [digits_eq, hmore, Scanner.skip_skip, Scanner.skip_skip, ← Nat.add_assoc]
          simp only [hd, if_true]
        · rw [if_neg hd]
          simp only [hd, Bool.false_eq_true, if_false]
          rfl
    · rw [if_neg hc]
      split
      · next h => exact absurd (List.cons.inj h).1 hc
      · rfl

theorem word_eq (s : Scanner) : word s = .ok (.ok (), s.word) := by
  unfold word
  rw [advanceWhile_eq_skip (isNext_eq (by decide)) (by decide)]
  rfl

theorem slash_eq (s : Scanner) : slash s = .ok (.ok (), s.slash) := by
  unfold slash Scanner.slash
  rw [nextIs_eq, ok_bind]
  cases s.nextIs "/" with
  | mk second t =>
    cases second with
    | false => rfl
    | true =>
      dsimp only
      rw [if_pos rfl, advanceWhile_eq_skip (isBefore_eq '\n') (by decide)]
      rfl

theorem operator_eq {alone joined : TokenKind} (h : (c, alone, joined) ∈ TokenKind.operators)
    (s : Scanner) : operator c s = .ok (.ok (), s.operator alone joined) := by
  unfold operator Scanner.operator
  rw [row_eq (Opening.operators_lookup h), ok_bind]
  dsimp only
  rw [nextIs_eq, ok_bind]
  cases s.nextIs "=" with
  | mk equal t => cases equal <;> rfl

theorem unexpected_eq (c : Char) (s : Scanner) : unexpected c s = .ok (s.unexpected c) := by
  unfold unexpected Scanner.unexpected
  rw [Diagnostic.unexpected_singleton]

/-- Behind a digit, the lexeme becomes a plain numeral. -/
theorem number_eq (h : s.rest = c :: cs) (hc : isDigit c = true) :
    number (s.mark.skip 1) = .ok (s.mark.skip 1).number := by
  obtain ⟨text, more, e, ht, hclosed⟩ := Span.exists_number cs hc
  obtain ⟨d, ds, rfl⟩ := List.exists_cons_of_ne_nil (Pattern.ne_nil_of_mem ht)
  obtain ⟨rfl, rfl⟩ := List.cons.inj e
  have hn := Pattern.newline_notMem ht (by decide) (by decide)
  have hnext : (s.mark.skip 1).skip (numberLength (s.mark.skip 1).rest) = s.pass (c :: ds) := by
    rw [Scanner.rest_mark_skip h]
    exact (congrArg (Scanner.skip · (s.mark.skip 1))
      (Scanner.numberLength_of_closed ht hclosed)).trans (Scanner.skip_mark_skip hn s)
  have hlexeme : (s.pass (c :: ds)).lexeme.toList = c :: ds := by
    rw [Scanner.lexeme_pass (h.trans e), String.toList_ofList]
  unfold number Scanner.number
  rw [passNumeral_eq, ok_bind]
  dsimp only
  rw [hnext, hlexeme, if_pos ht, Double.ofText?_number ht]
  rfl

/-- Without a digit in front the lexeme may be none. -/
example : number (.new ['x'] "a.lox" none) = .error (.numeral "") := by cbv

theorem continueFrom_eq (h : s.rest = c :: cs) :
    continueFrom c (s.mark.skip 1) = .ok ((s.mark.skip 1).continueFrom c) := by
  have hfits := Opening.fits_ofChar c
  unfold continueFrom Scanner.continueFrom CharClass.ofChar
  cases ho : Opening.ofChar c with
  | punctuation kind =>
    rw [ho] at hfits
    show (do let kind ← row TokenKind.punctuation c; return _) = _
    rw [row_eq (Opening.punctuation_lookup hfits)]
    rfl
  | operator alone joined =>
    rw [ho] at hfits
    exact operator_eq hfits _
  | blank => rfl
  | newline => rfl
  | slash => exact slash_eq _
  | quote => exact string_eq (Nat.lt_succ_self _)
  | digit =>
    rw [ho] at hfits
    exact number_eq h hfits
  | letter => exact word_eq _
  | other => exact unexpected_eq c _

/-- **Before the end of the source a turn has no misstep**, and is the scanner's turn. -/
theorem scanLexeme_eq (h : s.rest = c :: cs) : scanLexeme s = .ok s.scanLexeme := by
  have htoken : scanToken s.mark = .ok s.mark.scanToken := by
    unfold scanToken
    rw [advance_eq (s := s.mark) h, ok_bind]
    dsimp only
    rw [continueFrom_eq h, Scanner.scanToken_mark h]
  unfold scanLexeme Scanner.scanLexeme
  rw [htoken, ok_bind]
  cases s.mark.scanToken with
  | mk answer t =>
    cases answer with
    | ok => rfl
    | error fault => cases fault <;> rfl

end Checked

end LoxLex
