import LoxLex.Proofs.Opening
import LoxLex.Scanner.Rules
import Mathlib.Data.List.TakeWhile

/-!
# LoxLex.Proofs.Span — the span at the head of a text

`Span.first c cs` is what the scanner takes from the text `c :: cs` in one turn, as a function of that
text alone.  `Pattern.Closed p text rest` says that `rest` cannot continue the lexeme `text`; it looks
at two characters of `rest` at most.

* `Span.first_of_closed`: a text of a language before a rest that cannot continue it is taken whole.
* `Span.exists_closed`: every text begins with such a lexeme, or else with a character that opens
  nothing or a quote that is never closed.
* `Span.first_cases`: the two together.  Statements about what stands beside a lexeme are proved from
  them, with no rule of the scanner opened again.
-/

namespace LoxLex

/-- A piece of a source: a text of one of the languages, the rest of a source behind a quote that is
never closed, or a character that begins nothing. -/
inductive Span where
  | lexeme (pattern : Pattern) (text : List Char)
  | unterminated (text : List Char)
  | unexpected (c : Char)
deriving DecidableEq

/-- `rest` does not go on with a character of the class. -/
def Stops (p : Char → Prop) (rest : List Char) : Prop := ∀ c ∈ rest.head?, ¬ p c

namespace Stops

variable {p : Char → Prop} {rest : List Char}

@[simp] theorem nil : Stops p [] := by simp [Stops]

@[simp] theorem cons_iff {c : Char} : Stops p (c :: rest) ↔ ¬ p c := by simp [Stops]

theorem of_append {u v : List Char} (h : Stops p (u ++ v)) : Stops p u := by
  cases u with
  | nil => exact nil
  | cons c u => simpa using h

theorem append {u : List Char} (h : Stops p u) (hne : u ≠ []) (v : List Char) : Stops p (u ++ v) := by
  obtain ⟨c, u, rfl⟩ := List.exists_cons_of_ne_nil hne
  simpa using h

/-- What `dropWhile` leaves. -/
theorem dropWhile (q : Char → Bool) (cs : List Char) : Stops (q · = true) (cs.dropWhile q) := by
  intro c hc
  have h := List.head?_dropWhile_not q cs
  rw [Option.mem_def.mp hc] at h
  simpa using h

/-- A run that stops is all that `takeWhile` takes. -/
theorem takeWhile_append {q : Char → Bool} {body : List Char} (inside : ∀ c ∈ body, q c = true)
    (h : Stops (q · = true) rest) : (body ++ rest).takeWhile q = body := by
  rw [List.takeWhile_append_of_pos inside]
  cases rest with
  | nil => simp
  | cons c rest => simp [cons_iff.mp h]

theorem dropWhile_append {q : Char → Bool} {body : List Char} (inside : ∀ c ∈ body, q c = true)
    (h : Stops (q · = true) rest) : (body ++ rest).dropWhile q = rest := by
  have e := List.takeWhile_append_dropWhile (p := q) (l := body ++ rest)
  rw [h.takeWhile_append inside] at e
  exact List.append_cancel_left e

/-- The same for a run without a character `q`, up to the first `q`. -/
theorem takeWhile_ne_append {q : Char} {body : List Char} (inside : q ∉ body)
    (h : Stops (· ≠ q) rest) : (body ++ rest).takeWhile (· ≠ q) = body := by
  have hstop : Stops (fun d => decide (d ≠ q) = true) rest := by simpa [Stops] using h
  refine hstop.takeWhile_append fun d hd => decide_eq_true ?_
  rintro rfl
  exact inside hd

end Stops

/-! ### The lengths of comments, words and numbers -/

theorem commentLength_append {body rest : List Char} (inside : '\n' ∉ body)
    (stop : Stops (· ≠ '\n') rest) : commentLength (body ++ rest) = body.length := by
  unfold commentLength
  rw [stop.takeWhile_ne_append inside]

theorem wordLength_append {body rest : List Char} (inside : ∀ c ∈ body, isWordChar c = true)
    (stop : Stops (isWordChar · = true) rest) : wordLength (body ++ rest) = body.length := by
  unfold wordLength
  rw [stop.takeWhile_append inside]

theorem numberLength_whole {ds rest : List Char} (inside : ∀ c ∈ ds, isDigit c = true)
    (stop : Stops (isDigit · = true) rest)
    (point : ∀ d cs, rest = '.' :: d :: cs → isDigit d = false) :
    numberLength (ds ++ rest) = ds.length := by
  unfold numberLength
  rw [stop.takeWhile_append inside]
  simp only [List.drop_left]
  split
  · next d more => simp [point d more rfl]
  · rfl

theorem numberLength_fraction {ds fraction rest : List Char} (inside : ∀ c ∈ ds, isDigit c = true)
    (hf : fraction ∈ Pattern.digits) (stop : Stops (isDigit · = true) rest) :
    numberLength (ds ++ '.' :: (fraction ++ rest)) = ds.length + 1 + fraction.length := by
  obtain ⟨d, more, rfl, hd, -⟩ := Pattern.mem_digits.mp hf
  have hpoint : Stops (isDigit · = true) ('.' :: (d :: more ++ rest)) :=
    Stops.cons_iff.mpr (by decide)
  have htake := stop.takeWhile_append (Pattern.isDigit_of_mem_digits hf)
  rw [List.cons_append] at htake
  unfold numberLength
  rw [hpoint.takeWhile_append inside]
  simp only [List.drop_left, List.cons_append, hd, if_true, htake]

/-- The characters that may continue a lexeme other than a comment. -/
def Joins (c : Char) : Prop := c = '/' ∨ c = '=' ∨ c = '.' ∨ isWordChar c = true

instance (c : Char) : Decidable (Joins c) :=
  inferInstanceAs (Decidable (c = '/' ∨ c = '=' ∨ c = '.' ∨ isWordChar c = true))

namespace Pattern

/-- `rest` cannot continue the text of a lexeme of this sort. -/
def Closed : Pattern → List Char → List Char → Prop
  | .comment, _, rest => Stops (· ≠ '\n') rest
  | .slash, _, rest => Stops (· = '/') rest
  | .operator, text, rest => text.length = 1 → Stops (· = '=') rest
  | .number, text, rest => Stops (isDigit · = true) rest ∧
      ('.' ∉ text → ∀ d cs, rest = '.' :: d :: cs → isDigit d = false)
  | .word, _, rest => Stops (isWordChar · = true) rest
  | _, _, _ => True

/-- What a rest cannot continue, a beginning of that rest cannot continue either. -/
theorem Closed.of_append {p : Pattern} {text u v : List Char} (h : p.Closed text (u ++ v)) :
    p.Closed text u := by
  cases p with
  | comment => exact Stops.of_append h
  | slash => exact Stops.of_append h
  | operator => exact fun ht => Stops.of_append (h ht)
  | number =>
    refine ⟨h.1.of_append, fun hp d cs hcs => ?_⟩
    exact h.2 hp d (cs ++ v) (by rw [hcs]; rfl)
  | word => exact Stops.of_append h
  | _ => trivial

theorem closed_nil (p : Pattern) (text : List Char) : p.Closed text [] := by
  cases p with
  | number => exact ⟨Stops.nil, fun _ _ _ h => by cases h⟩
  | operator => exact fun _ => Stops.nil
  | comment => exact Stops.nil
  | slash => exact Stops.nil
  | word => exact Stops.nil
  | _ => trivial

/-- All else closes every lexeme but a comment. -/
theorem closed_of_stops {p : Pattern} {b : List Char} (hp : p ≠ .comment) (h : Stops Joins b)
    (text : List Char) : p.Closed text b := by
  have hstop : ∀ q : Char → Prop, (∀ c, q c → Joins c) → Stops q b :=
    fun q hq c hc hj => h c hc (hq c hj)
  cases p with
  | comment => exact absurd rfl hp
  | slash => exact hstop _ fun c hc => Or.inl hc
  | operator => exact fun _ => hstop _ fun c hc => Or.inr (Or.inl hc)
  | number =>
    refine ⟨hstop _ fun c hc => ?_, ?_⟩
    · exact Or.inr (Or.inr (Or.inr (Opening.isWordChar_of_isDigit hc)))
    · rintro - d cs rfl
      exact absurd (Or.inr (Or.inr (Or.inl rfl))) (h '.' rfl)
  | word => exact hstop _ fun c hc => Or.inr (Or.inr (Or.inr hc))
  | _ => trivial

/-- A lexeme other than a comment is closed before a new rest as it was before the old one, if the new rest
goes on with nothing new: with no run that the old one did not go on with, and none behind a point. -/
theorem Closed.transfer {p : Pattern} {text rest more : List Char} (h : p.Closed text rest)
    (hp : p ≠ .comment)
    (hstop : ∀ q : Char → Prop, (∀ c, q c → Joins c) → Stops q rest → Stops q more)
    (hpoint : ∀ ds, more = '.' :: ds → ∃ cs, rest = '.' :: cs ∧
      (Stops (isDigit · = true) cs → Stops (isDigit · = true) ds)) : p.Closed text more := by
  have hdigit : ∀ c, isDigit c = true → Joins c := fun c hd =>
    Or.inr (Or.inr (Or.inr (Opening.isWordChar_of_isDigit hd)))
  cases p with
  | comment => exact absurd rfl hp
  | slash => exact hstop _ (fun c hj => Or.inl hj) h
  | operator => exact fun ht => hstop _ (fun c hj => Or.inr (Or.inl hj)) (h ht)
  | number =>
    refine ⟨hstop _ hdigit h.1, fun hno d ds hmore => ?_⟩
    obtain ⟨cs, hrest, hbehind⟩ := hpoint (d :: ds) hmore
    have hcs : Stops (isDigit · = true) cs := by
      intro c hc hd
      obtain ⟨cs, rfl⟩ := List.head?_eq_some_iff.mp hc
      exact absurd (h.2 hno c cs hrest) (by simp [hd])
    exact Bool.eq_false_iff.mpr (Stops.cons_iff.mp (hbehind hcs))
  | word => exact hstop _ (fun c hj => Or.inr (Or.inr (Or.inr hj))) h
  | _ => trivial

/-- What a rest cannot continue, it cannot continue with more behind it that joins nothing; only for a
comment that had no rest this says less. -/
theorem Closed.append {p : Pattern} {text rest b : List Char} (h : p.Closed text rest)
    (hb : Stops Joins b) (hc : p = .comment → rest = [] → Stops (· ≠ '\n') b) :
    p.Closed text (rest ++ b) := by
  cases rest with
  | nil =>
    by_cases hp : p = .comment
    · subst hp
      exact hc rfl rfl
    · exact closed_of_stops hp hb text
  | cons c rest =>
    have hhead : ∀ q, Stops q (c :: rest) → Stops q (c :: rest ++ b) := fun q hq => hq
    cases p with
    | comment => exact hhead _ h
    | slash => exact hhead _ h
    | operator => exact fun ht => hhead _ (h ht)
    | number =>
      refine ⟨hhead _ h.1, fun hpoint d cs e => ?_⟩
      obtain ⟨rfl, hmore⟩ := List.cons.inj e
      cases rest with
      | nil =>
        -- The point stands last, so the next character is the first of `b`.
        obtain rfl : b = d :: cs := hmore
        rw [Stops.cons_iff] at hb
        rw [Bool.eq_false_iff]
        exact fun hd => hb (Or.inr (Or.inr (Or.inr (Opening.isWordChar_of_isDigit hd))))
      | cons d' rest =>
        obtain ⟨rfl, -⟩ := List.cons.inj hmore
        exact h.2 hpoint d' rest rfl
    | word => exact hhead _ h
    | _ => trivial

/-- No language has the empty text. -/
theorem ne_nil_of_mem {p : Pattern} {text : List Char} (h : text ∈ p.language) : text ≠ [] := by
  cases p with
  | blank => obtain ⟨c, -, rfl⟩ := mem_blank.mp h; simp
  | newline => rw [mem_newline.mp h]; simp
  | comment => obtain ⟨body, rfl, -⟩ := mem_comment.mp h; simp
  | punctuation => obtain ⟨c, -, rfl⟩ := mem_punctuation.mp h; simp
  | slash => rw [mem_slash.mp h]; simp
  | operator => obtain ⟨c, -, rfl | rfl⟩ := mem_operator.mp h <;> simp
  | string => obtain ⟨body, rfl, -⟩ := mem_string.mp h; simp
  | number =>
    obtain ⟨whole, hw, rfl | ⟨fraction, -, rfl⟩⟩ := mem_number.mp h
    · obtain ⟨d, ds, rfl, -⟩ := mem_digits.mp hw
      simp
    · simp
  | word => obtain ⟨c, cs, rfl, -⟩ := mem_word.mp h; simp

end Pattern

namespace Span

/-- The characters of a span. -/
def text : Span → List Char
  | .lexeme _ text => text
  | .unterminated text => text
  | .unexpected c => [c]

/-- The span at the head of the text `c :: cs`. -/
def first (c : Char) (cs : List Char) : Span :=
  match Opening.ofChar c with
  | .punctuation _ => .lexeme .punctuation [c]
  | .operator _ _ => .lexeme .operator (if cs.head? = some '=' then [c, '='] else [c])
  | .blank => .lexeme .blank [c]
  | .newline => .lexeme .newline [c]
  | .slash => match cs with
    | '/' :: body => .lexeme .comment (c :: '/' :: body.take (commentLength body))
    | _ => .lexeme .slash [c]
  | .quote =>
    if '"' ∈ cs then .lexeme .string (c :: (cs.takeWhile (· ≠ '"') ++ ['"']))
    else .unterminated (c :: cs)
  | .digit => .lexeme .number (c :: cs.take (numberLength cs))
  | .letter => .lexeme .word (c :: cs.take (wordLength cs))
  | .other => .unexpected c

variable {c : Char} {cs : List Char}

/-- A quote with no quote after it opens a string without end. -/
theorem first_unterminated (h : '"' ∉ cs) : first '"' cs = .unterminated ('"' :: cs) := by
  have ho : Opening.ofChar '"' = .quote := rfl
  simp [first, ho, h]

theorem first_unexpected (h : Opening.ofChar c = .other) : first c cs = .unexpected c := by
  simp [first, h]

/-- **A text of a language, before a rest that cannot continue it, is the span.** -/
theorem first_of_closed {p : Pattern} {text rest : List Char} (hp : text ∈ p.language)
    (hc : p.Closed text rest) (e : c :: cs = text ++ rest) : first c cs = .lexeme p text := by
  cases p with
  | blank =>
    obtain ⟨d, hd, rfl⟩ := Pattern.mem_blank.mp hp
    obtain ⟨rfl, rfl⟩ := List.cons.inj e
    simp [first, Opening.ofChar_of_blank hd]
  | newline =>
    rw [Pattern.mem_newline.mp hp] at e ⊢
    obtain ⟨rfl, rfl⟩ := List.cons.inj e
    rfl
  | comment =>
    obtain ⟨body, rfl, hbody⟩ := Pattern.mem_comment.mp hp
    obtain ⟨rfl, rfl⟩ := List.cons.inj e
    have ho : Opening.ofChar '/' = .slash := rfl
    have hlen : commentLength (body ++ rest) = body.length := commentLength_append hbody hc
    simp [first, ho, hlen]
  | punctuation =>
    obtain ⟨d, hd, rfl⟩ := Pattern.mem_punctuation.mp hp
    obtain ⟨rfl, rfl⟩ := List.cons.inj e
    obtain ⟨kind, hk⟩ := Opening.exists_punctuation hd
    have ho : Opening.ofChar c = .punctuation kind := Opening.ofChar_of_fits hk
    simp [first, ho]
  | slash =>
    rw [Pattern.mem_slash.mp hp] at e ⊢
    obtain ⟨rfl, rfl⟩ := List.cons.inj e
    have ho : Opening.ofChar '/' = .slash := rfl
    have hstop : Stops (· = '/') cs := hc
    simp only [first, ho]
    split
    · exact (hstop '/' rfl rfl).elim
    · rfl
  | operator =>
    obtain ⟨d, hd, h⟩ := Pattern.mem_operator.mp hp
    obtain ⟨alone, joined, hk⟩ := Opening.exists_operator hd
    have ho : Opening.ofChar d = .operator alone joined := Opening.ofChar_of_fits hk
    rcases h with rfl | rfl
    · obtain ⟨rfl, rfl⟩ := List.cons.inj e
      have hstop : Stops (· = '=') cs := hc rfl
      have hne : cs.head? ≠ some '=' := fun h => hstop '=' h rfl
      simp [first, ho, hne]
    · obtain ⟨rfl, rfl⟩ := List.cons.inj e
      simp [first, ho]
  | string =>
    obtain ⟨body, rfl, hbody⟩ := Pattern.mem_string.mp hp
    obtain ⟨rfl, rfl⟩ := List.cons.inj e
    have ho : Opening.ofChar '"' = .quote := rfl
    have htake : (body ++ '"' :: rest).takeWhile (· ≠ '"') = body :=
      Stops.takeWhile_ne_append hbody (by simp)
    simp only [ne_eq, decide_not] at htake
    simp [first, ho, htake]
  | number =>
    obtain ⟨whole, hw, h⟩ := Pattern.mem_number.mp hp
    obtain ⟨d, ds, rfl, hd, hds⟩ := Pattern.mem_digits.mp hw
    have ho : Opening.ofChar d = .digit := Opening.ofChar_of_fits hd
    have hpoint : '.' ∉ d :: ds := fun h =>
      absurd (Pattern.isDigit_of_mem_digits hw _ h) (by decide)
    rcases h with rfl | ⟨fraction, hf, rfl⟩
    · obtain ⟨rfl, rfl⟩ := List.cons.inj e
      have hlen := numberLength_whole hds hc.1 (hc.2 hpoint)
      simp [first, ho, hlen]
    · obtain ⟨rfl, rfl⟩ := List.cons.inj e
      have hlen := numberLength_fraction hds hf hc.1
      rw [show ds ++ '.' :: (fraction ++ rest) = (ds ++ '.' :: fraction) ++ rest by simp,
        show ds.length + 1 + fraction.length = (ds ++ '.' :: fraction).length by simp; omega] at hlen
      simp only [first, ho, List.append_eq, hlen, List.take_left, List.cons_append]
  | word =>
    obtain ⟨d, ds, rfl, hd, hds⟩ := Pattern.mem_word.mp hp
    obtain ⟨rfl, rfl⟩ := List.cons.inj e
    have ho : Opening.ofChar c = .letter := Opening.ofChar_of_fits hd
    have hlen : wordLength (ds ++ rest) = ds.length := wordLength_append hds hc
    simp [first, ho, hlen]

/-- A text of a language is the span of itself. -/
theorem first_of_mem {p : Pattern} (h : c :: cs ∈ p.language) :
    first c cs = .lexeme p (c :: cs) :=
  first_of_closed h (Pattern.closed_nil p _) (List.append_nil _).symm

/-- A number at the head of a text, as far as it goes. -/
theorem exists_number (cs : List Char) (hd : isDigit c = true) :
    ∃ text rest, c :: cs = text ++ rest ∧ text ∈ Pattern.number.language ∧
      Pattern.number.Closed text rest := by
  set ds := cs.takeWhile isDigit with hds
  set after := cs.dropWhile isDigit with hafter
  have hcs : cs = ds ++ after := List.takeWhile_append_dropWhile.symm
  have hall : ∀ x ∈ ds, isDigit x = true := fun x hx => List.mem_takeWhile_imp hx
  have hstop : Stops (isDigit · = true) after := Stops.dropWhile isDigit cs
  have hwhole : c :: ds ∈ Pattern.digits := Pattern.mem_digits.mpr ⟨c, ds, rfl, hd, hall⟩
  by_cases hpoint : ∃ d more, after = '.' :: d :: more ∧ isDigit d = true
  · obtain ⟨d, more, hmore, hdd⟩ := hpoint
    have hfraction : d :: more.takeWhile isDigit ∈ Pattern.digits :=
      Pattern.mem_digits.mpr ⟨d, _, rfl, hdd, fun x hx => List.mem_takeWhile_imp hx⟩
    refine ⟨c :: ds ++ '.' :: (d :: more.takeWhile isDigit), more.dropWhile isDigit, ?_, ?_, ?_⟩
    · rw [hcs, hmore]
      simp [List.takeWhile_append_dropWhile]
    · exact Pattern.mem_number.mpr ⟨_, hwhole, Or.inr ⟨_, hfraction, rfl⟩⟩
    · exact ⟨Stops.dropWhile isDigit more, fun h => absurd (by simp) h⟩
  · refine ⟨c :: ds, after, by rw [hcs]; rfl, Pattern.mem_number.mpr ⟨_, hwhole, Or.inl rfl⟩,
      hstop, fun _ d more hmore => ?_⟩
    rw [Bool.eq_false_iff]
    exact fun hdd => hpoint ⟨d, more, hmore, hdd⟩

/-- **Every text begins with a lexeme as far as it goes**, or with a character that opens nothing, or
with a quote that is never closed. -/
theorem exists_closed (c : Char) (cs : List Char) :
    Opening.ofChar c = .other ∨ (c = '"' ∧ '"' ∉ cs) ∨
      ∃ p text rest, c :: cs = text ++ rest ∧ text ∈ Pattern.language p ∧ p.Closed text rest := by
  have hfits := Opening.fits_ofChar c
  cases ho : Opening.ofChar c with
  | other => exact Or.inl rfl
  | punctuation kind =>
    rw [ho] at hfits
    have table : ∀ q ∈ TokenKind.punctuation, q.1 ∈ Pattern.punctuationChars := by decide
    exact Or.inr (Or.inr ⟨.punctuation, [c], cs, rfl, ⟨c, table _ hfits, rfl⟩, trivial⟩)
  | operator alone joined =>
    rw [ho] at hfits
    have table : ∀ q ∈ TokenKind.operators, q.1 ∈ Pattern.operatorChars := by decide
    have hc := table _ hfits
    refine Or.inr (Or.inr ?_)
    by_cases he : cs.head? = some '='
    · obtain ⟨rest, rfl⟩ := List.head?_eq_some_iff.mp he
      exact ⟨.operator, [c, '='], rest, rfl, Pattern.mem_operator.mpr ⟨c, hc, Or.inr rfl⟩,
        fun h => by simp at h⟩
    · refine ⟨.operator, [c], cs, rfl, Pattern.mem_operator.mpr ⟨c, hc, Or.inl rfl⟩, fun _ => ?_⟩
      rintro d hd rfl
      exact he hd
  | blank =>
    rw [ho] at hfits
    refine Or.inr (Or.inr ⟨.blank, [c], cs, rfl, ⟨c, ?_, rfl⟩, trivial⟩)
    rcases hfits with rfl | rfl | rfl <;> decide
  | newline =>
    rw [ho] at hfits
    obtain rfl : c = '\n' := hfits
    exact Or.inr (Or.inr ⟨.newline, ['\n'], cs, rfl, rfl, trivial⟩)
  | slash =>
    rw [ho] at hfits
    obtain rfl : c = '/' := hfits
    refine Or.inr (Or.inr ?_)
    by_cases he : cs.head? = some '/'
    · obtain ⟨body, rfl⟩ := List.head?_eq_some_iff.mp he
      refine ⟨.comment, '/' :: '/' :: body.takeWhile (· ≠ '\n'), body.dropWhile (· ≠ '\n'), ?_,
        Pattern.mem_comment.mpr ⟨_, rfl, fun h => ?_⟩, ?_⟩
      · simp only [List.cons_append, List.takeWhile_append_dropWhile]
      · exact absurd (List.mem_takeWhile_imp h) (by simp)
      · have h := Stops.dropWhile (fun d => decide (d ≠ '\n')) body
        simpa [Pattern.Closed, Stops] using h
    · refine ⟨.slash, ['/'], cs, rfl, rfl, ?_⟩
      rintro d hd rfl
      exact he hd
  | quote =>
    rw [ho] at hfits
    obtain rfl : c = '"' := hfits
    by_cases hq : '"' ∈ cs
    · obtain ⟨body, rest, rfl, hbody⟩ := List.eq_append_cons_of_mem hq
      exact Or.inr (Or.inr ⟨.string, '"' :: (body ++ ['"']), rest, by simp,
        Pattern.mem_string.mpr ⟨body, rfl, hbody⟩, trivial⟩)
    · exact Or.inr (Or.inl ⟨rfl, hq⟩)
  | digit =>
    rw [ho] at hfits
    obtain ⟨text, rest, h⟩ := exists_number cs hfits
    exact Or.inr (Or.inr ⟨.number, text, rest, h⟩)
  | letter =>
    rw [ho] at hfits
    refine Or.inr (Or.inr ⟨.word, c :: cs.takeWhile isWordChar, cs.dropWhile isWordChar, ?_,
      Pattern.mem_word.mpr ⟨c, _, rfl, hfits, fun x hx => List.mem_takeWhile_imp hx⟩,
      Stops.dropWhile isWordChar cs⟩)
    simp only [List.cons_append, List.takeWhile_append_dropWhile]

/-- The three sorts of span, each with what it says of the text. -/
theorem first_cases (c : Char) (cs : List Char) :
    (Opening.ofChar c = .other ∧ first c cs = .unexpected c) ∨
    (c = '"' ∧ '"' ∉ cs ∧ first c cs = .unterminated (c :: cs)) ∨
      ∃ p text rest, c :: cs = text ++ rest ∧ text ∈ Pattern.language p ∧ p.Closed text rest ∧
        first c cs = .lexeme p text := by
  rcases exists_closed c cs with ho | ⟨rfl, hq⟩ | ⟨p, text, rest, e, ht, hc⟩
  · exact Or.inl ⟨ho, first_unexpected ho⟩
  · exact Or.inr (Or.inl ⟨rfl, hq, first_unterminated hq⟩)
  · exact Or.inr (Or.inr ⟨p, text, rest, e, ht, hc, first_of_closed ht hc e⟩)

/-- A span is the beginning of its text, and not empty. -/
theorem exists_rest (c : Char) (cs : List Char) :
    ∃ rest, c :: cs = (first c cs).text ++ rest ∧ (first c cs).text ≠ [] := by
  rcases first_cases c cs with ⟨-, hf⟩ | ⟨-, -, hf⟩ | ⟨p, text, rest, e, ht, -, hf⟩ <;> rw [hf]
  · exact ⟨cs, rfl, List.cons_ne_nil c []⟩
  · exact ⟨[], (List.append_nil _).symm, List.cons_ne_nil c cs⟩
  · exact ⟨rest, e, Pattern.ne_nil_of_mem ht⟩

end Span

end LoxLex
