import LoxLex.Proofs.Reading

/-!
# LoxLex.Proofs.Context — comments and strings, character by character

`Context.after cs` reads a text from left to right and remembers no more than whether it stands in a
comment, in a string, behind a slash, or in none of these.  From it alone, with no lexeme in sight,
`strays` and `OpenQuote` say what is wrong with a text.

`diagnosticsFrom_segments`: the diagnostics of the segments are those of the strays, and one more for
an open quote.  The proof goes span by span; `Context.Ready` is what holds between two spans.
-/

namespace LoxLex

/-- Where a place in a source stands. -/
inductive Context where
  | code
  | slash
  | comment
  | string
deriving DecidableEq

namespace Context

/-- Behind one more character.  Two slashes open a comment, which ends with its line; a quote opens a
string, which ends with the next quote. -/
def next : Context → Char → Context
  | .comment, c => if c = '\n' then .code else .comment
  | .string, c => if c = '"' then .code else .string
  | .slash, c => if c = '/' then .comment else if c = '"' then .string else .code
  | .code, c => if c = '/' then .slash else if c = '"' then .string else .code

/-- Behind a text that is read from a context. -/
def run (k : Context) (cs : List Char) : Context := cs.foldl next k

/-- Behind the beginning of a source. -/
def after (before : List Char) : Context := run .code before

/-- Neither in a comment nor in a string. -/
def Outside (k : Context) : Prop := k ≠ .comment ∧ k ≠ .string

instance (k : Context) : Decidable k.Outside :=
  inferInstanceAs (Decidable (k ≠ .comment ∧ k ≠ .string))

@[simp] theorem run_nil (k : Context) : k.run [] = k := rfl

@[simp] theorem run_cons (k : Context) (c : Char) (cs : List Char) :
    k.run (c :: cs) = (k.next c).run cs := rfl

theorem run_append (k : Context) (u v : List Char) : k.run (u ++ v) = (k.run u).run v :=
  List.foldl_append

theorem after_append (u v : List Char) : after (u ++ v) = (after u).run v := run_append .code u v

/-- A comment goes on to the end of its line. -/
theorem run_comment {cs : List Char} (h : '\n' ∉ cs) : Context.comment.run cs = .comment := by
  induction cs with
  | nil => rfl
  | cons c cs ih =>
    rw [List.mem_cons, not_or] at h
    rw [run_cons, next, if_neg (Ne.symm h.1), ih h.2]

/-- A string goes on to the next quote. -/
theorem run_string {cs : List Char} (h : '"' ∉ cs) : Context.string.run cs = .string := by
  induction cs with
  | nil => rfl
  | cons c cs ih =>
    rw [List.mem_cons, not_or] at h
    rw [run_cons, next, if_neg (Ne.symm h.1), ih h.2]

end Context

/-- `c` is the first character of no text of any language. -/
def StartsNothing (c : Char) : Prop := ∀ p w, c :: w ∉ Pattern.language p

theorem startsNothing_iff {c : Char} : StartsNothing c ↔ Opening.ofChar c = .other := by
  constructor
  · intro h
    rcases Span.exists_closed c ['"'] with ho | ⟨-, hq⟩ | ⟨p, text, rest, e, ht, -⟩
    · exact ho
    · exact absurd (List.mem_singleton.mpr rfl) hq
    · obtain ⟨d, w, rfl⟩ := List.exists_cons_of_ne_nil (Pattern.ne_nil_of_mem ht)
      obtain ⟨rfl, -⟩ := List.cons.inj e
      exact absurd ht (h p w)
  · intro ho p w hw
    have h := (Span.first_unexpected ho).symm.trans (Span.first_of_mem hw)
    cases h

instance (c : Char) : Decidable (StartsNothing c) := decidable_of_iff _ startsNothing_iff.symm

/-- The characters of a text, each with what stands before it; `before` stands before the text. -/
def withBefore (before : List Char) : List Char → List (List Char × Char)
  | [] => []
  | c :: cs => (before, c) :: withBefore (before ++ [c]) cs

/-- The characters that open nothing, outside comments and strings. -/
def straysAfter (before cs : List Char) : List (List Char × Char) :=
  (withBefore before cs).filter fun (u, c) => (Context.after u).Outside ∧ StartsNothing c

/-- A quote outside comments and strings that no quote follows. -/
def OpenQuoteAfter (before cs : List Char) : Prop :=
  ∃ u v, cs = u ++ '"' :: v ∧ (Context.after (before ++ u)).Outside ∧ '"' ∉ v

theorem withBefore_append (before u v : List Char) :
    withBefore before (u ++ v) = withBefore before u ++ withBefore (before ++ u) v := by
  induction u generalizing before with
  | nil => simp [withBefore]
  | cons c u ih => simp [withBefore, ih]

theorem straysAfter_append (before u v : List Char) :
    straysAfter before (u ++ v) = straysAfter before u ++ straysAfter (before ++ u) v := by
  unfold straysAfter
  rw [withBefore_append, List.filter_append]

theorem straysAfter_cons_of_stray {before : List Char} {c : Char} (hout : (Context.after before).Outside)
    (hc : StartsNothing c) (cs : List Char) :
    straysAfter before (c :: cs) = (before, c) :: straysAfter (before ++ [c]) cs := by
  unfold straysAfter
  rw [withBefore, List.filter_cons_of_pos (by simp [hout, hc])]

theorem straysAfter_cons_of_start {c : Char} (hc : ¬ StartsNothing c) (before cs : List Char) :
    straysAfter before (c :: cs) = straysAfter (before ++ [c]) cs := by
  unfold straysAfter
  rw [withBefore, List.filter_cons_of_neg (by simp [hc])]

theorem mem_withBefore {before cs : List Char} {x : List Char × Char} :
    x ∈ withBefore before cs ↔ ∃ u v, cs = u ++ x.2 :: v ∧ x.1 = before ++ u := by
  induction cs generalizing before with
  | nil => simp [withBefore]
  | cons c cs ih =>
    rw [withBefore, List.mem_cons, ih]
    constructor
    · rintro (rfl | ⟨u, v, rfl, hx⟩)
      · exact ⟨[], cs, rfl, (List.append_nil before).symm⟩
      · exact ⟨c :: u, v, rfl, by simpa using hx⟩
    · rintro ⟨u, v, e, hx⟩
      cases u with
      | nil =>
        obtain ⟨rfl, -⟩ := List.cons.inj e
        rw [List.append_nil] at hx
        exact Or.inl (Prod.ext hx rfl)
      | cons d u =>
        obtain ⟨rfl, rfl⟩ := List.cons.inj e
        exact Or.inr ⟨u, v, rfl, by simpa using hx⟩

/-! ### Within a lexeme -/

/-- Neither a stray nor an open quote is in the text, read from a context. -/
def Context.Quiet (k : Context) (text : List Char) : Prop :=
  ∀ u c v, text = u ++ c :: v → (k.run u).Outside → ¬ StartsNothing c ∧ (c = '"' → '"' ∈ v)

/-- `c` opens something, and neither a comment nor a string. -/
def Plain (c : Char) : Prop := c ≠ '/' ∧ c ≠ '"' ∧ ¬ StartsNothing c

instance (c : Char) : Decidable (Plain c) :=
  inferInstanceAs (Decidable (c ≠ '/' ∧ c ≠ '"' ∧ ¬ StartsNothing c))

theorem plain_of_isWordChar {c : Char} (h : isWordChar c = true) : Plain c := by
  have hout := Opening.notMem_tableChars h
  refine ⟨?_, ?_, ?_⟩
  · rintro rfl
    exact hout (by decide)
  · rintro rfl
    exact hout (by decide)
  · rw [startsNothing_iff, Opening.ofChar_eq_iff]
    rintro ⟨-, hw⟩
    rw [h] at hw
    cases hw

/-- All lexemes but comments, slashes and strings are plain. -/
theorem plain_of_mem {p : Pattern} {text : List Char} (ht : text ∈ p.language)
    (hp : p ≠ .comment ∧ p ≠ .slash ∧ p ≠ .string) : ∀ c ∈ text, Plain c := by
  have hdigits : ∀ w ∈ Pattern.digits, ∀ c ∈ w, Plain c := fun w hw c hc =>
    plain_of_isWordChar (Opening.isWordChar_of_isDigit (Pattern.isDigit_of_mem_digits hw c hc))
  cases p with
  | blank =>
    obtain ⟨d, hd, rfl⟩ := Pattern.mem_blank.mp ht
    have table : ∀ d ∈ [' ', '\t', '\r'], Plain d := forall_mem_of_all (by decide)
    intro c hc
    exact List.mem_singleton.mp hc ▸ table d hd
  | newline =>
    intro c hc
    rw [Pattern.mem_newline.mp ht, List.mem_singleton] at hc
    subst hc
    decide
  | comment => exact absurd rfl hp.1
  | punctuation =>
    obtain ⟨d, hd, rfl⟩ := Pattern.mem_punctuation.mp ht
    have table : ∀ d ∈ Pattern.punctuationChars, Plain d := forall_mem_of_all (by decide)
    intro c hc
    exact List.mem_singleton.mp hc ▸ table d hd
  | slash => exact absurd rfl hp.2.1
  | operator =>
    obtain ⟨d, hd, hw⟩ := Pattern.mem_operator.mp ht
    have table : ∀ d ∈ Pattern.operatorChars, Plain d := forall_mem_of_all (by decide)
    have hequal : Plain '=' := by decide
    rcases hw with rfl | rfl
    · simpa using table d hd
    · simpa using ⟨table d hd, hequal⟩
  | string => exact absurd rfl hp.2.2
  | number =>
    have hpoint : Plain '.' := by decide
    obtain ⟨whole, hw, rfl | ⟨fraction, hf, rfl⟩⟩ := Pattern.mem_number.mp ht
    · exact hdigits text hw
    · intro c hc
      rcases List.mem_append.mp hc with hc | hc
      · exact hdigits whole hw c hc
      · rcases List.mem_cons.mp hc with rfl | hc
        · exact hpoint
        · exact hdigits fraction hf c hc
  | word =>
    obtain ⟨d, w, rfl, hd, hw⟩ := Pattern.mem_word.mp ht
    intro c hc
    rcases List.mem_cons.mp hc with rfl | hc
    · exact plain_of_isWordChar (Opening.isWordChar_of_isLetter hd)
    · exact plain_of_isWordChar (hw c hc)

namespace Context

variable {k : Context} {c : Char} {cs text rest before : List Char}

theorem quiet_nil (k : Context) : k.Quiet [] := by
  intro u c v e
  cases u <;> cases e

theorem quiet_cons (hc : k.Outside → ¬ StartsNothing c ∧ (c = '"' → '"' ∈ cs))
    (hcs : (k.next c).Quiet cs) : k.Quiet (c :: cs) := by
  intro u d v e hout
  cases u with
  | nil =>
    obtain ⟨rfl, rfl⟩ := List.cons.inj e
    exact hc hout
  | cons b u =>
    obtain ⟨rfl, rfl⟩ := List.cons.inj e
    exact hcs u d v rfl hout

theorem quiet_plain (h : ∀ c ∈ text, Plain c) (k : Context) : k.Quiet text := by
  rintro u c v rfl -
  obtain ⟨-, hq, hs⟩ := h c (by simp)
  exact ⟨hs, fun e => absurd e hq⟩

theorem run_plain (h : ∀ c ∈ text, Plain c) : Context.code.run text = .code := by
  induction text with
  | nil => rfl
  | cons c cs ih =>
    obtain ⟨hs, hq, -⟩ := h c List.mem_cons_self
    rw [run_cons, next, if_neg hs, if_neg hq]
    exact ih fun d hd => h d (List.mem_cons_of_mem c hd)

theorem quiet_comment (h : '\n' ∉ text) : Context.comment.Quiet text := by
  rintro u c v rfl hout
  have hu : '\n' ∉ u := fun hmem => h (List.mem_append_left _ hmem)
  rw [run_comment hu] at hout
  exact absurd rfl hout.1

theorem quiet_string (h : '"' ∉ text) : Context.string.Quiet text := by
  rintro u c v rfl hout
  have hu : '"' ∉ u := fun hmem => h (List.mem_append_left _ hmem)
  rw [run_string hu] at hout
  exact absurd rfl hout.2

theorem Quiet.append (h : k.Quiet text) (h' : (k.run text).Quiet cs) : k.Quiet (text ++ cs) := by
  intro u c v e hout
  rcases List.append_eq_append_iff.mp e with ⟨a, rfl, rfl⟩ | ⟨a, rfl, e'⟩
  · rw [run_append] at hout
    exact h' a c v rfl hout
  · cases a with
    | nil =>
      rw [List.append_nil] at h'
      exact h' [] c v e'.symm hout
    | cons b a =>
      obtain ⟨rfl, rfl⟩ := List.cons.inj e'
      obtain ⟨hs, hq⟩ := h u c a rfl hout
      exact ⟨hs, fun hc => List.mem_append_left cs (hq hc)⟩

/-- Between two spans: what comes next goes on as it would in code. -/
def Ready : Context → List Char → Prop
  | .code, _ => True
  | .slash, cs => Stops (· = '/') cs
  | .comment, cs => Stops (· ≠ '\n') cs
  | .string, _ => False

theorem Ready.next (h : k.Ready (c :: cs)) : k.next c = Context.code.next c := by
  cases k with
  | code => rfl
  | slash =>
    have hstop : Stops (· = '/') (c :: cs) := h
    rw [Stops.cons_iff] at hstop
    simp [Context.next, hstop]
  | comment =>
    have hstop : Stops (· ≠ '\n') (c :: cs) := h
    rw [Stops.cons_iff, not_not] at hstop
    subst hstop
    rfl
  | string => exact h.elim

/-- Before a newline a comment may be open still; before all else nothing is. -/
theorem Ready.outside (h : k.Ready (c :: cs)) (hc : c ≠ '\n') : k.Outside := by
  cases k with
  | code => decide
  | slash => decide
  | comment =>
    have hstop : Stops (· ≠ '\n') (c :: cs) := h
    rw [Stops.cons_iff] at hstop
    exact absurd hc hstop
  | string => exact h.elim

/-- **A lexeme is quiet, and behind it the next span may begin.** -/
theorem quiet_of_closed {p : Pattern} (h : k.Ready (text ++ rest)) (ht : text ∈ p.language)
    (hc : p.Closed text rest) : k.Quiet text ∧ (k.run text).Ready rest := by
  by_cases hp : p ≠ .comment ∧ p ≠ .slash ∧ p ≠ .string
  · have hplain := plain_of_mem ht hp
    refine ⟨quiet_plain hplain k, ?_⟩
    obtain ⟨c, w, rfl⟩ := List.exists_cons_of_ne_nil (Pattern.ne_nil_of_mem ht)
    rw [run_cons, Ready.next h, ← run_cons, run_plain hplain]
    trivial
  · have hslash : ¬ StartsNothing '/' := by decide
    cases p with
    | comment =>
      obtain ⟨body, rfl, hbody⟩ := Pattern.mem_comment.mp ht
      have hnext : k.next '/' = .slash := Ready.next h
      refine ⟨quiet_cons (fun _ => ⟨hslash, fun e => by cases e⟩) ?_, ?_⟩
      · rw [hnext]
        exact quiet_cons (fun _ => ⟨hslash, fun e => by cases e⟩) (quiet_comment hbody)
      · rw [run_cons, hnext, run_cons]
        show (Context.comment.run body).Ready rest
        rw [run_comment hbody]
        exact hc
    | slash =>
      rw [Pattern.mem_slash.mp ht] at h ⊢
      have hnext : k.next '/' = .slash := Ready.next h
      refine ⟨quiet_cons (fun _ => ⟨hslash, fun e => by cases e⟩) (quiet_nil _), ?_⟩
      rw [run_cons, run_nil, hnext]
      exact hc
    | string =>
      obtain ⟨body, rfl, hbody⟩ := Pattern.mem_string.mp ht
      have hquote : ¬ StartsNothing '"' := by decide
      have hnext : k.next '"' = .string := Ready.next h
      refine ⟨quiet_cons (fun _ => ⟨hquote, fun _ => by simp⟩) ?_, ?_⟩
      · rw [hnext]
        refine (quiet_string hbody).append ?_
        rw [run_string hbody]
        exact quiet_cons (fun hout => absurd rfl hout.2) (quiet_nil _)
      · rw [run_cons, hnext, run_append, run_string hbody]
        trivial
    | _ => exact absurd ⟨by decide, by decide, by decide⟩ hp

theorem Quiet.straysAfter_eq_nil (h : (after before).Quiet text) : straysAfter before text = [] := by
  unfold straysAfter
  rw [List.filter_eq_nil_iff]
  rintro ⟨w, c⟩ hmem
  obtain ⟨u, v, e, rfl⟩ := mem_withBefore.mp hmem
  simp only [decide_eq_true_eq, not_and]
  intro hout
  rw [after_append] at hout
  exact (h u c v e hout).1

/-- A text whose quotes are closed within it may be left out in front of an open quote. -/
theorem openQuoteAfter_append
    (h : ∀ u v, text = u ++ '"' :: v → (after (before ++ u)).Outside → '"' ∈ v) :
    OpenQuoteAfter before (text ++ rest) ↔ OpenQuoteAfter (before ++ text) rest := by
  constructor
  · rintro ⟨u, v, e, hout, hv⟩
    rcases List.append_eq_append_iff.mp e with ⟨a, rfl, rfl⟩ | ⟨a, rfl, e'⟩
    · exact ⟨a, v, rfl, by rwa [List.append_assoc], hv⟩
    · cases a with
      | nil => exact ⟨[], v, e'.symm, by simpa using hout, hv⟩
      | cons b a =>
        obtain ⟨rfl, rfl⟩ := List.cons.inj e'
        exact absurd (List.mem_append_left rest (h u a rfl hout)) hv
  · rintro ⟨u, v, rfl, hout, hv⟩
    exact ⟨text ++ u, v, by simp, by rwa [← List.append_assoc], hv⟩

theorem Quiet.openQuoteAfter_iff (h : (after before).Quiet text) :
    OpenQuoteAfter before (text ++ rest) ↔ OpenQuoteAfter (before ++ text) rest := by
  refine openQuoteAfter_append fun u v e hout => ?_
  rw [after_append] at hout
  exact (h u '"' v e hout).2 rfl

theorem openQuoteAfter_cons (hc : c ≠ '"') :
    OpenQuoteAfter before (c :: cs) ↔ OpenQuoteAfter (before ++ [c]) cs := by
  have hone : ∀ u v, [c] = u ++ '"' :: v → (after (before ++ u)).Outside → '"' ∈ v := by
    intro u v e
    cases u with
    | nil => exact absurd (List.cons.inj e).1 hc
    | cons b u =>
      obtain ⟨-, e⟩ := List.cons.inj e
      cases u <;> cases e
  exact openQuoteAfter_append hone

end Context

/-! ### From span to span -/

/-- What is wrong with a text, if `before` stands before it: the strays, each on its line, and an open
quote on the last line. -/
def IsWrong (file : String) (before cs : List Char) (ds : List Diagnostic) : Prop :=
  ∃ tail, ds = (straysAfter before cs).map
      (fun (u, c) => .stray c ⟨file, ((1 + u.count '\n' : Nat) : Int)⟩) ++ tail ∧
    ((OpenQuoteAfter before cs ∧
        tail = [.unterminated ⟨file, ((1 + (before ++ cs).count '\n' : Nat) : Int)⟩]) ∨
      (¬ OpenQuoteAfter before cs ∧ tail = []))

theorem isWrong_segments (file : String) (before cs : List Char)
    (h : (Context.after before).Ready cs) :
    IsWrong file before cs (diagnosticsFrom file (1 + before.count '\n') (segments cs)) := by
  induction cs using segments_induction generalizing before with
  | nil =>
    refine ⟨[], by simp [straysAfter, withBefore], Or.inr ⟨?_, rfl⟩⟩
    rintro ⟨u, v, e, -⟩
    cases u <;> cases e
  | lexeme p text rest ht hc ih =>
    -- Nothing is wrong within the lexeme, so all comes from behind it.
    obtain ⟨hquiet, hready⟩ := Context.quiet_of_closed h ht hc
    obtain ⟨tail, hds, htail⟩ := ih (before ++ text) (by rwa [Context.after_append])
    refine ⟨tail, ?_, ?_⟩
    · rw [segments_lexeme ht hc, diagnosticsFrom_cons, straysAfter_append, hquiet.straysAfter_eq_nil,
        List.nil_append, ← hds, List.count_append, ← Nat.add_assoc]
      rfl
    · rwa [hquiet.openQuoteAfter_iff, ← List.append_assoc]
  | unterminated cs hq =>
    -- All that follows the quote stands in its string.
    have hout : (Context.after before).Outside := h.outside (by decide)
    have hnext : (Context.after before).next '"' = .string := h.next
    have hquiet : (Context.after (before ++ ['"'])).Quiet cs := by
      rw [Context.after_append, Context.run_cons, Context.run_nil, hnext]
      exact Context.quiet_string hq
    have hnone : straysAfter before ('"' :: cs) = [] := by
      rw [straysAfter_cons_of_start (by decide), hquiet.straysAfter_eq_nil]
    refine ⟨_, ?_, Or.inl ⟨⟨[], cs, rfl, by rwa [List.append_nil], hq⟩, rfl⟩⟩
    rw [hnone, segments_unterminated hq, diagnosticsFrom_cons, List.count_append, ← Nat.add_assoc]
    rfl
  | unexpected c cs ho ih =>
    have hs : StartsNothing c := startsNothing_iff.mpr ho
    have hline : c ≠ '\n' := Opening.ne_of_other ho (by decide)
    have hslash : c ≠ '/' := Opening.ne_of_other ho (by decide)
    have hquote : c ≠ '"' := Opening.ne_of_other ho (by decide)
    have hout : (Context.after before).Outside := h.outside hline
    have hcode : Context.after (before ++ [c]) = .code := by
      rw [Context.after_append, Context.run_cons, Context.run_nil, h.next]
      simp [Context.next, hslash, hquote]
    have hcount : List.count '\n' [c] = 0 := by simp [hline]
    obtain ⟨tail, hds, htail⟩ := ih (before ++ [c]) (by rw [hcode]; trivial)
    refine ⟨tail, ?_, ?_⟩
    · rw [List.count_append, hcount, Nat.add_zero] at hds
      rw [segments_unexpected ho, diagnosticsFrom_cons, straysAfter_cons_of_stray hout hs,
        show (Span.unexpected c).text.count '\n' = 0 from hcount, Nat.add_zero, hds]
      rfl
    · rw [Context.openQuoteAfter_cons hquote, show c :: cs = [c] ++ cs from rfl,
        ← List.append_assoc]
      exact htail

/-- The characters of a source that open nothing and stand outside comments and strings, each with what
stands before it. -/
def strays (source : List Char) : List (List Char × Char) := straysAfter [] source

/-- Some quote outside comments and strings is never closed. -/
def OpenQuote (source : List Char) : Prop :=
  ∃ before rest, source = before ++ '"' :: rest ∧ (Context.after before).Outside ∧ '"' ∉ rest

/-- **The diagnostics of a source**: one for each stray, on its line, and one for an open quote, on the
last line. -/
theorem diagnosticsFrom_segments (file : String) (source : List Char) :
    ∃ tail, diagnosticsFrom file 1 (segments source) =
        (strays source).map (fun (before, c) => .stray c ⟨file, 1 + before.count '\n'⟩) ++ tail ∧
      ((OpenQuote source ∧ tail = [.unterminated ⟨file, 1 + source.count '\n'⟩]) ∨
        (¬ OpenQuote source ∧ tail = [])) := by
  obtain ⟨tail, hds, htail⟩ := isWrong_segments file [] source trivial
  refine ⟨tail, ?_, ?_⟩
  · rw [List.count_nil, Nat.add_zero] at hds
    rw [hds]
    simp [strays]
  · simpa [OpenQuoteAfter, OpenQuote] using htail

end LoxLex
