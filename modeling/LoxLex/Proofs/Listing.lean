import LoxLex.Proofs.Separation
import LoxLex.Proofs.Transcripts
import Mathlib.Data.List.ReduceOption

/-!
# LoxLex.Proofs.Listing — a listing says which tokens it lists

A listing escapes nothing, and a string in it may have newlines and look like other lines.  It can be
read all the same: the kind is over at the first space, and what stands behind is read as a scan would
read it, since a space closes every lexeme.  The lexeme in its turn determines the value.

* `Printed.append_inj`: where one entry of a listing ends and the next begins.
* `run_output_determines`: two runs with the same output found the same tokens, but for their lines.
-/

namespace LoxLex

/-- What is printed of a token, for a content. -/
def Content.listed (x : Content) : List Char :=
  x.1.name.toList ++ ' ' :: (x.2.1.toList ++ ' ' :: (x.2.2.text.toList ++ ['\n']))

/-- The contents of the tokens of a scan: those of lexemes, and that of the token that closes it. -/
inductive Scanned : Content → Prop
  | lexeme (x : Lexeme) : Scanned x.content
  | endOfInput : Scanned (.endOfInput, "", .absent)

/-- An entry of the output, and the token that it lists.  A reporter that prints to the output too has
its lines there; they list no token. -/
inductive Printed : List Char → Option Content → Prop
  | token {x : Content} (h : Scanned x) : Printed x.listed (some x)
  | report (body : List Char) (h : '\n' ∉ body) : Printed ('[' :: (body ++ ['\n'])) none

/-! ### Where a lexeme ends -/

theorem stops_space (rest : List Char) : Stops Joins (' ' :: rest) :=
  Stops.cons_iff.mpr (by decide)

/-- A lexeme before a space is the first span of the text. -/
theorem Lexeme.first_of_space (x : Lexeme) {c : Char} {cs rest : List Char}
    (e : c :: cs = x.text ++ ' ' :: rest) : Span.first c cs = .lexeme x.pattern x.text :=
  Span.first_of_closed x.mem (Pattern.closed_of_stops x.not_comment (stops_space rest) x.text) e

/-- So two of them, before a space each, are the same. -/
theorem Lexeme.append_space_inj {x y : Lexeme} {r s : List Char}
    (h : x.text ++ ' ' :: r = y.text ++ ' ' :: s) : x = y ∧ r = s := by
  obtain ⟨c, cs, hx⟩ := List.exists_cons_of_ne_nil (Pattern.ne_nil_of_mem x.mem)
  have e : c :: (cs ++ ' ' :: r) = x.text ++ ' ' :: r := by rw [hx, List.cons_append]
  have hspans := (x.first_of_space e).symm.trans (y.first_of_space (e.trans h))
  obtain ⟨hpattern, htext⟩ := Span.lexeme.inj hspans
  rw [htext] at h
  have hrest : r = s := (List.cons.inj (List.append_cancel_left h)).2
  obtain ⟨p, text, hmem, hlayout⟩ := x
  obtain ⟨q, text', hmem', hlayout'⟩ := y
  obtain rfl : p = q := hpattern
  obtain rfl : text = text' := htext
  exact ⟨rfl, hrest⟩

/-- No lexeme begins with a space: it would be a blank. -/
theorem Lexeme.ne_space (x : Lexeme) (r s : List Char) : x.text ++ ' ' :: r ≠ ' ' :: s := by
  intro h
  have hblank : Span.first ' ' s = .lexeme .blank [' '] :=
    Span.first_of_closed ⟨' ', by simp, rfl⟩ (show Pattern.blank.Closed [' '] s from trivial) rfl
  have hspans := (x.first_of_space h.symm).symm.trans hblank
  exact x.notLayout (Or.inl (Span.lexeme.inj hspans).1)

theorem Scanned.append_space_inj {x y : Content} {r s : List Char} (hx : Scanned x) (hy : Scanned y)
    (h : x.2.1.toList ++ ' ' :: r = y.2.1.toList ++ ' ' :: s) : x = y ∧ r = s := by
  have hlexeme : ∀ x : Lexeme, x.content.2.1.toList = x.text := fun x => String.toList_ofList
  cases hx with
  | lexeme x =>
    rw [hlexeme] at h
    cases hy with
    | lexeme y =>
      rw [hlexeme] at h
      obtain ⟨rfl, hrest⟩ := Lexeme.append_space_inj h
      exact ⟨rfl, hrest⟩
    | endOfInput => exact absurd h (x.ne_space r s)
  | endOfInput =>
    cases hy with
    | lexeme y =>
      rw [hlexeme] at h
      exact absurd h.symm (y.ne_space s r)
    | endOfInput => exact ⟨rfl, (List.cons.inj h).2⟩

/-! ### Where an entry ends -/

/-- A text is cut at its first `c` in one way. -/
theorem append_cons_unique {c : Char} {u v r s : List Char} (hu : c ∉ u) (hv : c ∉ v)
    (h : u ++ c :: r = v ++ c :: s) : u = v ∧ r = s := by
  have hstop : ∀ rest : List Char, Stops (· ≠ c) (c :: rest) := fun rest => by simp
  have htake := congrArg (List.takeWhile (· ≠ c)) h
  rw [(hstop r).takeWhile_ne_append hu, (hstop s).takeWhile_ne_append hv] at htake
  rw [htake] at h
  exact ⟨htake, (List.cons.inj (List.append_cancel_left h)).2⟩

theorem space_notMem_name (k : TokenKind) : ' ' ∉ k.name.toList := by
  have table : ∀ k ∈ TokenKind.all, ' ' ∉ k.name.toList := by decide
  exact table k k.mem_all

/-- No line of a reporter is that of a token: the name of a kind begins with no bracket. -/
theorem Content.listed_ne_report (x : Content) (r s : List Char) : x.listed ++ r ≠ '[' :: s := by
  have table : ∀ k ∈ TokenKind.all, k.name.toList.head? ∉ [none, some '['] := by decide
  intro h
  have hname := table x.1 x.1.mem_all
  unfold listed at h
  cases hcs : x.1.name.toList with
  | nil => simp [hcs] at hname
  | cons c cs =>
    rw [hcs] at h hname
    simp only [List.cons_append, List.cons.injEq] at h
    simp [h.1] at hname

/-- **An entry ends where it ends**, whatever stands behind it. -/
theorem Printed.append_inj {u v r s : List Char} {a b : Option Content} (hu : Printed u a)
    (hv : Printed v b) (h : u ++ r = v ++ s) : a = b ∧ r = s := by
  cases hu with
  | @token x hx =>
    cases hv with
    | @token y hy =>
      unfold Content.listed at h
      simp only [List.append_assoc, List.cons_append, List.nil_append] at h
      obtain ⟨-, hbehind⟩ := append_cons_unique (space_notMem_name x.1) (space_notMem_name y.1) h
      obtain ⟨rfl, hvalue⟩ := hx.append_space_inj hy hbehind
      exact ⟨rfl, (List.cons.inj (List.append_cancel_left hvalue)).2⟩
    | report body hbody => exact absurd h (x.listed_ne_report r _)
  | report body hbody =>
    cases hv with
    | @token y hy => exact absurd h.symm (y.listed_ne_report s _)
    | report body' hbody' =>
      simp only [List.cons_append, List.append_assoc, List.nil_append] at h
      exact ⟨rfl, (append_cons_unique hbody hbody' (List.cons.inj h).2).2⟩

theorem Printed.ne_nil {u : List Char} {a : Option Content} (h : Printed u a) : u ≠ [] := by
  cases h with
  | token hx => simp [Content.listed]
  | report body hbody => simp

/-- So the entries of an output are told by the output. -/
theorem printed_inj {us vs : List (List Char)} {as bs : List (Option Content)}
    (hu : List.Forall₂ Printed us as) (hv : List.Forall₂ Printed vs bs)
    (h : us.flatten = vs.flatten) : as = bs := by
  induction hu generalizing vs bs with
  | nil =>
    cases hv with
    | nil => rfl
    | cons hb hv => simp [hb.ne_nil] at h
  | cons ha hu ih =>
    cases hv with
    | nil => simp [ha.ne_nil] at h
    | cons hb hv =>
      rw [List.flatten_cons, List.flatten_cons] at h
      obtain ⟨rfl, hrest⟩ := ha.append_inj hb h
      rw [ih hv hrest]

/-! ### The output of a run -/

variable {verbose : Bool} {source : List Char} {file : String} {r : Reporter}

theorem toList_text (t : Token) : (t.text ++ "\n").toList = t.content.listed := by
  simp [Token.text, Token.content, Content.listed]

theorem printed_tokens (source : List Char) (file : String) :
    List.Forall₂ Printed ((scanSource source file).tokens.map fun t => (t.text ++ "\n").toList)
      ((scanSource source file).tokens.map fun t => some t.content) := by
  obtain ⟨xs, hxs⟩ := exists_lexemes source
  rw [← map_content_tokensFrom 1] at hxs
  rw [List.forall₂_map_left_iff, List.forall₂_map_right_iff, List.forall₂_same]
  intro t ht
  rw [toList_text]
  rw [scanSource_eq] at ht
  rcases List.mem_append.mp ht with ht | ht
  · have hmem : t.content ∈ xs.map Lexeme.content := hxs ▸ List.mem_map_of_mem ht
    obtain ⟨x, -, hx⟩ := List.mem_map.mp hmem
    rw [← hx]
    exact .token (.lexeme x)
  · rw [List.mem_singleton.mp ht]
    exact .token .endOfInput

theorem newline_notMem_toString (line : Int) : '\n' ∉ (toString line).toList := by
  have hnat : ∀ n : Nat, '\n' ∉ (Nat.repr n).toList := by
    intro n h
    rw [Nat.toList_repr] at h
    have hdigit : '\n'.isDigit = true :=
      Nat.isDigit_of_mem_toDigits (by decide : 0 < 10) (le_refl 10) h
    exact absurd hdigit (by decide)
  show '\n' ∉ (Int.repr line).toList
  rw [Int.repr_eq_if]
  split
  · exact hnat _
  · simpa using hnat _

/-- A scanner's messages are one line each. -/
theorem newline_notMem_message {d : Diagnostic} (hd : d ∈ (scanSource source file).diagnostics) :
    '\n' ∉ d.message.toList := by
  rw [scanSource_eq] at hd
  obtain ⟨⟨n, p⟩, -, hp⟩ := List.mem_filterMap.mp hd
  cases p with
  | lexeme q text => cases hp
  | unterminated text =>
    cases hp
    show '\n' ∉ "Unterminated string. Close it with a double-quote.".toList
    decide
  | unexpected c =>
    cases hp
    show '\n' ∉ "Unexpected character.".toList
    decide

theorem printed_reports (source : List Char) (file : String) :
    List.Forall₂ Printed
      ((scanSource source file).diagnostics.map fun d => (Reporter.line "" d.report).toList)
      ((scanSource source file).diagnostics.map fun _ => none) := by
  rw [List.forall₂_map_left_iff, List.forall₂_map_right_iff, List.forall₂_same]
  intro d hd
  have hbody : '\n' ∉ ("line " ++ toString d.line ++ "] Error" ++ ": " ++ d.message).toList := by
    have hline := newline_notMem_toString d.line
    have hmessage := newline_notMem_message hd
    simp only [String.toList_append, List.mem_append, not_or]
    exact ⟨⟨⟨⟨by decide, hline⟩, by decide⟩, by decide⟩, hmessage⟩
  have hline : (Reporter.line "" d.report).toList =
      '[' :: (("line " ++ toString d.line ++ "] Error" ++ ": " ++ d.message).toList ++ ['\n']) := by
    simp [Reporter.line, Diagnostic.report]
  rw [hline]
  exact .report _ hbody

theorem toList_join_map {α : Type} (f : α → String) (xs : List α) :
    (String.join (xs.map f)).toList = (xs.map fun x => (f x).toList).flatten := by
  rw [String.toList_join, List.flatMap_map, List.flatMap_def]

/-- The output of a run in entries, and the tokens that these list. -/
theorem exists_printed (verbose : Bool) (source : List Char) (file : String) (r : Reporter) :
    ∃ us as, List.Forall₂ Printed us as ∧
      (Transcript.on .output (run verbose source file r).2.2).toList = us.flatten ∧
      as.reduceOption = (scanSource source file).tokens.map Token.content := by
  have htokens := printed_tokens source file
  have hsome : ∀ ts : List Token, (ts.map fun t => some t.content).reduceOption =
      ts.map Token.content := by
    intro ts
    induction ts with
    | nil => rfl
    | cons t ts ih => exact (List.reduceOption_cons_of_some _ _).trans (congrArg _ ih)
  have hnone : ∀ ds : List Diagnostic,
      (ds.map fun _ => (none : Option Content)).reduceOption = [] := by
    intro ds
    rw [List.map_const', List.reduceOption_replicate_none]
  by_cases hr : r.channel = .output
  · have hlog : verbose = true → r.channel ≠ .errors := by simp [hr]
    have hreports := on_channel_listen source file hlog
    rw [hr] at hreports
    refine ⟨_, _, List.rel_append (printed_reports source file) htokens, ?_, ?_⟩
    · rw [said_run, Transcript.on_append, hreports, Transcript.on_map, String.toList_append,
        toList_join_map, toList_join_map, List.flatten_append]
    · rw [List.reduceOption_append, hsome, hnone, List.nil_append]
  · refine ⟨_, _, htokens, ?_, hsome _⟩
    rw [on_output_run verbose source file hr, toList_join_map]

/-- **The output of a run determines its tokens**, but for their lines. -/
theorem run_output_determines {verbose verbose' : Bool} {source source' : List Char}
    {file file' : String} {r r' : Reporter}
    (h : Transcript.on .output (run verbose source file r).2.2 =
      Transcript.on .output (run verbose' source' file' r').2.2) :
    (run verbose source file r).1.map Token.content =
      (run verbose' source' file' r').1.map Token.content := by
  obtain ⟨us, as, hu, hout, has⟩ := exists_printed verbose source file r
  obtain ⟨vs, bs, hv, hout', hbs⟩ := exists_printed verbose' source' file' r'
  rw [h, hout'] at hout
  have hentries := printed_inj hu hv hout.symm
  have htokens : ∀ verbose source file r,
      (run verbose source file r).1 = (scanSource source file).tokens := by
    intro verbose source file r
    exact congrArg ScanResult.tokens (result_listen verbose source file r)
  rw [htokens, htokens, ← has, ← hbs, hentries]

/-- Two words on a line and two words on two lines: one output, and the lines of the tokens differ. -/
theorem run_output_determines_lines :
    let one := run false ['a', ' ', 'b'] "a.lox" (.new .errors)
    let two := run false ['a', '\n', 'b'] "a.lox" (.new .errors)
    one.2.2.on .output = two.2.2.on .output ∧ one.1.map Token.content = two.1.map Token.content ∧
      one.1.map (·.line) = [1, 1, 1] ∧ two.1.map (·.line) = [1, 2, 2] := by
  intro one two
  have hout : one.2.2.on .output = two.2.2.on .output := by decide +kernel
  exact ⟨hout, run_output_determines hout, by decide +kernel, by decide +kernel⟩

end LoxLex
