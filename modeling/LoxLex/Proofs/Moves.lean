import LoxLex.Proofs.Rescan
import Mathlib.Logic.Relation

/-!
# LoxLex.Proofs.Moves — what holds of a scanner after any operations

The rules may be used from any position, and then the lexeme is not what a scan would see.  Still, all
that is ever done with a scanner is done by a few moves: going forward, marking the start of a lexeme,
adding a slice of the source as a token, recording a diagnostic, and writing to the log.

* `Scanner.behaves_perform`: every operation but a scan is a run of moves, and one that stops with a
  fault of its own has only gone forward.  `Scanner.moves_scan` is the same for a scan, from the
  beginning of the source.
* `Scanner.Orderly`, `Scanner.Told`: what each move preserves, and so every run of them.
* `Scanner.performAll_orderly`: what holds after any list of operations.
-/

namespace LoxLex

namespace Scanner

variable {s t u : Scanner}

/-- One move of a scanner. -/
inductive Move : Scanner → Scanner → Prop
  /-- Goes forward, and counts some of the newlines on the way, or none of them. -/
  | forward (s : Scanner) {n k : Nat} (counted : k ≤ (s.rest.take n).count '\n') :
      Move s { s with current := s.current + n, line := s.line + k }
  | mark (s : Scanner) : Move s s.mark
  | token (s : Scanner) (kind : TokenKind) (literal : Literal) (first last : Nat) :
      Move s { s with tokens := s.tokens.push ⟨kind, s.slice first last, literal, s.line⟩ }
  | record (s : Scanner) (d : Diagnostic) : Move s (s.record d).2
  | log (s : Scanner) (r : LogRecord) : Move s (s.addRecord r)

/-- Moves, one after another. -/
abbrev Moves : Scanner → Scanner → Prop := Relation.ReflTransGen Move

/-- At most the cursor and the line have changed. -/
structure KeepsAllButPlace (s t : Scanner) : Prop where
  start : t.start = s.start
  tokens : t.tokens = s.tokens
  diagnostics : t.diagnostics = s.diagnostics
  reports : t.reports = s.reports

/-- The operation moves from `s`, and a fault other than a refused call leaves all but the cursor and
the line. -/
structure Behaves {α : Type} (s : Scanner) (x : Except Fault α × Scanner) : Prop where
  moves : Moves s x.2
  keeps : ∀ fault, x.1 = .error fault → (∀ call, fault ≠ .refused call) → KeepsAllButPlace s x.2

/-! ### The operations, by their moves -/

theorem KeepsAllButPlace.refl (s : Scanner) : KeepsAllButPlace s s := ⟨rfl, rfl, rfl, rfl⟩

theorem KeepsAllButPlace.trans (h : KeepsAllButPlace s t) (h' : KeepsAllButPlace t u) :
    KeepsAllButPlace s u :=
  ⟨h'.start.trans h.start, h'.tokens.trans h.tokens, h'.diagnostics.trans h.diagnostics,
    h'.reports.trans h.reports⟩

namespace Behaves

variable {α β : Type}

theorem of_ok (h : Moves s t) (a : α) : Behaves s (.ok a, t) := ⟨h, fun _ e => by cases e⟩

theorem of_error (h : Moves s t) (hk : KeepsAllButPlace s t) (fault : Fault) :
    Behaves s ((.error fault : Except Fault α), t) := ⟨h, fun _ _ _ => hk⟩

theorem of_keeps {x : Except Fault α × Scanner} (h : Moves s t) (hk : KeepsAllButPlace s t)
    (hx : Behaves t x) : Behaves s x :=
  ⟨h.trans hx.moves, fun fault e hf => hk.trans (hx.keeps fault e hf)⟩

/-- What is made of the answer does not matter. -/
theorem map {x : Except Fault α × Scanner} (h : Behaves s x) (f : α → β) :
    Behaves s (x.1.map f, x.2) := by
  refine ⟨h.moves, fun fault e hf => ?_⟩
  obtain ⟨answer, t⟩ := x
  cases answer with
  | error fault' =>
    cases e
    exact h.keeps _ rfl hf
  | ok a => cases e

end Behaves

theorem moves_skip (n : Nat) (s : Scanner) : Moves s (s.skip n) :=
  .single (.forward s (k := 0) (Nat.zero_le _))

theorem keeps_skip (n : Nat) (s : Scanner) : KeepsAllButPlace s (s.skip n) := ⟨rfl, rfl, rfl, rfl⟩

/-- Passing over what comes next, with its newlines, is a move forward. -/
theorem moves_read {text : List Char} (h : text <+: s.rest) : Moves s (s.read text) := by
  refine .single (.forward s (k := text.count '\n') ?_)
  rw [← List.prefix_iff_eq_take.mp h]

theorem keeps_read (text : List Char) (s : Scanner) : KeepsAllButPlace s (s.read text) :=
  ⟨rfl, rfl, rfl, rfl⟩

theorem moves_addToken (kind : TokenKind) (literal : Literal) (s : Scanner) :
    Moves s (s.addToken kind literal) :=
  .single (.token s kind literal s.start s.current)

theorem behaves_advance (s : Scanner) : Behaves s s.advance := by
  unfold advance
  split
  · exact .of_ok (moves_skip 1 s) _
  · exact .of_error (moves_skip 1 s) (keeps_skip 1 s) _

theorem moves_nextIs (expected : String) (s : Scanner) : Moves s (s.nextIs expected).2 := by
  unfold nextIs
  split
  · split
    · exact moves_skip 1 s
    · exact .refl
  · exact .refl

theorem behaves_string (s : Scanner) : Behaves s s.string := by
  have hbody : Moves s (s.read (s.rest.takeWhile (· ≠ '"'))) :=
    moves_read (List.takeWhile_prefix _)
  rw [string_eq]
  dsimp only
  split
  · exact .of_error hbody (keeps_read _ s) _
  · exact .of_ok ((hbody.trans (moves_skip 1 _)).trans (moves_addToken _ _ _)) _

theorem behaves_number (s : Scanner) : Behaves s s.number := by
  have hskip := moves_skip (numberLength s.rest) s
  unfold number
  dsimp only
  split
  · exact .of_ok (hskip.trans (moves_addToken _ _ _)) _
  · exact .of_error hskip (keeps_skip _ s) _

theorem moves_word (s : Scanner) : Moves s s.word :=
  (moves_skip (wordLength s.rest) s).trans (moves_addToken _ _ _)

theorem moves_slash (s : Scanner) : Moves s s.slash := by
  have h := moves_nextIs "/" s
  unfold slash
  split
  · next t e =>
    rw [e] at h
    exact h.trans (moves_skip _ t)
  · next t e =>
    rw [e] at h
    exact h.trans (moves_addToken _ _ t)

theorem moves_operator (alone joined : TokenKind) (s : Scanner) :
    Moves s (s.operator alone joined) := by
  have h := moves_nextIs "=" s
  unfold operator
  split
  · next t e =>
    rw [e] at h
    exact h.trans (moves_addToken _ _ t)
  · next t e =>
    rw [e] at h
    exact h.trans (moves_addToken _ _ t)

theorem behaves_unexpected (c : Char) (s : Scanner) : Behaves s (s.unexpected c) := by
  unfold unexpected
  split <;> exact .of_error .refl (KeepsAllButPlace.refl s) _

/-- Behind any first character but a newline, whose line counts only there. -/
theorem behaves_continueFrom {c : Char} (h : Opening.ofChar c ≠ .newline) (s : Scanner) :
    Behaves s (s.continueFrom c) := by
  unfold continueFrom
  cases ho : Opening.ofChar c with
  | punctuation kind => exact .of_ok (moves_addToken _ _ s) _
  | operator alone joined => exact .of_ok (moves_operator alone joined s) _
  | blank => exact .of_ok .refl _
  | newline => exact absurd ho h
  | slash => exact .of_ok (moves_slash s) _
  | quote => exact behaves_string s
  | digit => exact behaves_number s
  | letter => exact .of_ok (moves_word s) _
  | other => exact behaves_unexpected c s

theorem behaves_scanToken (s : Scanner) : Behaves s s.scanToken := by
  unfold scanToken advance
  cases hr : s.rest with
  | nil => exact .of_error (moves_skip 1 s) (keeps_skip 1 s) _
  | cons c cs =>
    by_cases hn : Opening.ofChar c = .newline
    · have hc : c = '\n' := Opening.ofChar_eq_iff.mp hn
      subst hc
      have hread : Moves s (s.read ['\n']) := moves_read (hr ▸ List.prefix_append ['\n'] cs)
      exact .of_ok hread ()
    · exact .of_keeps (moves_skip 1 s) (keeps_skip 1 s) (behaves_continueFrom hn _)

theorem behaves_record (d : Diagnostic) (s : Scanner) : Behaves s (s.record d) := by
  refine ⟨.single (.record s d), fun fault e hf => ?_⟩
  rw [record_fst] at e
  split at e
  · cases e
    exact absurd rfl (hf _)
  · cases e

/-- **Every operation but a scan is a run of moves**, and a fault of its own only goes forward. -/
theorem behaves_perform {op : Operation} (h : op ≠ .scan) (s : Scanner) :
    Behaves s (s.perform op) := by
  cases op with
  | scan => exact absurd rfl h
  | advance => exact (behaves_advance s).map _
  | nextIs expected => exact .of_ok (moves_nextIs expected s) _
  | mark => exact .of_ok (.single (.mark s)) _
  | scanToken => exact (behaves_scanToken s).map _
  | string => exact (behaves_string s).map _
  | number => exact (behaves_number s).map _
  | word => exact .of_ok (moves_word s) _
  | addToken kind literal => exact .of_ok (moves_addToken kind literal s) _
  | record message location => exact (behaves_record _ s).map _
  | peek => exact .of_ok .refl _
  | peekNext => exact .of_ok .refl _
  | isAtEnd => exact .of_ok .refl _
  | location => exact .of_ok .refl _
  | hasErrors => exact .of_ok .refl _
  | diagnostics => exact .of_ok .refl _

/-! ### A scan, by its moves -/

theorem moves_scanLexeme (s : Scanner) : Moves s s.scanLexeme.2 := by
  have h : Moves s s.mark.scanToken.2 := .head (.mark s) (behaves_scanToken s.mark).moves
  unfold scanLexeme
  split
  · next d t e =>
    rw [e] at h
    exact h.tail (.record t d)
  · exact h

theorem moves_scanLexemes (n : Nat) (s : Scanner) : Moves s (s.scanLexemes n).2 := by
  induction n generalizing s with
  | zero => exact .refl
  | succ n ih =>
    have h := moves_scanLexeme s
    unfold scanLexemes
    split
    · exact .refl
    · split
      · next t e =>
        rw [e] at h
        exact h.trans (ih t)
      · next fault t e =>
        rw [e] at h
        exact h

theorem moves_finish (s : Scanner) : Moves s s.finish := by
  have hempty : s.slice 0 0 = "" := by
    unfold slice
    rw [Nat.sub_self, List.take_zero]
  have htoken := Move.token s .endOfInput .absent 0 0
  rw [hempty] at htoken
  exact .tail (.single htoken) (.log _ _)

/-- A scan is a run of moves from the beginning of the source. -/
theorem moves_scan (s : Scanner) : Moves s.restart s.scan.2 := by
  have h := moves_scanLexemes s.restart.source.length s.restart
  unfold scan
  dsimp only
  split
  · next t e =>
    rw [e] at h
    exact h.trans (moves_finish t)
  · next fault t e =>
    rw [e] at h
    exact h

/-- Only a refused diagnostic stops a scanner that absorbs a span. -/
theorem absorb_fst_error {p : Span} {fault : Fault} (h : (s.absorb p).1 = .error fault) :
    ∃ call, fault = .refused call := by
  unfold absorb at h
  dsimp only at h
  split at h
  · rw [record_fst] at h
    split at h
    · cases h
      exact ⟨_, rfl⟩
    · cases h
  · cases h
  · cases h

theorem absorbAll_fst_error {ps : List Span} {fault : Fault} (h : (absorbAll ps s).1 = .error fault) :
    ∃ call, fault = .refused call := by
  induction ps generalizing s with
  | nil => cases h
  | cons p ps ih =>
    unfold absorbAll at h
    split at h
    · exact ih h
    · next fault' t e =>
      cases h
      exact absorb_fst_error (congrArg Prod.fst e)

theorem scan_fst_error {fault : Fault} (h : s.scan.1 = .error fault) :
    ∃ call, fault = .refused call := by
  rw [scan_eq_absorbAll] at h
  split at h
  · cases h
  · next fault' t e =>
    cases h
    exact absorbAll_fst_error (congrArg Prod.fst e)

/-! ### What the moves preserve -/

/-- A scanner whose start, line and tokens are in order. -/
structure Orderly (s : Scanner) : Prop where
  start_le : s.start ≤ s.current
  line_pos : 1 ≤ s.line
  line_le : s.line ≤ 1 + (s.source.take s.current).count '\n'
  tokens_mono : s.tokens.toList.Pairwise fun t u => t.line ≤ u.line
  tokens_le : ∀ t ∈ s.tokens.toList, t.line ≤ s.line
  lexemes : ∀ t ∈ s.tokens.toList, t.lexeme.toList <:+: s.source

theorem infix_slice (s : Scanner) (first last : Nat) : (s.slice first last).toList <:+: s.source := by
  unfold slice
  rw [String.toList_ofList]
  exact (List.take_prefix _ _).isInfix.trans (List.drop_suffix _ _).isInfix

/-- **Every move keeps a scanner in order.** -/
theorem Orderly.move (h : Orderly s) (hm : Move s t) : Orderly t := by
  obtain ⟨hstart, hpos, hline, hmono, htokens, hlexemes⟩ := h
  cases hm with
  | @forward n k counted =>
    have hcount : (s.source.take (s.current + n)).count '\n' =
        (s.source.take s.current).count '\n' + (s.rest.take n).count '\n' := by
      rw [List.take_add, List.count_append]
      rfl
    refine ⟨Nat.le_add_right_of_le hstart, Nat.le_add_right_of_le hpos, ?_, hmono, ?_, hlexemes⟩
    · dsimp only
      omega
    · intro t ht
      have := htokens t ht
      dsimp only
      omega
  | mark => exact ⟨le_rfl, hpos, hline, hmono, htokens, hlexemes⟩
  | token kind literal first last =>
    have hpush : (s.tokens.push ⟨kind, s.slice first last, literal, s.line⟩).toList =
        s.tokens.toList ++ [⟨kind, s.slice first last, literal, s.line⟩] := Array.toList_push
    refine ⟨hstart, hpos, hline, ?_, ?_, ?_⟩
    · rw [hpush, List.pairwise_append]
      refine ⟨hmono, List.pairwise_singleton _ _, fun t ht u hu => ?_⟩
      rw [List.mem_singleton.mp hu]
      exact htokens t ht
    · rw [hpush]
      exact List.forall_mem_append.mpr ⟨htokens, List.forall_mem_singleton.mpr le_rfl⟩
    · rw [hpush]
      exact List.forall_mem_append.mpr ⟨hlexemes, List.forall_mem_singleton.mpr (infix_slice s _ _)⟩
  | record d =>
    rw [record_snd]
    exact ⟨hstart, hpos, hline, hmono, htokens, hlexemes⟩
  | log r => exact ⟨hstart, hpos, hline, hmono, htokens, hlexemes⟩

theorem Orderly.moves (h : Orderly s) (hm : Moves s t) : Orderly t := by
  induction hm with
  | refl => exact h
  | tail _ hstep ih => exact ih.move hstep

theorem orderly_restart (s : Scanner) : Orderly s.restart := by
  refine ⟨le_rfl, le_rfl, le_rfl, .nil, ?_, ?_⟩ <;> intro t ht <;> cases ht

/-- Between `s` and `t` as many diagnostics were kept as calls of the listener were made. -/
def Told (s t : Scanner) : Prop :=
  t.listener = s.listener ∧
    (s.listener.isSome → t.reports.size + s.diagnostics.size = s.reports.size + t.diagnostics.size)

theorem Told.trans (h : Told s t) (h' : Told t u) : Told s u := by
  refine ⟨h'.1.trans h.1, fun hl => ?_⟩
  have h1 := h.2 hl
  have h2 := h'.2 (h.1 ▸ hl)
  omega

/-- **Every move tells the listener of the diagnostics that it keeps**, whatever the listener says. -/
theorem told_move (hm : Move s t) : Told s t := by
  cases hm with
  | record d =>
    refine ⟨by rw [record_snd], fun hl => ?_⟩
    obtain ⟨l, hl⟩ := Option.isSome_iff_exists.mp hl
    have hreports : (s.record d).2.reports = s.reports.push d.report := by
      rw [record_snd, hl]
      apply Array.toList_inj.mp
      simp [reports, Diagnostic.events]
      rfl
    have hdiagnostics : (s.record d).2.diagnostics = s.diagnostics.push d := by rw [record_snd]
    rw [hreports, hdiagnostics, Array.size_push, Array.size_push]
    omega
  | log r =>
    refine ⟨rfl, fun _ => ?_⟩
    rw [reports_addRecord]
    rfl
  | _ => exact ⟨rfl, fun _ => rfl⟩

theorem told_moves (hm : Moves s t) : Told s t := by
  induction hm with
  | refl => exact ⟨rfl, fun _ => rfl⟩
  | tail _ hstep ih => exact ih.trans (told_move hstep)

/-! ### Any operations -/

/-- Behind any operations a scanner has moved from where it was, or from the beginning of its last scan. -/
theorem moves_performAll (ops : List Operation) (s : Scanner) :
    Moves s (s.performAll ops) ∨ .scan ∈ ops ∧ ∃ u, Moves (restart u) (s.performAll ops) := by
  induction ops generalizing s with
  | nil => exact Or.inl .refl
  | cons op ops ih =>
    rcases ih (s.perform op).2 with h | ⟨hscan, u, h⟩
    · by_cases hop : op = .scan
      · subst hop
        exact Or.inr ⟨List.mem_cons_self, s, (moves_scan s).trans h⟩
      · exact Or.inl ((behaves_perform hop s).moves.trans h)
    · exact Or.inr ⟨List.mem_cons_of_mem op hscan, u, h⟩

/-- No operation but a scan has a fault that leaves more than the cursor changed, and a scan has none but
a refused call. -/
theorem keeps_perform {op : Operation} {fault : Fault} (h : (s.perform op).1 = .error fault)
    (hf : ∀ call, fault ≠ .refused call) : KeepsAllButPlace s (s.perform op).2 := by
  by_cases hop : op = .scan
  · subst hop
    cases hscan : s.scan.1 with
    | ok ts =>
      have hok : (s.perform .scan).1 = s.scan.1.map .tokens := rfl
      rw [hok, hscan] at h
      cases h
    | error fault' =>
      have herror : (s.perform .scan).1 = s.scan.1.map .tokens := rfl
      rw [herror, hscan] at h
      cases h
      obtain ⟨call, rfl⟩ := scan_fst_error hscan
      exact absurd rfl (hf call)
  · exact (behaves_perform hop s).keeps fault h hf

/-- **A scanner stays in order, whatever is done with it**, in any order and with any faults.  The
listener has heard of every diagnostic that is kept, and of no others before the first scan; and an
operation that stops with a fault, unless the listener refused, has changed the cursor and the line at
most. -/
theorem performAll_orderly (source : List Char) (file : String) (listener : Option Listener)
    (ops : List Operation) :
    let s := (new source file listener).performAll ops
    s.source = source ∧ Orderly s ∧
      (listener.isSome → s.diagnostics.size ≤ s.reports.size ∧
        (.scan ∉ ops → s.diagnostics.size = s.reports.size)) ∧
      ∀ op fault, (s.perform op).1 = .error fault → (∀ call, fault ≠ .refused call) →
        KeepsAllButPlace s (s.perform op).2 := by
  intro s
  have hsame := same_performAll ops (new source file listener)
  have hnew : (new source file listener).restart = new source file listener := rfl
  refine ⟨hsame.source, ?_, fun hl => ?_, fun op fault h hf => keeps_perform h hf⟩
  · rcases moves_performAll ops (new source file listener) with h | ⟨-, u, h⟩
    · exact (hnew ▸ orderly_restart (new source file listener)).moves h
    · exact (orderly_restart u).moves h
  · rcases moves_performAll ops (new source file listener) with h | ⟨hscan, u, h⟩
    · have htold : s.reports.size + 0 = 0 + s.diagnostics.size := (told_moves h).2 hl
      exact ⟨by omega, fun _ => by omega⟩
    · have hu : u.restart.listener.isSome := by
        rw [← (told_moves h).1, hsame.listener]
        exact hl
      have htold : s.reports.size + 0 = u.reports.size + s.diagnostics.size := (told_moves h).2 hu
      exact ⟨by omega, fun hno => absurd hscan hno⟩

/-- A newline that is passed over by hand is not counted: the line stays behind. -/
example : ((new ['\n'] "a.lox" none).performAll [.advance]).line = 1 := rfl

end Scanner

end LoxLex
