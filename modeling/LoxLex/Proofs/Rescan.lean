import LoxLex.Proofs.Run
import LoxLex.Scanner.Operation

/-!
# LoxLex.Proofs.Rescan — a scan starts over

Whatever was done with a scanner, with or without faults, its source, its name and its listener are
still those that it was made with (`Scanner.same_performAll`), and a scan asks for nothing else
(`Scanner.repeats_completed`).  So a scan after any history is the scan of a new scanner
(`Scanner.scan_performAll`).
-/

namespace LoxLex

/-- All listeners are told the same. -/
theorem Diagnostic.events_congr {listener fresh : Option Listener}
    (h : fresh.isSome = listener.isSome) (d : Diagnostic) : d.events fresh = d.events listener := by
  cases listener with
  | none =>
    cases fresh with
    | none => rfl
    | some l => cases h
  | some l =>
    cases fresh with
    | none => cases h
    | some l' => rfl

namespace Scanner

variable {s t u : Scanner}

/-- The same source under the same name, with the same listener. -/
structure Same (s t : Scanner) : Prop where
  source : t.source = s.source
  file : t.file = s.file
  listener : t.listener = s.listener

theorem Same.refl (s : Scanner) : Same s s := ⟨rfl, rfl, rfl⟩

theorem Same.trans (h : Same s t) (h' : Same t u) : Same s u :=
  ⟨h'.source.trans h.source, h'.file.trans h.file, h'.listener.trans h.listener⟩

theorem Same.of_eq {α : Type} {a : α} {x : α × Scanner} (h : Same s x.2) (e : x = (a, t)) :
    Same s t := by
  rw [e] at h
  exact h

theorem Gathers.same {ps : List Span} (h : Gathers ps s t) : Same s t :=
  ⟨h.source, h.file, h.listener⟩

/-! ### One operation -/

theorem same_record (d : Diagnostic) (s : Scanner) : Same s (s.record d).2 := by
  rw [record_snd]
  exact ⟨rfl, rfl, rfl⟩

theorem same_advance (s : Scanner) : Same s s.advance.2 := by
  unfold advance
  split <;> exact ⟨rfl, rfl, rfl⟩

theorem same_nextIs (expected : String) (s : Scanner) : Same s (s.nextIs expected).2 := by
  unfold nextIs
  split
  · split <;> exact ⟨rfl, rfl, rfl⟩
  · exact Same.refl s

theorem same_string (s : Scanner) : Same s s.string.2 := by
  rw [string_eq]
  dsimp only
  split <;> exact ⟨rfl, rfl, rfl⟩

theorem same_number (s : Scanner) : Same s s.number.2 := by
  unfold number
  dsimp only
  split <;> exact ⟨rfl, rfl, rfl⟩

theorem same_slash (s : Scanner) : Same s s.slash := by
  have h := same_nextIs "/" s
  unfold slash
  split
  · next t e => exact (h.of_eq e).trans ⟨rfl, rfl, rfl⟩
  · next t e => exact (h.of_eq e).trans ⟨rfl, rfl, rfl⟩

theorem same_operator (alone joined : TokenKind) (s : Scanner) :
    Same s (s.operator alone joined) := by
  have h := same_nextIs "=" s
  unfold operator
  split
  · next t e => exact (h.of_eq e).trans ⟨rfl, rfl, rfl⟩
  · next t e => exact (h.of_eq e).trans ⟨rfl, rfl, rfl⟩

theorem same_unexpected (c : Char) (s : Scanner) : Same s (s.unexpected c).2 := by
  unfold unexpected
  split <;> exact Same.refl s

theorem same_continueFrom (c : Char) (s : Scanner) : Same s (s.continueFrom c).2 := by
  unfold continueFrom
  cases Opening.ofChar c with
  | punctuation kind => exact ⟨rfl, rfl, rfl⟩
  | operator alone joined => exact same_operator alone joined s
  | blank => exact Same.refl s
  | newline => exact ⟨rfl, rfl, rfl⟩
  | slash => exact same_slash s
  | quote => exact same_string s
  | digit => exact same_number s
  | letter => exact ⟨rfl, rfl, rfl⟩
  | other => exact same_unexpected c s

theorem same_scanToken (s : Scanner) : Same s s.scanToken.2 := by
  have h := same_advance s
  unfold scanToken
  split
  · next c t e => exact (h.of_eq e).trans (same_continueFrom c t)
  · next fault t e => exact h.of_eq e

theorem same_absorbAll (ps : List Span) (s : Scanner) : Same s (absorbAll ps s).2 := by
  induction ps generalizing s with
  | nil => exact Same.refl s
  | cons p ps ih =>
    have h := (gathers_absorb p s).same
    unfold absorbAll
    split
    · next t e => exact (h.of_eq e).trans (ih t)
    · next fault t e => exact h.of_eq e

theorem same_scan (s : Scanner) : Same s s.scan.2 := by
  have hrestart : Same s s.restart := ⟨rfl, rfl, rfl⟩
  have h := hrestart.trans (same_absorbAll (segments s.source) s.restart)
  rw [scan_eq_absorbAll]
  split
  · next t e => exact (h.of_eq e).trans ⟨rfl, rfl, rfl⟩
  · next fault t e => exact h.of_eq e

/-- **No operation changes the source, the name or the listener**, whatever it answers. -/
theorem same_perform (op : Operation) (s : Scanner) : Same s (s.perform op).2 := by
  cases op with
  | scan => exact same_scan s
  | advance => exact same_advance s
  | nextIs expected => exact same_nextIs expected s
  | mark => exact ⟨rfl, rfl, rfl⟩
  | scanToken => exact same_scanToken s
  | string => exact same_string s
  | number => exact same_number s
  | word => exact ⟨rfl, rfl, rfl⟩
  | addToken kind literal => exact ⟨rfl, rfl, rfl⟩
  | record message location => exact same_record _ s
  | peek => exact Same.refl s
  | peekNext => exact Same.refl s
  | isAtEnd => exact Same.refl s
  | location => exact Same.refl s
  | hasErrors => exact Same.refl s
  | diagnostics => exact Same.refl s

/-- Nor does a list of operations. -/
theorem same_performAll (ops : List Operation) (s : Scanner) : Same s (s.performAll ops) := by
  induction ops generalizing s with
  | nil => exact Same.refl s
  | cons op ops ih => exact (same_perform op s).trans (ih (s.perform op).2)

/-! ### A scan after other operations -/

/-- The last lexeme of a scan begins where the spans in front of it end. -/
theorem completed_start (s : Scanner) :
    s.completed.start = (spelled (segments s.source).dropLast).length := by
  show (s.restart.gather (segments s.source)).start = _
  rcases List.eq_nil_or_concat (segments s.source) with h | ⟨ps, p, h⟩
  · -- Nothing to read: the start is where the scan put it.
    rw [h]
    rfl
  · rw [h, List.concat_eq_append, gather_concat_start, List.dropLast_concat]
    exact Nat.zero_add _

/-- Everything in `t` that a scan determines is as in `u`, and the outside has been told the same as by
`u`, in addition to what it was told in `s`. -/
structure Repeats (s u t : Scanner) : Prop where
  start : t.start = u.start
  current : t.current = u.current
  line : t.line = u.line
  tokens : t.tokens = u.tokens
  diagnostics : t.diagnostics = u.diagnostics
  events : t.events = s.events ++ u.events
  log : t.log = s.log ++ u.log
  reports : t.reports = s.reports ++ u.reports

/-- **A scan depends on the source and its name alone.** -/
theorem repeats_completed {fresh : Option Listener} (h : fresh.isSome = s.listener.isSome) :
    Repeats s (new s.source s.file fresh).completed s.completed := by
  have hs := completes_completed s
  have hu := completes_completed (new s.source s.file fresh)
  have htokens : s.completed.tokens = (new s.source s.file fresh).completed.tokens :=
    Array.toList_inj.mp (hs.tokens.trans hu.tokens.symm)
  have hdiagnostics : s.completed.diagnostics = (new s.source s.file fresh).completed.diagnostics :=
    Array.toList_inj.mp (hs.diagnostics.trans hu.diagnostics.symm)
  have hevents : s.completed.events = s.events ++ (new s.source s.file fresh).completed.events := by
    apply Array.toList_inj.mp
    have hall : (fun d => Diagnostic.events fresh d) = (·.events s.listener) :=
      funext (Diagnostic.events_congr h)
    rw [Array.toList_append, hs.events, hu.events, htokens, hdiagnostics,
      show (new s.source s.file fresh).listener = fresh from rfl, hall]
    rfl
  refine
    { start := ?_
      current := hs.current.trans hu.current.symm
      line := hs.line.trans hu.line.symm
      tokens := htokens
      diagnostics := hdiagnostics
      events := hevents
      log := ?_
      reports := ?_ }
  · rw [completed_start, completed_start]
    rfl
  · rw [log, hevents]
    apply Array.toList_inj.mp
    simp [log]
  · rw [reports, hevents]
    apply Array.toList_inj.mp
    simp [reports]

/-- **A scan forgets what was before it**: after any operations, also refused and faulty ones, a scan
whose diagnostics the listener takes is the scan of a new scanner of the same source and name. -/
theorem scan_performAll (source : List Char) (file : String) (listener fresh : Option Listener)
    (ops : List Operation) (hsome : fresh.isSome = listener.isSome) (hfresh : Patient fresh)
    (h : ((new source file listener).performAll ops).Takes
      (scanSource source file).diagnostics.length) :
    let s := (new source file listener).performAll ops
    ∃ t u, s.scan = (.ok t.tokens, t) ∧ (new source file fresh).scan = (.ok u.tokens, u) ∧
      Repeats s u t := by
  intro s
  -- Of the whole history only the calls of the listener matter, and those are in `h`.
  obtain ⟨hsource, hfile, hlistener⟩ := same_performAll ops (new source file listener)
  have hs : s.source = source := hsource
  have hf : s.file = file := hfile
  have hl : s.listener = listener := hlistener
  have htakes : s.Takes (diagnosticsFrom s.file 1 (segments s.source)).length := by
    rw [hs, hf]
    rw [scanSource_eq] at h
    exact h
  rw [← hl] at hsome
  have hrepeats := repeats_completed hsome
  have hnew := scan_takes (takes_of_patient (s := new s.source s.file fresh) hfresh _)
  rw [hs, hf] at hrepeats hnew
  exact ⟨_, _, scan_takes htakes, hnew, hrepeats⟩

/-- A history of a refused scan, calls past the end, a string from nowhere and a token by hand. -/
theorem scan_performAll_refused :
    let s := (new ['@', '\n', 'x'] "a.lox" (some (.refusingAt 1))).performAll
      [.scan, .advance, .advance, .advance, .string, .addToken .slash .absent]
    s.Takes 1 ∧ Patient (some .patient) ∧ s.current = 4 ∧ s.tokens.size = 1 ∧
      ∃ t, s.scan = (.ok t.tokens, t) ∧
        t.tokens = #[⟨.identifier, "x", .absent, 2⟩, .endOfInput 2] ∧
        t.reports = #[⟨1, "Unexpected character."⟩, ⟨1, "Unexpected character."⟩] := by
  intro s
  have hlistener : s.listener = some (.refusingAt 1) :=
    (same_performAll _ (new ['@', '\n', 'x'] "a.lox" (some (.refusingAt 1)))).listener
  have hcall : s.nextCall = 2 := by decide +kernel
  have htakes : s.Takes 1 := by
    intro l hl k hk
    rw [hlistener] at hl
    cases hl
    obtain rfl : k = 0 := by omega
    rw [hcall]
    rfl
  obtain ⟨t, u, ht, hu, hrepeats⟩ := scan_performAll ['@', '\n', 'x'] "a.lox"
    (some (.refusingAt 1)) (some .patient)
    [.scan, .advance, .advance, .advance, .string, .addToken .slash .absent] rfl patient_patient htakes
  have hu' : u = (new ['@', '\n', 'x'] "a.lox" (some .patient)).scan.2 := by rw [hu]
  refine ⟨htakes, patient_patient, by decide +kernel, by decide +kernel, t, ht, ?_, ?_⟩
  · rw [hrepeats.tokens, hu']
    decide +kernel
  · rw [hrepeats.reports, hu']
    decide +kernel

end Scanner

end LoxLex
