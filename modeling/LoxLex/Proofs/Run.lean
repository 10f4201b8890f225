import LoxLex.Proofs.Step

/-!
# LoxLex.Proofs.Run — a whole scan, span by span

`Scanner.scanLexemes_eq`: reading lexemes is absorbing the segments of what is still to be read, for
every budget and every listener.  `Gathers ps s t` says what the spans `ps` add to a scanner, be it in
one turn (`gathers_absorb`) or in many (`gathers_gather`); `Takes n s` says that the listener of `s`
does not refuse its next `n` calls.

* `Scanner.absorbAll_append`: spans whose diagnostics are all taken are gathered, and the spans behind
  them go on from there.
* `Scanner.scan_takes`: if every diagnostic is taken, a scan of any scanner answers with the tokens of
  the segments of its source; `Completes s t` is all that it leaves behind.
* `scanSource_eq`: the same for a source with a name.
-/

namespace LoxLex

/-- Nobody listens, or the listener takes every call. -/
def Patient (listener : Option Listener) : Prop := ∀ l ∈ listener, ∀ n, l.refuses n = false

theorem patient_none : Patient none := fun _ h => by cases h

theorem patient_patient : Patient (some .patient) := by
  rintro l h n
  cases h
  rfl

namespace Diagnostic

/-- A diagnostic as the listener hears of it. -/
def report (d : Diagnostic) : Report := ⟨d.line, d.message⟩

/-- A diagnostic as the log has it. -/
def logRecord (d : Diagnostic) : LogRecord := .diagnostic d.location d.message

/-- What the outside is told of a diagnostic. -/
def events (listener : Option Listener) (d : Diagnostic) : List Event :=
  .logged d.logRecord :: (listener.toList.map fun _ => .reported d.report)

end Diagnostic

theorem reports_of_events (listener : Option Listener) (ds : List Diagnostic) :
    (ds.flatMap (·.events listener)).filterMap Event.report? =
      if listener.isSome then ds.map (·.report) else [] := by
  induction ds with
  | nil => cases listener <;> rfl
  | cons d ds ih =>
    rw [List.flatMap_cons, List.filterMap_append, ih, List.map_cons]
    cases listener <;> rfl

namespace Scanner

variable {s t u : Scanner} {p : Span} {ps qs : List Span} {m n : Nat}

/-- What spans add to a scanner. -/
structure Gathers (ps : List Span) (s t : Scanner) : Prop where
  source : t.source = s.source
  file : t.file = s.file
  listener : t.listener = s.listener
  current : t.current = s.current + (spelled ps).length
  line : t.line = s.line + (spelled ps).count '\n'
  tokens : t.tokens.toList = s.tokens.toList ++ tokensFrom s.line ps
  diagnostics : t.diagnostics.toList = s.diagnostics.toList ++ diagnosticsFrom s.file s.line ps
  events : t.events.toList =
    s.events.toList ++ (diagnosticsFrom s.file s.line ps).flatMap (·.events s.listener)

theorem Gathers.refl (s : Scanner) : Gathers [] s s := by
  refine ⟨rfl, rfl, rfl, rfl, rfl, ?_, ?_, ?_⟩ <;> simp

theorem Gathers.trans (h : Gathers ps s t) (h' : Gathers qs t u) : Gathers (ps ++ qs) s u := by
  refine ⟨h'.source.trans h.source, h'.file.trans h.file, h'.listener.trans h.listener, ?_, ?_, ?_,
    ?_, ?_⟩
  · rw [h'.current, h.current, spelled_append, List.length_append, Nat.add_assoc]
  · rw [h'.line, h.line, spelled_append, List.count_append, Nat.add_assoc]
  · rw [h'.tokens, h.tokens, h.line, tokensFrom_append, List.append_assoc]
  · rw [h'.diagnostics, h.diagnostics, h.file, h.line, diagnosticsFrom_append, List.append_assoc]
  · rw [h'.events, h.events, h.file, h.line, h.listener, diagnosticsFrom_append,
      List.flatMap_append, List.append_assoc]

/-- What is left to read behind the spans. -/
theorem Gathers.rest {more : List Char} (h : Gathers ps s t) (hr : s.rest = spelled ps ++ more) :
    t.rest = more := by
  unfold Scanner.rest
  rw [h.source, h.current]
  exact rest_skip hr

/-- The listener hears of every diagnostic. -/
theorem Gathers.reports (h : Gathers ps s t) : t.reports.toList = s.reports.toList ++
    if s.listener.isSome then (diagnosticsFrom s.file s.line ps).map (·.report) else [] := by
  unfold Scanner.reports
  rw [Array.toList_filterMap, Array.toList_filterMap, h.events, List.filterMap_append,
    reports_of_events]

/-! ### The listener -/

/-- The number of the next call of the listener. -/
def nextCall (s : Scanner) : Nat := s.reports.size + 1

/-- Does the listener refuse its next call? -/
def refusesNext (s : Scanner) : Bool := s.listener.any (·.refuses s.nextCall)

/-- Nobody listens, or the listener takes its next `n` calls. -/
def Takes (n : Nat) (s : Scanner) : Prop :=
  ∀ l ∈ s.listener, ∀ k < n, l.refuses (s.nextCall + k) = false

theorem takes_of_patient (h : Patient s.listener) (n : Nat) : s.Takes n :=
  fun l hl _ _ => h l hl _

theorem Takes.mono (h : s.Takes n) (hm : m ≤ n) : s.Takes m :=
  fun l hl k hk => h l hl k (Nat.lt_of_lt_of_le hk hm)

theorem Takes.refusesNext (h : s.Takes n) (hn : 0 < n) : s.refusesNext = false := by
  unfold Scanner.refusesNext
  cases hl : s.listener with
  | none => rfl
  | some l => exact h l hl 0 hn

theorem Gathers.nextCall {l : Listener} (h : Gathers ps s t) (hl : s.listener = some l) :
    t.nextCall = s.nextCall + (diagnosticsFrom s.file s.line ps).length := by
  have hsize := congrArg List.length h.reports
  rw [hl, Option.isSome_some, if_pos rfl, List.length_append, List.length_map, Array.length_toList,
    Array.length_toList] at hsize
  unfold Scanner.nextCall
  omega

/-- Of the calls that are taken, those for the diagnostics of spans are made first. -/
theorem Gathers.takes (h : Gathers ps s t)
    (ht : s.Takes ((diagnosticsFrom s.file s.line ps).length + n)) : t.Takes n := by
  intro l hl k hk
  rw [h.listener] at hl
  rw [h.nextCall hl, Nat.add_assoc]
  exact ht l hl _ (Nat.add_lt_add_left hk _)

/-! ### One turn -/

/-- A diagnostic is kept, logged and reported, even if the listener then refuses to go on. -/
theorem record_snd (d : Diagnostic) (s : Scanner) : (s.record d).2 =
    { s with
      diagnostics := s.diagnostics.push d
      events := s.events ++ (d.events s.listener).toArray } := by
  unfold record notify addRecord Diagnostic.events
  cases s.listener <;> rfl

theorem reports_addRecord (r : LogRecord) (s : Scanner) : (s.addRecord r).reports = s.reports := by
  apply Array.toList_inj.mp
  simp [reports, addRecord, Event.report?]

theorem notify_fst (r : Report) (s : Scanner) : (s.notify r).1 =
    if s.refusesNext then .error (.refused s.nextCall) else .ok () := by
  unfold notify refusesNext
  cases hl : s.listener with
  | none => rfl
  | some l =>
    have hcall : ({ s with events := s.events.push (.reported r) } : Scanner).reports.size =
        s.nextCall := by
      rw [nextCall, ← Array.length_toList, ← Array.length_toList]
      simp [reports, Event.report?]
    dsimp only
    rw [hl] at hcall
    rw [hcall, Option.any_some]

/-- A diagnostic stops the scanner just when the listener refuses. -/
theorem record_fst (d : Diagnostic) (s : Scanner) : (s.record d).1 =
    if s.refusesNext then .error (.refused s.nextCall) else .ok () := by
  unfold record
  dsimp only
  rw [notify_fst, refusesNext, nextCall, reports_addRecord]
  rfl

/-- Where a span ends, and what it adds there. -/
theorem absorb_snd (p : Span) (s : Scanner) :
    let t := s.pass p.text
    let ds := (p.diagnostic? t.location).toList
    (s.absorb p).2 =
      { t with
        tokens := s.tokens ++ (p.token? t.line).toList.toArray
        diagnostics := s.diagnostics ++ ds.toArray
        events := s.events ++ (ds.flatMap (·.events s.listener)).toArray } := by
  -- A span with a diagnostic has no token, so the order of the two cases does not matter.
  have hnone : ∀ d ∈ p.diagnostic? (s.pass p.text).location,
      p.token? (s.pass p.text).line = none := by
    intro d hd
    cases p with
    | lexeme => cases hd
    | unterminated => rfl
    | unexpected => rfl
  unfold absorb
  dsimp only
  cases hd : p.diagnostic? (s.pass p.text).location with
  | some d =>
    rw [hnone d hd, record_snd]
    simp [pass, read, mark]
  | none =>
    cases p.token? (s.pass p.text).line <;> simp [pass, read, mark]

/-- **A span adds its token or its diagnostic**, whatever the listener does. -/
theorem gathers_absorb (p : Span) (s : Scanner) : Gathers [p] s (s.absorb p).2 := by
  have htokens := tokensFrom_cons s.line p []
  have hdiagnostics := diagnosticsFrom_cons s.file s.line p []
  rw [tokensFrom_nil, List.append_nil] at htokens
  rw [diagnosticsFrom_nil, List.append_nil] at hdiagnostics
  rw [absorb_snd]
  refine ⟨rfl, rfl, rfl, ?_, ?_, ?_, ?_, ?_⟩
  · rw [spelled_cons, spelled_nil, List.append_nil]
    rfl
  · rw [spelled_cons, spelled_nil, List.append_nil]
    rfl
  · rw [htokens, Array.toList_append]
    rfl
  · rw [hdiagnostics, Array.toList_append]
    rfl
  · rw [hdiagnostics, Array.toList_append]
    rfl

/-- The diagnostic of a span, if it has one. -/
theorem diagnosticsFrom_singleton (p : Span) (s : Scanner) :
    diagnosticsFrom s.file s.line [p] = (p.diagnostic? (s.pass p.text).location).toList := by
  rw [diagnosticsFrom_cons, diagnosticsFrom_nil, List.append_nil]
  rfl

/-- Only a diagnostic that the listener refuses stops the scanner. -/
theorem absorb_fst_of_takes (h : s.Takes (diagnosticsFrom s.file s.line [p]).length) :
    (s.absorb p).1 = .ok () := by
  rw [diagnosticsFrom_singleton] at h
  unfold absorb
  dsimp only
  split
  · next d hd =>
    rw [hd] at h
    have hnext : (s.pass p.text).refusesNext = false := h.refusesNext Nat.one_pos
    rw [record_fst, hnext]
    rfl
  · rfl
  · rfl

theorem absorb_fst_of_refuses {d : Diagnostic}
    (hd : p.diagnostic? (s.pass p.text).location = some d) (h : s.refusesNext = true) :
    (s.absorb p).1 = .error (.refused s.nextCall) := by
  have hnext : (s.pass p.text).refusesNext = true := h
  unfold absorb
  dsimp only
  rw [hd]
  dsimp only
  rw [record_fst, hnext]
  rfl

/-! ### Many turns -/

/-- Absorbs spans one after another, until the listener refuses to go on. -/
def absorbAll : List Span → Scanner → Except Fault Unit × Scanner
  | [], s => (.ok (), s)
  | p :: ps, s => match s.absorb p with
    | (.ok (), s) => absorbAll ps s
    | (.error fault, s) => (.error fault, s)

/-- **Reading lexemes is absorbing segments.** -/
theorem scanLexemes_eq (n : Nat) (s : Scanner) :
    scanLexemes n s = absorbAll ((segments s.rest).take n) s := by
  induction n generalizing s with
  | zero => rfl
  | succ n ih =>
    unfold scanLexemes isAtEnd
    cases hr : s.rest with
    | nil => simp [absorbAll]
    | cons c cs =>
      obtain ⟨more, e, -⟩ := Span.exists_rest c cs
      rw [segments_cons more e, List.take_succ_cons, absorbAll, scanLexeme_eq hr]
      -- The span is absorbed whole even when the listener refuses; only then the two sides stop.
      have hrest : (s.absorb (Span.first c cs)).2.rest = more := by
        refine (gathers_absorb (Span.first c cs) s).rest ?_
        rw [hr, e]
        simp
      cases ha : s.absorb (Span.first c cs) with
      | mk answer t =>
        rw [ha] at hrest
        cases answer with
        | error fault => rfl
        | ok =>
          dsimp only
          rw [ih t, hrest]
          rfl

theorem absorbAll_cons (h : (s.absorb p).1 = .ok ()) (ps : List Span) :
    absorbAll (p :: ps) s = absorbAll ps (s.absorb p).2 := by
  rw [absorbAll]
  cases ha : s.absorb p with
  | mk answer t =>
    rw [ha] at h
    obtain rfl : answer = .ok () := h
    rfl

/-- The scanner behind spans, whatever the listener says to their diagnostics. -/
def gather (s : Scanner) (ps : List Span) : Scanner := ps.foldl (fun s p => (s.absorb p).2) s

theorem gather_append (s : Scanner) (ps qs : List Span) :
    s.gather (ps ++ qs) = (s.gather ps).gather qs :=
  List.foldl_append

/-- **Spans add their tokens and their diagnostics.** -/
theorem gathers_gather (ps : List Span) (s : Scanner) : Gathers ps s (s.gather ps) := by
  induction ps generalizing s with
  | nil => exact Gathers.refl s
  | cons p ps ih => exact (gathers_absorb p s).trans (ih (s.absorb p).2)

/-- The last span is the present lexeme. -/
theorem gather_concat_start (s : Scanner) (ps : List Span) (p : Span) :
    (s.gather (ps ++ [p])).start = s.current + (spelled ps).length := by
  have hlast : s.gather (ps ++ [p]) = ((s.gather ps).absorb p).2 := gather_append s ps [p]
  rw [hlast, absorb_snd, ← (gathers_gather ps s).current]
  rfl

/-- **As long as the listener takes the diagnostics, spans are absorbed one after another.** -/
theorem absorbAll_append (h : s.Takes (diagnosticsFrom s.file s.line ps).length) (qs : List Span) :
    absorbAll (ps ++ qs) s = absorbAll qs (s.gather ps) := by
  induction ps generalizing s with
  | nil => rfl
  | cons p ps ih =>
    have hp := gathers_absorb p s
    have hsplit := diagnosticsFrom_append s.file s.line [p] ps
    rw [show [p] ++ ps = p :: ps from rfl] at hsplit
    rw [hsplit, List.length_append] at h
    have hok := absorb_fst_of_takes (h.mono (Nat.le_add_right _ _))
    have hmore := hp.takes h
    rw [← hp.line, ← hp.file] at hmore
    rw [List.cons_append, absorbAll_cons hok, ih hmore]
    rfl

theorem absorbAll_takes (h : s.Takes (diagnosticsFrom s.file s.line ps).length) :
    absorbAll ps s = (.ok (), s.gather ps) := by
  have hall := absorbAll_append h []
  rw [List.append_nil] at hall
  exact hall

theorem absorbAll_patient (h : Patient s.listener) (ps : List Span) :
    ∃ t, absorbAll ps s = (.ok (), t) ∧ Gathers ps s t :=
  ⟨s.gather ps, absorbAll_takes (takes_of_patient h _), gathers_gather ps s⟩

/-- A text has as many spans as characters at most. -/
theorem length_segments_le (cs : List Char) : (segments cs).length ≤ cs.length := by
  induction cs using segments_induction with
  | nil => simp
  | lexeme p text rest ht hc ih =>
    have hpos := List.length_pos_iff.mpr (Pattern.ne_nil_of_mem ht)
    rw [segments_lexeme ht hc, List.length_cons, List.length_append]
    omega
  | unterminated cs hq =>
    rw [segments_unterminated hq]
    simp
  | unexpected c cs ho ih =>
    rw [segments_unexpected ho, List.length_cons, List.length_cons]
    omega

/-! ### A whole scan -/

/-- What a scan of a source with a name leaves in a scanner. -/
structure Completes (s t : Scanner) : Prop where
  source : t.source = s.source
  file : t.file = s.file
  listener : t.listener = s.listener
  current : t.current = s.source.length
  line : t.line = 1 + s.source.count '\n'
  tokens : t.tokens.toList =
    tokensFrom 1 (segments s.source) ++ [.endOfInput (1 + s.source.count '\n')]
  diagnostics : t.diagnostics.toList = diagnosticsFrom s.file 1 (segments s.source)
  events : t.events.toList = s.events.toList ++
    (t.diagnostics.toList.flatMap (·.events s.listener) ++
      [.logged (.summary s.file t.tokens.size t.diagnostics.size)])

/-- The scanner behind a whole scan, if every diagnostic is taken. -/
def completed (s : Scanner) : Scanner := (s.restart.gather (segments s.source)).finish

theorem completes_completed (s : Scanner) : Completes s s.completed := by
  have hg := gathers_gather (segments s.source) s.restart
  have hcurrent := hg.current
  have hline := hg.line
  rw [spelled_segments] at hcurrent hline
  have htokens : (s.restart.gather (segments s.source)).tokens.toList =
      tokensFrom 1 (segments s.source) := by
    rw [hg.tokens]
    rfl
  have hdiagnostics : (s.restart.gather (segments s.source)).diagnostics.toList =
      diagnosticsFrom s.file 1 (segments s.source) := by
    rw [hg.diagnostics]
    rfl
  refine ⟨hg.source, hg.file, hg.listener, ?_, hline, ?_, hdiagnostics, ?_⟩
  · rw [show s.completed.current = (s.restart.gather (segments s.source)).current from rfl, hcurrent]
    exact Nat.zero_add _
  · show ((s.restart.gather _).tokens.push (.endOfInput (s.restart.gather _).line)).toList = _
    rw [Array.toList_push, htokens, hline]
    simp [restart]
  · show ((s.restart.gather _).events.push (.logged (.summary (s.restart.gather _).file _
      (s.restart.gather _).diagnostics.size))).toList = _
    rw [Array.toList_push, hg.events, hg.file, List.append_assoc,
      show s.completed.diagnostics.toList = _ from hdiagnostics]
    rfl

/-- The turns of a scan absorb the segments of the source. -/
theorem scanLexemes_restart (s : Scanner) :
    scanLexemes s.source.length s.restart = absorbAll (segments s.source) s.restart := by
  rw [scanLexemes_eq, show s.restart.rest = s.source from rfl,
    List.take_of_length_le (length_segments_le s.source)]

theorem scan_eq_absorbAll (s : Scanner) : s.scan =
    match absorbAll (segments s.source) s.restart with
    | (.ok (), t) => (.ok t.finish.tokens, t.finish)
    | (.error fault, t) => (.error fault, t) := by
  have hrun : scanLexemes s.restart.source.length s.restart =
      absorbAll (segments s.source) s.restart := scanLexemes_restart s
  unfold scan
  cases hall : absorbAll (segments s.source) s.restart with
  | mk answer t =>
    rw [hall] at hrun
    cases answer <;> simp only [hrun]

/-- **A scan, as long as the listener goes along, answers with all tokens** of its source. -/
theorem scan_takes (h : s.Takes (diagnosticsFrom s.file 1 (segments s.source)).length) :
    s.scan = (.ok s.completed.tokens, s.completed) := by
  have hrun := absorbAll_takes (s := s.restart) h
  rw [scan_eq_absorbAll, hrun]
  rfl

theorem scan_patient (h : Patient s.listener) :
    ∃ t, s.scan = (.ok t.tokens, t) ∧ Completes s t :=
  ⟨s.completed, scan_takes (takes_of_patient h _), completes_completed s⟩

theorem scan_scanned (source : List Char) (file : String) {listener : Option Listener}
    (h : Patient listener) :
    (new source file listener).scan.1 = .ok (scanned source file listener).tokens ∧
      Completes (new source file listener) (scanned source file listener) := by
  obtain ⟨t, ht, hc⟩ := scan_patient (s := new source file listener) h
  unfold scanned
  rw [ht]
  exact ⟨rfl, hc⟩

end Scanner

/-- A scan that nobody listens to always answers. -/
theorem scan_ok (source : List Char) (file : String) :
    (Scanner.new source file none).scan.1 = .ok (scanSource source file).tokens.toArray := by
  obtain ⟨hscan, -⟩ := Scanner.scan_scanned source file patient_none
  exact hscan

/-- **The tokens and diagnostics of a source are those of its segments**, and one token more for the
end of input. -/
theorem scanSource_eq (source : List Char) (file : String) : scanSource source file =
    ⟨tokensFrom 1 (segments source) ++ [.endOfInput (1 + source.count '\n')],
      diagnosticsFrom file 1 (segments source)⟩ := by
  obtain ⟨-, hc⟩ := Scanner.scan_scanned source file patient_none
  unfold scanSource Scanner.result
  rw [hc.tokens, hc.diagnostics]
  rfl

theorem scan_eq (source : List Char) : scan source =
    tokensFrom 1 (segments source) ++ [.endOfInput (1 + source.count '\n')] := by
  unfold scan
  rw [scanSource_eq]

/-- A source for which no string without end is reported has none among its segments. -/
theorem unterminated_notMem_segments {source : List Char} {file : String}
    (h : ∀ d ∈ (scanSource source file).diagnostics, d.code ≠ some "L002") (w : List Char) :
    .unterminated w ∉ segments source := by
  intro hw
  obtain ⟨d, hd, hcode⟩ := (exists_unterminated_iff file 1 (segments source)).mpr ⟨w, hw⟩
  rw [scanSource_eq] at h
  exact h d hd hcode

/-- A scan of a source with a name answers with the tokens `ts` and reports the diagnostics `ds`. -/
structure Scans (source : List Char) (file : String) (ts : List Token) (ds : List Diagnostic) :
    Prop where
  answers : (Scanner.new source file none).scan.1 = .ok ts.toArray
  result : scanSource source file = ⟨ts, ds⟩

theorem scans_of_eq {source : List Char} {file : String} {ts : List Token} {ds : List Diagnostic}
    (h : scanSource source file = ⟨ts, ds⟩) : Scans source file ts ds :=
  ⟨by rw [scan_ok, h], h⟩

end LoxLex
