import LoxLex.Proofs.Context
import LoxLex.Proofs.Run
import LoxLex.Runner
import LoxLex.Scanner.Operation

/-!
# LoxLex.Proofs.Channels — one list of diagnostics, told everywhere

A diagnostic is kept by the scanner, written to its log, reported to its listener, remembered by a
reporter and handed out with the result.  `Tells source file listener t ds` says that all of these have
the one list `ds`, in its order, and that the tokens do not depend on who listens.

`scan_tells`: this holds of every scan whose listener takes every call, and the list is what the
characters of the source say, one diagnostic for each stray and a last one for an open quote.
-/

namespace LoxLex

variable {source : List Char} {file : String} {listener : Option Listener} {t : Scanner}
  {ds : List Diagnostic}

/-- Every channel has the diagnostics `ds`, and no other. -/
structure Tells (source : List Char) (file : String) (listener : Option Listener) (t : Scanner)
    (ds : List Diagnostic) : Prop where
  kept : t.diagnostics.toList = ds
  answered : t.perform .diagnostics = (.ok (.diagnostics ds.toArray), t)
  events : t.events.toList =
    ds.flatMap (·.events listener) ++ [.logged (.summary file t.tokens.size ds.length)]
  log : t.log.toList = ds.map (·.logRecord) ++ [.summary file t.tokens.size ds.length]
  reports : t.reports.toList = if listener.isSome then ds.map (·.report) else []
  reporter : ∀ verbose channel,
    (listen verbose source file (.new channel)).2.1.reports = ds.map (·.report)
  result : t.result = ⟨scan source, ds⟩
  alone : scanSource source file = t.result
  passes : t.result.check = .ok () ↔ ds = []
  fails : ∀ fault, t.result.check = .error fault ↔ ∃ d ∈ ds.head?, fault = .lexical d

/-! ### The log and the listener -/

theorem records_of_events (listener : Option Listener) (ds : List Diagnostic) :
    (ds.flatMap (·.events listener)).filterMap Event.record? = ds.map (·.logRecord) := by
  induction ds with
  | nil => rfl
  | cons d ds ih =>
    rw [List.flatMap_cons, List.filterMap_append, ih, List.map_cons]
    cases listener <;> rfl

theorem Scanner.Completes.log_toList {s : Scanner} (h : s.Completes t) (hs : s.events = #[])
    (hds : t.diagnostics.toList = ds) :
    t.log.toList = ds.map (·.logRecord) ++ [.summary s.file t.tokens.size t.diagnostics.size] := by
  unfold Scanner.log
  rw [Array.toList_filterMap, h.events, hs, hds, List.filterMap_append, List.filterMap_append,
    records_of_events]
  rfl

theorem Scanner.Completes.reports_toList {s : Scanner} (h : s.Completes t) (hs : s.events = #[])
    (hds : t.diagnostics.toList = ds) :
    t.reports.toList = if s.listener.isSome then ds.map (·.report) else [] := by
  unfold Scanner.reports
  rw [Array.toList_filterMap, h.events, hs, hds, List.filterMap_append, List.filterMap_append,
    reports_of_events]
  exact List.append_nil _

/-- A reporter remembers the reports among the events that it takes. -/
theorem fst_takeAll (verbose : Bool) (events : List Event) (r : Reporter) :
    (r.takeAll verbose events).1 =
      let reports := events.filterMap Event.report?
      { r with reports := r.reports ++ reports, hadError := r.hadError || !reports.isEmpty } := by
  induction events generalizing r with
  | nil => simp [Reporter.takeAll]
  | cons event events ih =>
    refine (ih (r.take verbose event).1).trans ?_
    cases event with
    | logged record => rfl
    | reported report => simp [Reporter.take, Reporter.report, Event.report?]

/-- A reporter that listens remembers the diagnostics. -/
theorem listen_reports (verbose : Bool) (source : List Char) (file : String) (r : Reporter) :
    (listen verbose source file r).2.1.reports =
      r.reports ++ (diagnosticsFrom file 1 (segments source)).map (·.report) := by
  obtain ⟨-, hc⟩ := Scanner.scan_scanned source file patient_patient
  have hreports := hc.reports_toList rfl hc.diagnostics
  unfold Scanner.reports at hreports
  unfold listen
  rw [fst_takeAll, ← Array.toList_filterMap, hreports]
  rfl

theorem check_eq_ok_iff (r : ScanResult) : r.check = .ok () ↔ r.diagnostics = [] := by
  unfold ScanResult.check
  cases r.diagnostics <;> simp

theorem check_eq_error_iff (r : ScanResult) (fault : Fault) :
    r.check = .error fault ↔ ∃ d ∈ r.diagnostics.head?, fault = .lexical d := by
  unfold ScanResult.check
  cases r.diagnostics <;> simp [eq_comm]

theorem tells_of_completes (h : (Scanner.new source file listener).Completes t) :
    Tells source file listener t (diagnosticsFrom file 1 (segments source)) := by
  have hkept : t.diagnostics.toList = diagnosticsFrom file 1 (segments source) := h.diagnostics
  have hsize : t.diagnostics.size = (diagnosticsFrom file 1 (segments source)).length := by
    rw [← hkept, Array.length_toList]
  have hresult : t.result = ⟨scan source, diagnosticsFrom file 1 (segments source)⟩ := by
    unfold Scanner.result
    rw [hkept, h.tokens, scan_eq]
    rfl
  refine
    { kept := hkept
      answered := ?_
      events := ?_
      log := ?_
      reports := h.reports_toList rfl hkept
      reporter := fun verbose channel => listen_reports verbose source file (.new channel)
      result := hresult
      alone := ?_
      passes := ?_
      fails := fun fault => ?_ }
  · rw [← hkept]
    rfl
  · rw [h.events, hkept, hsize]
    rfl
  · rw [h.log_toList rfl hkept, hsize]
    rfl
  · rw [hresult, scanSource_eq, scan_eq]
  · rw [check_eq_ok_iff, hresult]
  · rw [check_eq_error_iff, hresult]

/-! ### A string without end is the last span -/

/-- Turns that came to a string without end came to the end of the source. -/
theorem take_segments_eq {w : List Char} {n : Nat} (h : .unterminated w ∈ (segments source).take n) :
    (segments source).take n = segments source := by
  obtain ⟨ps, qs, e⟩ := List.append_of_mem h
  have hall : segments source = ps ++ .unterminated w :: (qs ++ (segments source).drop n) := by
    rw [← List.cons_append, ← List.append_assoc, ← e, List.take_append_drop]
  have hnil := eq_nil_of_unterminated hall
  have hdrop : (segments source).drop n = [] := (List.append_eq_nil_iff.mp hnil).2
  rw [List.take_of_length_le (List.drop_eq_nil_iff.mp hdrop)]

/-- **A scan tells everybody the same**: each stray is reported once, with a help that tells the character,
and an open quote at last, after which only the end of input becomes a token. -/
theorem scan_tells (source : List Char) (file : String) (listener : Option Listener)
    (h : Patient listener) :
    ∃ t ds tail, (Scanner.new source file listener).scan = (.ok t.tokens, t) ∧
      Tells source file listener t ds ∧
      ds = (strays source).map (fun (before, c) =>
        { message := "Unexpected character."
          location := ⟨file, 1 + before.count '\n'⟩
          severity := "error"
          code := some "L001"
          help := some (Diagnostic.strayHelp c) }) ++ tail ∧
      (∀ c d, Diagnostic.strayHelp c = Diagnostic.strayHelp d → c = d) ∧
      ((OpenQuote source ∧ tail = [
        { message := "Unterminated string. Close it with a double-quote."
          location := ⟨file, 1 + source.count '\n'⟩
          severity := "error"
          code := some "L002"
          help := some "String literals must be closed with a matching \" quote." }]) ∨
        (¬ OpenQuote source ∧ tail = [])) ∧
      ∀ n, let u := (Scanner.scanLexemes n (Scanner.new source file listener)).2
        (∃ d ∈ u.diagnostics.toList, d.code = some "L002") →
          t.tokens = u.tokens.push (.endOfInput (1 + source.count '\n')) := by
  obtain ⟨t, ht, hc⟩ := Scanner.scan_patient (s := Scanner.new source file listener) h
  obtain ⟨tail, hds, htail⟩ := diagnosticsFrom_segments file source
  refine ⟨t, _, tail, ht, ?_, hds, Diagnostic.strayHelp_injective, htail, ?_⟩
  · exact tells_of_completes hc
  · intro n u hopen
    have hrun := Scanner.scanLexemes_eq n (Scanner.new source file listener)
    obtain ⟨v, hv, hg⟩ := Scanner.absorbAll_patient (s := Scanner.new source file listener) h
      ((segments source).take n)
    have hu : u = v := by
      show (Scanner.scanLexemes n (Scanner.new source file listener)).2 = v
      rw [hrun]
      exact congrArg Prod.snd hv
    rw [hu, hg.diagnostics] at hopen
    obtain ⟨w, hw⟩ := (exists_unterminated_iff file 1 ((segments source).take n)).mp hopen
    have htokens := hg.tokens
    rw [take_segments_eq hw] at htokens
    apply Array.toList_inj.mp
    rw [hu, Array.toList_push, htokens, hc.tokens]
    rfl

/-- A stray, and on the next line a bell and an open quote: three calls of the listener, in this order, and
the helps that go with them. -/
theorem scan_tells_stray_quote :
    Patient (some .patient) ∧
      ∃ t, (Scanner.new ['@', '\n', '\x07', '"'] "a.lox" (some .patient)).scan = (.ok t.tokens, t) ∧
        t.reports.toList = [⟨1, "Unexpected character."⟩, ⟨2, "Unexpected character."⟩,
          ⟨2, "Unterminated string. Close it with a double-quote."⟩] ∧
        t.diagnostics.toList.map (·.help) = [
          some "The character '@' is not valid in Lox source code.",
          some "Non-printable character (Unicode: U+0007) is not allowed.",
          some "String literals must be closed with a matching \" quote."] := by
  refine ⟨patient_patient, ?_⟩
  obtain ⟨t, ds, tail, ht, htells, hds, -, htail, -⟩ :=
    scan_tells ['@', '\n', '\x07', '"'] "a.lox" (some .patient) patient_patient
  have hstrays : strays ['@', '\n', '\x07', '"'] = [([], '@'), (['@', '\n'], '\x07')] := by decide
  have hopen : OpenQuote ['@', '\n', '\x07', '"'] :=
    ⟨['@', '\n', '\x07'], [], rfl, by decide, by simp⟩
  have hat : Diagnostic.strayHelp '@' = "The character '@' is not valid in Lox source code." := by
    decide
  have hbell : Diagnostic.strayHelp '\x07' =
      "Non-printable character (Unicode: U+0007) is not allowed." := by
    decide
  obtain ⟨-, rfl⟩ | ⟨hclosed, -⟩ := htail
  · refine ⟨t, ht, ?_, ?_⟩
    · rw [htells.reports, hds, hstrays]
      rfl
    · rw [htells.kept, hds, hstrays, ← hat, ← hbell]
      rfl
  · exact absurd hopen hclosed

end LoxLex
