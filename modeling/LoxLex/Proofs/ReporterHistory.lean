import LoxLex.Proofs.FileReading
import LoxLex.Proofs.Prompt
import Mathlib.Data.List.DropRight

/-!
# LoxLex.Proofs.ReporterHistory — what a reporter was told, and what it still knows

Every step of a session comes to the reporter as a list of notices: each either reports something or
makes it forget.  `notices` says which they are, by the sort of the step alone, and a history is the
notices of all steps so far.  Of its history a reporter remembers the reports behind the last forgetting
(`remembered`), and its stream has a line for each report that was ever made.

* `KeepsHistory`: what a reporter and its stream are after a history.
* `Reporter.performAll_keeps`: they are this after every step of every session.
-/

namespace LoxLex

/-- What a reporter is told. -/
inductive Notice where
  | report (place : String) (report : Report)
  | forget
deriving DecidableEq

namespace Notice

def report? : Notice → Option Report
  | .report _ r => some r
  | .forget => none

/-- What stands on the stream because of a notice: one line, or nothing. -/
def text : Notice → String
  | .report place ⟨line, message⟩ =>
    "[line " ++ toString line ++ "] Error" ++ place ++ ": " ++ message ++ "\n"
  | .forget => ""

end Notice

/-- The reports that no forgetting came after. -/
def remembered (history : List Notice) : List Report :=
  (history.rtakeWhile (· ≠ .forget)).filterMap Notice.report?

/-- What a scan tells its listener. -/
def scanNotices (source : List Char) (file : String) : List Notice :=
  (scanSource source file).diagnostics.map fun d => .report "" d.report

/-- What a step tells the reporter.  A prompt makes it forget behind each of its lines. -/
def notices (disk : Disk) : SessionStep → List Notice
  | .report place report => [.report place report]
  | .reset => [.forget]
  | .run source file => scanNotices source file
  | .runFile path => match disk.readText path with
    | .ok source => scanNotices source path
    | .error _ => []
  | .runPrompt input => (Lines.split input).flatMap fun line => scanNotices line typedIn ++ [.forget]
  | .scan source => scanNotices source handedOver

/-- A reporter after a history, and the text on its stream. -/
structure KeepsHistory (history : List Notice) (r : Reporter) (stream : String) : Prop where
  flag : r.hadError = true ↔ r.reports ≠ []
  reports : r.reports = remembered history
  stream : stream = String.join (history.map Notice.text)

variable {history : List Notice} {r : Reporter} {stream : String}

/-! ### One notice -/

theorem remembered_report (history : List Notice) (place : String) (r : Report) :
    remembered (history ++ [.report place r]) = remembered history ++ [r] := by
  unfold remembered
  rw [List.rtakeWhile_concat_pos _ _ _ (by simp), List.filterMap_append]
  rfl

theorem remembered_forget (history : List Notice) : remembered (history ++ [.forget]) = [] := by
  unfold remembered
  rw [List.rtakeWhile_concat_neg _ _ _ (by simp)]
  rfl

namespace Reporter

/-- Takes a notice. -/
def hear (r : Reporter) : Notice → Reporter
  | .report place report => (r.report place report).1
  | .forget => r.reset

/-- Takes notices in turn. -/
def hearAll (r : Reporter) (ns : List Notice) : Reporter := ns.foldl hear r

theorem hearAll_append (r : Reporter) (ms ns : List Notice) :
    r.hearAll (ms ++ ns) = (r.hearAll ms).hearAll ns := List.foldl_append

@[simp] theorem channel_hearAll (r : Reporter) (ns : List Notice) :
    (r.hearAll ns).channel = r.channel := by
  induction ns generalizing r with
  | nil => rfl
  | cons n ns ih =>
    refine (ih (r.hear n)).trans ?_
    cases n <;> rfl

end Reporter

theorem KeepsHistory.hear (h : KeepsHistory history r stream) (n : Notice) :
    KeepsHistory (history ++ [n]) (r.hear n) (stream ++ n.text) := by
  have hstream : stream ++ n.text = String.join ((history ++ [n]).map Notice.text) := by
    rw [h.stream, List.map_append, String.join_append]
    simp
  cases n with
  | report place report =>
    refine ⟨?_, ?_, hstream⟩
    · simp [Reporter.hear, Reporter.report]
    · rw [remembered_report, ← h.reports]
      rfl
  | forget =>
    refine ⟨?_, ?_, hstream⟩
    · simp [Reporter.hear, Reporter.reset]
    · rw [remembered_forget]
      rfl

theorem KeepsHistory.hearAll (h : KeepsHistory history r stream) (ns : List Notice) :
    KeepsHistory (history ++ ns) (r.hearAll ns) (stream ++ String.join (ns.map Notice.text)) := by
  induction ns generalizing history r stream with
  | nil => simpa [Reporter.hearAll] using h
  | cons n ns ih =>
    have hn := ih (h.hear n)
    rw [List.append_assoc, String.append_assoc, List.singleton_append] at hn
    rw [List.map_cons, String.join_cons]
    exact hn

/-! ### One step -/

/-- The reports of a scan are taken one after the other. -/
theorem hearAll_scanNotices (r : Reporter) (source : List Char) (file : String) :
    r.hearAll (scanNotices source file) =
      let reports := (scanSource source file).diagnostics.map (·.report)
      { r with reports := r.reports ++ reports, hadError := r.hadError || !reports.isEmpty } := by
  unfold scanNotices
  generalize (scanSource source file).diagnostics = ds
  induction ds generalizing r with
  | nil => simp [Reporter.hearAll]
  | cons d ds ih =>
    refine (ih (r.report "" d.report).1).trans ?_
    simp [Reporter.report]

theorem join_scanNotices (source : List Char) (file : String) :
    String.join ((scanNotices source file).map Notice.text) =
      String.join ((scanSource source file).diagnostics.map fun d => Reporter.line "" d.report) := by
  unfold scanNotices
  rw [List.map_map]
  rfl

theorem hearAll_run (source : List Char) (file : String) (r : Reporter) :
    (run false source file r).2.1 = r.hearAll (scanNotices source file) := by
  rw [reporter_run, hearAll_scanNotices]

theorem on_reports_listen (source : List Char) (file : String) (hr : r.channel = .reports) :
    Transcript.on .reports (listen false source file r).2.2 =
      String.join ((scanNotices source file).map Notice.text) := by
  have hlisten : Transcript.on r.channel (listen false source file r).2.2 = _ :=
    on_channel_listen source file nofun
  rw [hr] at hlisten
  rw [hlisten, join_scanNotices]

theorem on_reports_run (source : List Char) (file : String) (hr : r.channel = .reports) :
    Transcript.on .reports (run false source file r).2.2 =
      String.join ((scanNotices source file).map Notice.text) := by
  rw [said_run, Transcript.on_append, on_reports_listen source file hr,
    Transcript.on_map_of_ne (by decide), String.append_empty]

theorem hearAll_runLines (lines : List (List Char)) (r : Reporter) :
    (runLines false lines r).1 =
      r.hearAll (lines.flatMap fun line => scanNotices line typedIn ++ [.forget]) := by
  induction lines generalizing r with
  | nil => rfl
  | cons line lines ih =>
    have hline : (runLine false line r).1 = r.hearAll (scanNotices line typedIn ++ [.forget]) := by
      rw [Reporter.hearAll_append, ← hearAll_run]
      rfl
    rw [List.flatMap_cons, Reporter.hearAll_append, ← hline]
    exact ih (runLine false line r).1

theorem on_reports_runPrompt (input : List Char) (hr : r.channel = .reports) :
    Transcript.on .reports (runPrompt false input r).2 =
      String.join (((Lines.split input).flatMap fun line =>
        scanNotices line typedIn ++ [.forget]).map Notice.text) := by
  have htold := (answersEach_runPrompt false input r).told (by simp [hr]) nofun
  rw [hr] at htold
  rw [htold, lineReports_eq, List.map_flatMap, List.map_flatMap, ← Transcript.join_map_join,
    ← Transcript.join_map_join]
  refine congrArg String.join (List.map_congr_left fun line _ => ?_)
  rw [List.map_append, String.join_append, join_scanNotices, List.map_map]
  simp [Notice.text, Function.comp_def]

theorem perform_runFile_ok {disk : Disk} {path : String} {ran : Nat × Reporter × Transcript}
    (h : runFile false disk path r = .ok ran) :
    r.perform disk (.runFile path) = (.ok (.status ran.1), ran.2) := by
  simp only [Reporter.perform, h]

theorem perform_runFile_error {disk : Disk} {path : String} {e : OpenError}
    (h : runFile false disk path r = .error e) :
    r.perform disk (.runFile path) = (.error e, r, []) := by
  simp only [Reporter.perform, h]

/-- A file that cannot be read tells the reporter nothing. -/
theorem perform_unreadable {disk : Disk} {path : String} {e : ReadError}
    (h : disk.readText path = .error e) (r : Reporter) :
    (r.perform disk (.runFile path)).2.1 = r ∧
      Transcript.on .reports (r.perform disk (.runFile path)).2.2 = "" := by
  by_cases hnul : ∃ p, e = .unopened ⟨p, .embeddedNul⟩
  · obtain ⟨p, rfl⟩ := hnul
    have hran : runFile false disk path r = .error ⟨p, .embeddedNul⟩ := by
      unfold runFile
      rw [h]
    rw [perform_runFile_error hran]
    exact ⟨rfl, rfl⟩
  · have hran : runFile false disk path r = .ok (unreadableStatus, r,
        [(.errors, "Cannot read " ++ path ++ ": " ++ e.message ++ "\n")]) := by
      refine runFile_of_error h ?_ false r
      rintro ⟨p, cause⟩ rfl rfl
      exact hnul ⟨p, rfl⟩
    rw [perform_runFile_ok hran]
    exact ⟨rfl, rfl⟩

theorem perform_readable {disk : Disk} {path : String} {source : List Char}
    (h : disk.readText path = .ok source) (r : Reporter) :
    r.perform disk (.runFile path) =
      (.ok (.status (if (run false source path r).2.1.hadError then dataStatus else 0)),
        (run false source path r).2) :=
  perform_runFile_ok (runFile_of_ok h false r)

/-- **A step does to the reporter what its notices do**, and writes a line for each report. -/
theorem perform_notices (disk : Disk) (step : SessionStep) (hr : r.channel = .reports) :
    (r.perform disk step).2.1 = r.hearAll (notices disk step) ∧
      Transcript.on .reports (r.perform disk step).2.2 =
        String.join ((notices disk step).map Notice.text) := by
  cases step with
  | report place report =>
    refine ⟨rfl, ?_⟩
    show Transcript.on .reports [(r.channel, Reporter.line place report)] = _
    rw [hr]
    rfl
  | reset => exact ⟨rfl, rfl⟩
  | run source file => exact ⟨hearAll_run source file r, on_reports_run source file hr⟩
  | runFile path =>
    cases hread : disk.readText path with
    | error e =>
      simp only [notices, hread]
      exact perform_unreadable hread r
    | ok source =>
      rw [perform_readable hread]
      simp only [notices, hread]
      exact ⟨hearAll_run source path r, on_reports_run source path hr⟩
  | runPrompt input => exact ⟨hearAll_runLines _ r, on_reports_runPrompt input hr⟩
  | scan source => exact ⟨hearAll_run source handedOver r, on_reports_listen source handedOver hr⟩

theorem KeepsHistory.perform (h : KeepsHistory history r stream) (hr : r.channel = .reports)
    (disk : Disk) (step : SessionStep) :
    KeepsHistory (history ++ notices disk step) (r.perform disk step).2.1
      (stream ++ Transcript.on .reports (r.perform disk step).2.2) := by
  obtain ⟨hreporter, htext⟩ := perform_notices disk step hr
  rw [hreporter, htext]
  exact h.hearAll (notices disk step)

/-- A run of a file that is read answers by what the reporter then remembers. -/
theorem KeepsHistory.status (h : KeepsHistory history r stream) (hr : r.channel = .reports)
    {disk : Disk} {path : String} {source : List Char} (hread : disk.readText path = .ok source) :
    (r.perform disk (.runFile path)).1 =
      .ok (.status (if (r.perform disk (.runFile path)).2.1.reports = [] then 0 else dataStatus)) := by
  have hflag := (h.perform hr disk (.runFile path)).flag
  rw [perform_readable hread] at hflag ⊢
  by_cases hnone : (run false source path r).2.1.reports = []
  · have hclear : (run false source path r).2.1.hadError = false := by simpa [hnone] using hflag
    simp [hnone, hclear]
  · have hset : (run false source path r).2.1.hadError = true := hflag.mpr hnone
    simp [hnone, hset]

/-! ### A session -/

/-- What the steps of a session wrote to the stream of the reporter. -/
def streamed (results : List (Except OpenError SessionAnswer × Reporter × Transcript)) : String :=
  Transcript.on .reports (results.flatMap (·.2.2))

theorem streamed_cons (x : Except OpenError SessionAnswer × Reporter × Transcript)
    (results : List (Except OpenError SessionAnswer × Reporter × Transcript)) :
    streamed (x :: results) = Transcript.on .reports x.2.2 ++ streamed results := by
  unfold streamed
  rw [List.flatMap_cons, Transcript.on_append]

/-- What holds after a step of a session that goes on from a history. -/
theorem KeepsHistory.performAll (h : KeepsHistory history r stream) (hr : r.channel = .reports)
    (disk : Disk) {steps : List SessionStep} {n : Nat} {step : SessionStep} (hstep : steps[n]? = some step) :
    ∃ answer r' said, (r.performAll disk steps)[n]? = some (answer, r', said) ∧
      KeepsHistory (history ++ (steps.take (n + 1)).flatMap (notices disk)) r'
        (stream ++ streamed ((r.performAll disk steps).take (n + 1))) ∧
      ∀ path source, step = .runFile path → disk.readText path = .ok source →
        answer = .ok (.status (if r'.reports = [] then 0 else dataStatus)) := by
  induction steps generalizing n history r stream with
  | nil => simp at hstep
  | cons first steps ih =>
    have hfirst := h.perform hr disk first
    cases n with
    | zero =>
      obtain rfl : first = step := by simpa using hstep
      refine ⟨(r.perform disk first).1, (r.perform disk first).2.1, (r.perform disk first).2.2, rfl,
        ?_, ?_⟩
      · have hnone : streamed [] = "" := rfl
        simpa [Reporter.performAll, streamed_cons, hnone] using hfirst
      · rintro path source rfl hread
        exact h.status hr hread
    | succ n =>
      have hchannel : (r.perform disk first).2.1.channel = .reports := by
        rw [(perform_notices disk first hr).1, Reporter.channel_hearAll, hr]
      have hmore := ih hfirst hchannel (n := n) (by simpa using hstep)
      rw [List.append_assoc, String.append_assoc] at hmore
      rw [List.take_succ_cons, List.flatMap_cons]
      simpa [Reporter.performAll, streamed_cons] using hmore

/-- **A reporter remembers what was reported since it last forgot, and its stream has all that was ever
reported.**  A file that is read ends with the status of errors just if something is remembered then. -/
theorem Reporter.performAll_keeps (disk : Disk) (steps : List SessionStep) (n : Nat)
    (step : SessionStep) (hstep : steps[n]? = some step) :
    ∃ answer r said, ((Reporter.new .reports).performAll disk steps)[n]? = some (answer, r, said) ∧
      KeepsHistory ((steps.take (n + 1)).flatMap (notices disk)) r
        (streamed (((Reporter.new .reports).performAll disk steps).take (n + 1))) ∧
      ∀ path source, step = .runFile path → disk.readText path = .ok source →
        answer = .ok (.status (if r.reports = [] then 0 else dataStatus)) := by
  have hnew : KeepsHistory [] (.new .reports) "" := ⟨by simp [Reporter.new], rfl, rfl⟩
  simpa using hnew.performAll rfl disk hstep

/-- A stray that is left over turns the status of a file without errors; a prompt makes it forgotten,
and the stream still shows it. -/
theorem Reporter.performAll_keeps_left_over :
    let disk : Disk := ⟨fun _ => .ok [0x78]⟩
    let steps := [.run ['@'] "a.lox", .runFile "b.lox", .runPrompt ['x', '\n'], .runFile "b.lox"]
    steps[1]? = some (.runFile "b.lox") ∧ steps[3]? = some (.runFile "b.lox") ∧
      (∃ r said, ((Reporter.new .reports).performAll disk steps)[1]? =
        some (.ok (.status 65), r, said) ∧ r.reports = [⟨1, "Unexpected character."⟩]) ∧
      (∃ r said, ((Reporter.new .reports).performAll disk steps)[3]? =
        some (.ok (.status 0), r, said) ∧ r.reports = []) ∧
      streamed ((Reporter.new .reports).performAll disk steps) =
        "[line 1] Error: Unexpected character.\n" := by
  intro disk steps
  have hread : disk.readText "b.lox" = .ok ['x'] := by decide +kernel
  obtain ⟨answer, r, said, hran, hkeeps, hstatus⟩ :=
    Reporter.performAll_keeps disk steps 1 (.runFile "b.lox") rfl
  obtain ⟨answer', r', said', hran', hkeeps', hstatus'⟩ :=
    Reporter.performAll_keeps disk steps 3 (.runFile "b.lox") rfl
  have hreports : r.reports = [⟨1, "Unexpected character."⟩] := by
    rw [hkeeps.reports]
    decide +kernel
  have hreports' : r'.reports = [] := by
    rw [hkeeps'.reports]
    decide +kernel
  refine ⟨rfl, rfl, ⟨r, said, ?_, hreports⟩, ⟨r', said', ?_, hreports'⟩, ?_⟩
  · rw [hran, hstatus "b.lox" ['x'] rfl hread, hreports]
    rfl
  · rw [hran', hstatus' "b.lox" ['x'] rfl hread, hreports']
    rfl
  · refine hkeeps'.stream.trans ?_
    decide +kernel

end LoxLex
