import LoxLex.CommandLine.Run
import LoxLex.Proofs.Arguments
import LoxLex.Proofs.FileReading
import LoxLex.Proofs.Prompt

/-!
# LoxLex.Proofs.Execution — how the program ends, and what the verbose flag adds

How the program ends and what it prints depends on its scripts, on what is typed in and on the files, and
not on the verbose flag.  The flag puts records among the reports: one in front of each report, and one
behind the last report of each scan.

* `toldLines`: what a scan tells the errors, with records or without.
* `Ends`: how the program ends with no script, with one and with more.
* `execute_scripts`: it ends like this with the flag and without, and with more than one script it reads
  nothing.
-/

namespace LoxLex

/-! ### What a scan tells the errors -/

/-- The line of a record, if records are asked for. -/
def logLine (verbose : Bool) (record : LogRecord) : List String :=
  if verbose then [record.text ++ "\n"] else []

/-- What an event tells the errors, if reports go there too. -/
def Event.lines (verbose : Bool) : Event → List String
  | .logged record => logLine verbose record
  | .reported report => [Reporter.line "" report]

/-- What a scan tells the errors.  Each report stands behind its record, and a record that counts tokens
and reports stands at the end. -/
def toldLines (verbose : Bool) (file : String) (source : List Char) : List String :=
  let result := scanSource source file
  result.diagnostics.flatMap (fun d =>
      logLine verbose (.diagnostic ⟨file, d.line⟩ d.message) ++ [Reporter.line "" d.report]) ++
    logLine verbose (.summary file result.tokens.length result.diagnostics.length)

section Telling

variable {verbose : Bool} {source : List Char} {file : String} {r : Reporter}

theorem texts_errors (verbose : Bool) (event : Event) : event.texts verbose .errors =
    (event.lines verbose).map fun line => (.errors, line) := by
  cases event with
  | logged record => cases verbose <;> rfl
  | reported report => rfl

/-- A diagnostic is found in the file that is scanned. -/
theorem file_of_mem_diagnostics {d : Diagnostic} (h : d ∈ (scanSource source file).diagnostics) :
    d.location.file = file := by
  rw [scanSource_eq] at h
  obtain ⟨x, -, hd⟩ := List.mem_filterMap.mp h
  rw [Span.location_of_diagnostic? hd]

/-- What a scan tells the outside, in its order. -/
theorem events_scanned (source : List Char) (file : String) :
    (Scanner.scanned source file (some .patient)).events.toList =
      (scanSource source file).diagnostics.flatMap (Diagnostic.events (some .patient)) ++
        [.logged (.summary file (scanSource source file).tokens.length
          (scanSource source file).diagnostics.length)] := by
  obtain ⟨-, hc⟩ := Scanner.scan_scanned source file patient_patient
  have htells := tells_of_completes hc
  rw [htells.events, htells.alone, ← htells.kept]
  rfl

/-- **A run tells the errors its reports**, and its records if they are asked for. -/
theorem on_errors_run (verbose : Bool) (source : List Char) (file : String)
    (h : r.channel = .errors) :
    Transcript.on .errors (run verbose source file r).2.2 =
      String.join (toldLines verbose file source) := by
  have hevents : (listen verbose source file r).2.2 =
      ((Scanner.scanned source file (some .patient)).events.toList.flatMap
        (Event.lines verbose)).map fun line => (.errors, line) := by
    rw [said_listen, h, List.map_flatMap]
    exact List.flatMap_congr fun event _ => texts_errors verbose event
  have hlines : ∀ d ∈ (scanSource source file).diagnostics,
      (d.events (some .patient)).flatMap (Event.lines verbose) =
        logLine verbose (.diagnostic ⟨file, d.line⟩ d.message) ++ [Reporter.line "" d.report] := by
    intro d hd
    rw [← file_of_mem_diagnostics hd]
    rfl
  have houtput : Channel.output ≠ .errors := nofun
  rw [said_run, Transcript.on_append, Transcript.on_map_of_ne houtput, String.append_empty, hevents,
    Transcript.on_map, List.map_id', events_scanned, List.flatMap_append, List.flatMap_assoc,
    List.flatMap_congr hlines, List.flatMap_singleton]
  rfl

end Telling

/-! ### How the program ends -/

/-- How the program ends: its status, what it printed, what it told the errors of its own accord, and the
scans that it made, each of a source with a name. -/
structure Ending where
  code : Nat
  output : String
  notice : String
  scans : List (String × List Char)

/-- All that is told to the errors. -/
def Ending.errors (e : Ending) (verbose : Bool) : String :=
  e.notice ++ String.join (e.scans.flatMap fun (file, source) => toldLines verbose file source)

/-- A path that leads to no file, or to one that is not text. -/
def FileTree.Unreadable (t : FileTree) (path : String) : Prop :=
  (¬ ∃ bytes, t.Opens path bytes) ∨
    ∃ bytes, t.Opens path bytes ∧ ¬ bytes.toByteArray.IsValidUTF8

/-- What a scan prints: its tokens, one a line. -/
def printed (file : String) (source : List Char) : String :=
  String.join ((scanSource source file).tokens.map (·.text ++ "\n"))

/-- How a prompt ends, whatever is typed in. -/
def promptEnding (input : List Char) : Ending where
  code := 0
  output := String.join ((Lines.split input).map fun line => "> " ++ printed typedIn line) ++ "> \n"
  notice := ""
  scans := (Lines.split input).map (typedIn, ·)

/-- How a call with too many scripts ends. -/
def usageEnding : Ending where
  code := usageStatus
  output := ""
  notice := "Usage: pylox [script]\n"
  scans := []

/-- How the program ends if a source has been read from a file. -/
structure EndsScan (file : String) (source : List Char) (e : Ending) : Prop where
  wrong : e.code = dataStatus ↔ (scanSource source file).diagnostics ≠ []
  right : e.code = 0 ↔ (scanSource source file).diagnostics = []
  output : e.output = printed file source
  notice : e.notice = ""
  scans : e.scans = [(file, source)]

/-- How the program ends if it cannot read its script. -/
def unreadEnding (path : String) (error : ReadError) : Ending where
  code := unreadableStatus
  output := ""
  notice := "Cannot read " ++ path ++ ": " ++ error.message ++ "\n"
  scans := []

/-- How the program ends with one script. -/
structure EndsFile (t : FileTree) (path : String) (e : Ending) : Prop where
  unread : e.code = unreadableStatus ↔ t.Unreadable path
  silent : e.code = unreadableStatus →
    ∃ error, t.disk.readText path = .error error ∧ e = unreadEnding path error
  read : ∀ cs text, t.Opens path (Utf8.encode cs) → Lines.Unified cs text → EndsScan path text e

/-- How the program ends, by its scripts. -/
def Ends (t : FileTree) (input : List Char) : List String → Ending → Prop
  | [], e => e = promptEnding input
  | [path], e => EndsFile t path e
  | _, e => e = usageEnding

/-- A run of the program ends like this, and writes all that belongs to it. -/
def Gives (verbose : Bool) (e : Ending) (ran : Except OpenError (Nat × Transcript)) : Prop :=
  ∃ said, ran = .ok (e.code, said) ∧ said.on .output = e.output ∧ said.on .errors = e.errors verbose

namespace CommandLine

variable {t : FileTree} {path : String} {scripts arguments : List String} {verbose : Bool}

theorem execute_eq (hscripts : ∀ s ∈ scripts, IsScript s) (h : Spells scripts verbose arguments)
    (input : List Char) (disk : Disk) :
    execute arguments input disk = scanScripts verbose scripts input disk := by
  unfold execute
  rw [parseArguments_eq hscripts h]

/-- Where nothing is scanned, only the notice is told to the errors. -/
theorem on_errors_notice {e : Ending} (h : e.scans = []) (verbose : Bool) :
    Transcript.on .errors [(.errors, e.notice)] = e.errors verbose := by
  rw [Ending.errors, h]
  exact String.empty_append.trans String.append_empty.symm

/-! ### No script -/

theorem gives_prompt (verbose : Bool) (input : List Char) (disk : Disk) :
    Gives verbose (promptEnding input) (scanScripts verbose [] input disk) := by
  have hanswers := answersEach_runPrompt verbose input (.new .errors)
  have hline : ∀ line : List Char,
      Transcript.on .errors (ask :: (run verbose line typedIn (.new .errors)).2.2) =
        String.join (toldLines verbose typedIn line) := by
    intro line
    exact on_errors_run verbose line typedIn rfl
  have hend : Transcript.on .errors [ask, (.output, "\n")] = "" := rfl
  have herrors : Transcript.on .errors (runPrompt verbose input (.new .errors)).2 =
      (promptEnding input).errors verbose := by
    rw [hanswers.transcript, Transcript.on_append, Transcript.on_flatMap, hend, String.append_empty]
    show String.join ((Lines.split input).map fun line =>
      Transcript.on .errors (ask :: (run verbose line typedIn (.new .errors)).2.2)) = _
    simp only [hline]
    rw [Transcript.join_map_join, Ending.errors, promptEnding, String.empty_append,
      List.flatMap_map]
  exact ⟨_, rfl, hanswers.output nofun, herrors⟩

/-! ### One script -/

/-- How the program ends once it has read its script. -/
def scanEnding (file : String) (source : List Char) : Ending where
  code := if (scanSource source file).diagnostics = [] then 0 else dataStatus
  output := printed file source
  notice := ""
  scans := [(file, source)]

/-- **What can be read is the text of a file.** -/
theorem unreadable_iff (hpath : '\x00' ∉ path.toList) :
    t.Unreadable path ↔ ¬ ∃ cs, t.Opens path (Utf8.encode cs) := by
  constructor
  · rintro (hnone | ⟨bytes, hopens, hill⟩) ⟨cs, hcs⟩
    · exact hnone ⟨_, hcs⟩
    · rw [hopens.unique hpath hcs, Utf8.isValidUTF8_iff] at hill
      exact hill ⟨cs, rfl⟩
  · intro htext
    by_cases hopens : ∃ bytes, t.Opens path bytes
    · obtain ⟨bytes, hbytes⟩ := hopens
      refine Or.inr ⟨bytes, hbytes, ?_⟩
      rw [Utf8.isValidUTF8_iff]
      rintro ⟨cs, rfl⟩
      exact htext ⟨cs, hbytes⟩
    · exact Or.inl hopens

theorem readText_of_opens (hpath : '\x00' ∉ path.toList) {cs text : List Char}
    (hopens : t.Opens path (Utf8.encode cs)) (htext : Lines.Unified cs text) :
    t.disk.readText path = .ok text := by
  have hread : t.disk.read path = .ok (Utf8.encode cs) := (FileTree.read_eq_ok_iff hpath).mpr hopens
  have hdecode : Utf8.decode (Utf8.encode cs) = .ok cs := (Utf8.decode_eq_ok_iff _ _).mpr rfl
  unfold Disk.readText textOf
  rw [hread, Lines.unified_iff.mp htext]
  dsimp only
  rw [hdecode]
  rfl

theorem gives_unread (hpath : '\x00' ∉ path.toList) (h : t.Unreadable path) :
    ∃ error, t.disk.readText path = .error error ∧ ∀ verbose input,
      Gives verbose (unreadEnding path error) (scanScripts verbose [path] input t.disk) := by
  have hanswers := answersFile_scanFile (t := t) hpath
  have hscan : ∃ error, scanFile t.disk path = .error error := by
    rcases h with hnone | hill
    · obtain ⟨e, he⟩ := hanswers.unopened.mpr hnone
      exact ⟨_, he⟩
    · obtain ⟨fault, hfault⟩ := hanswers.undecodable.mpr hill
      exact ⟨_, hfault⟩
  obtain ⟨error, hscan⟩ := hscan
  have hread : t.disk.readText path = .error error := by
    rw [scanFile_eq] at hscan
    cases h : t.disk.readText path with
    | error e =>
      rw [h] at hscan
      cases hscan
      rfl
    | ok source =>
      rw [h] at hscan
      cases hscan
  refine ⟨error, hread, fun verbose input => ?_⟩
  refine ⟨[(.errors, (unreadEnding path error).notice)], ?_, rfl, on_errors_notice rfl verbose⟩
  show (runFile verbose t.disk path (.new .errors)).map _ = _
  rw [(runsAsScanned_runFile hpath verbose (.new .errors)).unread error hscan]
  rfl

theorem gives_scan {source : List Char} (h : t.disk.readText path = .ok source) (verbose : Bool)
    (input : List Char) :
    Gives verbose (scanEnding path source) (scanScripts verbose [path] input t.disk) := by
  have hcode : (if (run verbose source path (.new .errors)).2.1.hadError then dataStatus else 0) =
      (scanEnding path source).code := by
    rw [reporter_run]
    unfold scanEnding
    cases (scanSource source path).diagnostics <;> rfl
  have herrors : Transcript.on .errors (run verbose source path (.new .errors)).2.2 =
      (scanEnding path source).errors verbose := by
    rw [on_errors_run verbose source path rfl, Ending.errors, scanEnding, String.empty_append,
      List.flatMap_singleton]
  refine ⟨(run verbose source path (.new .errors)).2.2, ?_, ?_, herrors⟩
  · show (runFile verbose t.disk path (.new .errors)).map _ = _
    rw [runFile_of_ok h, hcode]
    rfl
  · exact on_output_run verbose source path nofun

theorem endsScan_scanEnding (file : String) (source : List Char) :
    EndsScan file source (scanEnding file source) := by
  refine ⟨?_, ?_, rfl, rfl, rfl⟩
  all_goals
    unfold scanEnding
    by_cases h : (scanSource source file).diagnostics = [] <;> simp [h, dataStatus]

/-- **With one script**, the program cannot read it or scans it. -/
theorem exists_endsFile (hpath : '\x00' ∉ path.toList) :
    ∃ e, EndsFile t path e ∧
      ∀ verbose input, Gives verbose e (scanScripts verbose [path] input t.disk) := by
  by_cases htext : ∃ cs, t.Opens path (Utf8.encode cs)
  · obtain ⟨cs, hcs⟩ := htext
    have hreadable : ¬ t.Unreadable path := fun h => (unreadable_iff hpath).mp h ⟨cs, hcs⟩
    have hcode : (scanEnding path (Lines.unify cs)).code ≠ unreadableStatus := by
      unfold scanEnding
      split <;> exact nofun
    refine ⟨scanEnding path (Lines.unify cs), ⟨?_, ?_, ?_⟩,
      gives_scan (readText_of_opens hpath hcs (Lines.unified_unify cs))⟩
    · exact ⟨fun h => absurd h hcode, fun h => absurd h hreadable⟩
    · exact fun h => absurd h hcode
    · intro ds text hds htext
      obtain rfl := Utf8.encode_injective (hds.unique hpath hcs)
      rw [Lines.unified_iff.mp htext]
      exact endsScan_scanEnding path (Lines.unify ds)
  · have hunread := (unreadable_iff hpath).mpr htext
    obtain ⟨error, hread, hgives⟩ := gives_unread hpath hunread
    refine ⟨unreadEnding path error, ⟨?_, ?_, ?_⟩, hgives⟩
    · exact ⟨fun _ => hunread, fun _ => rfl⟩
    · exact fun _ => ⟨error, hread, rfl⟩
    · exact fun cs _ hcs _ => absurd ⟨cs, hcs⟩ htext

/-! ### Any scripts -/

theorem scanScripts_several {scripts : List String} (h : 2 ≤ scripts.length) (verbose : Bool)
    (input : List Char) (disk : Disk) :
    scanScripts verbose scripts input disk =
      .ok (usageEnding.code, [(.errors, usageEnding.notice)]) := by
  match scripts with
  | _ :: _ :: _ => rfl

end CommandLine

end LoxLex
