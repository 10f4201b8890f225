import LoxLex.Proofs.Channels

/-!
# LoxLex.Proofs.Transcripts — what a run writes, channel by channel

A run writes the events of its scan and then the tokens.  What it writes to one channel is found by
adding up what its parts write there.

* `on_output_run`: to the output it writes its tokens, one a line.
* `on_channel_run`: to the channel of its reporter it writes the diagnostics, one a line.
-/

namespace LoxLex

namespace Transcript

theorem on_append (channel : Channel) (t u : Transcript) :
    (t ++ u).on channel = t.on channel ++ u.on channel := by
  unfold on
  rw [List.filter_append, List.map_append, String.join_append]

theorem on_flatMap {α : Type} (channel : Channel) (f : α → Transcript) (xs : List α) :
    on channel (xs.flatMap f) = String.join (xs.map fun x => (f x).on channel) := by
  induction xs with
  | nil => rfl
  | cons x xs ih => rw [List.flatMap_cons, on_append, ih, List.map_cons, String.join_cons]

theorem on_flatMap_of_empty {α : Type} {channel : Channel} {f : α → Transcript}
    (h : ∀ x, (f x).on channel = "") (xs : List α) : on channel (xs.flatMap f) = "" := by
  induction xs with
  | nil => rfl
  | cons x xs ih => rw [List.flatMap_cons, on_append, h, ih, String.empty_append]

theorem join_map_join {α : Type} (f : α → List String) (xs : List α) :
    String.join (xs.map fun x => String.join (f x)) = String.join (xs.flatMap f) := by
  induction xs with
  | nil => rfl
  | cons x xs ih => rw [List.flatMap_cons, String.join_append, List.map_cons, String.join_cons, ih]

/-- Texts that all go to one channel. -/
theorem on_map {α : Type} (channel : Channel) (f : α → String) (xs : List α) :
    on channel (xs.map fun x => (channel, f x)) = String.join (xs.map f) := by
  unfold on
  rw [List.filter_eq_self.mpr (by simp), List.map_map]
  rfl

theorem on_map_of_ne {α : Type} {c channel : Channel} (h : c ≠ channel) (f : α → String)
    (xs : List α) : on channel (xs.map fun x => (c, f x)) = "" := by
  unfold on
  rw [List.filter_eq_nil_iff.mpr (by simp [h])]
  rfl

end Transcript

/-! ### What a run writes -/

variable {verbose : Bool} {source : List Char} {file : String} {r : Reporter}

/-- Who listens does not change what is found. -/
theorem result_listen (verbose : Bool) (source : List Char) (file : String) (r : Reporter) :
    (listen verbose source file r).1 = scanSource source file := by
  obtain ⟨-, hc⟩ := Scanner.scan_scanned source file patient_patient
  exact (tells_of_completes hc).alone.symm

/-- The listener of a run hears of each diagnostic once. -/
theorem reports_scanned (source : List Char) (file : String) :
    (Scanner.scanned source file (some .patient)).reports.toList =
      (scanSource source file).diagnostics.map (·.report) := by
  obtain ⟨-, hc⟩ := Scanner.scan_scanned source file patient_patient
  rw [(tells_of_completes hc).reports, scanSource_eq]
  rfl

/-- A reporter remembers what was reported before a run, and then what the run reports. -/
theorem reporter_run (verbose : Bool) (source : List Char) (file : String) (r : Reporter) :
    (run verbose source file r).2.1 =
      let reports := (scanSource source file).diagnostics.map (·.report)
      { r with reports := r.reports ++ reports, hadError := r.hadError || !reports.isEmpty } := by
  rw [← reports_scanned, Scanner.reports, Array.toList_filterMap]
  exact fst_takeAll verbose _ r

/-- A run leaves its reporter printing to the same channel. -/
theorem channel_run (verbose : Bool) (source : List Char) (file : String) (r : Reporter) :
    (run verbose source file r).2.1.channel = r.channel := by
  rw [reporter_run]

/-- What a run writes is what it tells of the events and then the tokens. -/
theorem said_run (verbose : Bool) (source : List Char) (file : String) (r : Reporter) :
    (run verbose source file r).2.2 = (listen verbose source file r).2.2 ++
      (scanSource source file).tokens.map fun t => (.output, t.text ++ "\n") := by
  rw [← result_listen verbose source file r]
  rfl

/-- What an event writes, if reports go to a channel. -/
def Event.texts (verbose : Bool) (channel : Channel) : Event → Transcript
  | .logged record => if verbose then [(.errors, record.text ++ "\n")] else []
  | .reported report => [(channel, Reporter.line "" report)]

/-- What a reporter writes does not depend on what it remembers. -/
theorem snd_takeAll (verbose : Bool) (events : List Event) (r : Reporter) :
    (r.takeAll verbose events).2 = events.flatMap (Event.texts verbose r.channel) := by
  induction events generalizing r with
  | nil => rfl
  | cons event events ih =>
    have hmore := ih (r.take verbose event).1
    rw [List.flatMap_cons]
    cases event with
    | logged record => exact congrArg (_ ++ ·) hmore
    | reported report => exact congrArg (_ ++ ·) hmore

theorem said_listen (verbose : Bool) (source : List Char) (file : String) (r : Reporter) :
    (listen verbose source file r).2.2 =
      (Scanner.scanned source file (some .patient)).events.toList.flatMap
        (Event.texts verbose r.channel) :=
  snd_takeAll verbose _ r

/-- What a run writes does not depend on what the reporter remembers. -/
theorem said_run_congr {q : Reporter} (h : r.channel = q.channel) :
    (run verbose source file r).2.2 = (run verbose source file q).2.2 := by
  rw [said_run, said_run, said_listen, said_listen, h]

/-- An event never writes to the output, unless the reporter does. -/
theorem on_output_texts {channel : Channel} (h : channel ≠ .output) (event : Event) :
    Transcript.on .output (event.texts verbose channel) = "" := by
  cases event with
  | logged record =>
    have herrors : Channel.errors ≠ .output := nofun
    cases verbose with
    | false => rfl
    | true => exact Transcript.on_map_of_ne herrors (fun r => LogRecord.text r ++ "\n") [record]
  | reported report => exact Transcript.on_map_of_ne h (Reporter.line "") [report]

/-- Where no log goes, only the reports stand. -/
theorem on_channel_texts {channel : Channel} (h : verbose = true → channel ≠ .errors)
    (event : Event) : Transcript.on channel (event.texts verbose channel) =
      String.join (event.report?.toList.map (Reporter.line "")) := by
  cases event with
  | logged record =>
    cases verbose with
    | false => rfl
    | true =>
      exact Transcript.on_map_of_ne (h rfl).symm (fun r => LogRecord.text r ++ "\n") [record]
  | reported report => exact Transcript.on_map channel (Reporter.line "") [report]

/-- A run writes one token a line. -/
theorem on_output_run (verbose : Bool) (source : List Char) (file : String) (h : r.channel ≠ .output) :
    Transcript.on .output (run verbose source file r).2.2 =
      String.join ((scanSource source file).tokens.map (·.text ++ "\n")) := by
  rw [said_run, Transcript.on_append, Transcript.on_map, said_listen,
    Transcript.on_flatMap_of_empty (on_output_texts h), String.empty_append]

/-- Who listens prints one diagnostic a line. -/
theorem on_channel_listen (source : List Char) (file : String)
    (hlog : verbose = true → r.channel ≠ .errors) :
    Transcript.on r.channel (listen verbose source file r).2.2 =
      String.join ((scanSource source file).diagnostics.map fun d => Reporter.line "" d.report) := by
  have hreports : (Scanner.scanned source file (some .patient)).events.toList.filterMap
      Event.report? = (scanSource source file).diagnostics.map (·.report) := by
    rw [← reports_scanned, Scanner.reports, Array.toList_filterMap]
  rw [said_listen, Transcript.on_flatMap]
  simp only [on_channel_texts hlog]
  rw [Transcript.join_map_join, ← List.map_flatMap, ← List.filterMap_eq_flatMap_toList, hreports,
    List.map_map]
  rfl

/-- A run reports one diagnostic a line. -/
theorem on_channel_run (source : List Char) (file : String) (h : r.channel ≠ .output)
    (hlog : verbose = true → r.channel ≠ .errors) :
    Transcript.on r.channel (run verbose source file r).2.2 =
      String.join ((scanSource source file).diagnostics.map fun d => Reporter.line "" d.report) := by
  rw [said_run, Transcript.on_append, Transcript.on_map_of_ne h.symm, String.append_empty,
    on_channel_listen source file hlog]

end LoxLex
