import LoxLex.Proofs.LineEnds
import LoxLex.Proofs.LineNumbers
import LoxLex.Proofs.Transcripts
import LoxLex.Session

/-!
# LoxLex.Proofs.Prompt — line by line, or the whole at once

A prompt scans every line alone and resets its reporter behind it.  Nothing that a line leaves reaches
the next one, so a prompt writes what each of its lines makes it write (`runLines_eq`).  And as long as
no line leaves a string open, the lines give together what the whole text gives, but for the numbers of
the lines (`segments_of_division`).

* `Lines.division_split`: what the lines of a text are.
* `AnswersEach`, `GivesWhole`: what a prompt writes, and how it compares with a scan of the whole.
* `runPrompt_line_by_line`: both hold, whatever is typed in.
-/

namespace LoxLex

/-! ### The lines of a text -/

namespace Lines

/-- The lines of a text.  A newline ends each and stands nowhere else in it; only the last line may lack
its own. -/
inductive Division : List Char → List (List Char) → Prop
  | nil : Division [] []
  | last {body : List Char} (nonempty : body ≠ []) (h : '\n' ∉ body) : Division body [body]
  | line {body rest : List Char} {lines : List (List Char)} (h : '\n' ∉ body)
      (more : Division rest lines) : Division (body ++ '\n' :: rest) ((body ++ ['\n']) :: lines)

/-- **Text is taken apart at newlines, and nowhere else.** -/
theorem division_split (cs : List Char) : Division cs (split cs) := by
  induction cs with
  | nil => exact .nil
  | cons c rest ih =>
    unfold split
    split
    · next hc =>
      subst hc
      have hempty : Division ([] ++ '\n' :: rest) (([] ++ ['\n']) :: split rest) :=
        .line List.not_mem_nil ih
      exact hempty
    · next hc =>
      have hcons : ∀ {body : List Char}, '\n' ∉ body → '\n' ∉ c :: body := by
        intro body h hmem
        rcases List.mem_cons.mp hmem with hc' | hmem
        · exact hc hc'.symm
        · exact h hmem
      -- The character goes in front of the first line, if the rest has one.
      cases hs : split rest with
      | nil =>
        rw [hs] at ih
        cases ih
        exact .last (by simp) (hcons List.not_mem_nil)
      | cons line lines =>
        rw [hs] at ih
        cases ih with
        | last nonempty h => exact .last (by simp) (hcons h)
        | line h more => exact .line (hcons h) more

/-- A line is a text without newlines, and its newline. -/
theorem Division.exists_body {cs : List Char} {lines : List (List Char)} (hd : Division cs lines)
    {line : List Char} (hline : line ∈ lines) :
    ∃ body, '\n' ∉ body ∧ (line = body ∨ line = body ++ ['\n']) := by
  induction hd with
  | nil => cases hline
  | @last body nonempty h => exact ⟨body, h, Or.inl (List.mem_singleton.mp hline)⟩
  | @line body rest lines h more ih =>
    rcases List.mem_cons.mp hline with hline | hline
    · exact ⟨body, h, Or.inr hline⟩
    · exact ih hline

end Lines

/-! ### Lines that leave no string open -/

/-- An open quote is a string without end, and the only one. -/
theorem openQuote_iff (source : List Char) :
    OpenQuote source ↔ ∃ w, .unterminated w ∈ segments source := by
  obtain ⟨tail, hds, htail⟩ := diagnosticsFrom_segments "" source
  rw [← exists_unterminated_iff "" 1 (segments source), hds]
  constructor
  · intro hopen
    obtain ⟨-, rfl⟩ | ⟨hclosed, -⟩ := htail
    · exact ⟨_, List.mem_append_right _ (List.mem_singleton.mpr rfl), rfl⟩
    · exact absurd hopen hclosed
  · rintro ⟨d, hd, hcode⟩
    obtain ⟨hopen, -⟩ | ⟨-, rfl⟩ := htail
    · exact hopen
    · rw [List.append_nil] at hd
      obtain ⟨x, -, rfl⟩ := List.mem_map.mp hd
      exact absurd hcode (by simp [Diagnostic.stray, Diagnostic.error])

/-- A quote that is open in a line is open behind its newline. -/
theorem not_open_of_line {body : List Char}
    (h : ∀ w, .unterminated w ∉ segments (body ++ ['\n'])) : ∀ w, .unterminated w ∉ segments body := by
  intro w hw
  obtain ⟨before, rest, rfl, hout, hquote⟩ := (openQuote_iff body).mpr ⟨w, hw⟩
  have hopen : OpenQuote (before ++ '"' :: rest ++ ['\n']) := by
    refine ⟨before, rest ++ ['\n'], by simp, hout, ?_⟩
    simpa using hquote
  obtain ⟨v, hv⟩ := (openQuote_iff _).mp hopen
  exact h v hv

theorem segments_line {body : List Char} (h : ∀ w, .unterminated w ∉ segments (body ++ ['\n'])) :
    segments (body ++ ['\n']) = segments body ++ [.lexeme .newline ['\n']] := by
  rw [segments_line_end (not_open_of_line h), segments_nil]

/-- **The spans of a text are those of its lines**, if no line leaves a string open. -/
theorem segments_of_division {cs : List Char} {lines : List (List Char)}
    (hd : Lines.Division cs lines) (h : ∀ line ∈ lines, ∀ w, .unterminated w ∉ segments line) :
    segments cs = lines.flatMap segments := by
  induction hd with
  | nil => simp
  | last => simp
  | line hbody more ih =>
    obtain ⟨hline, hlines⟩ := List.forall_mem_cons.mp h
    rw [List.flatMap_cons, segments_line_end (not_open_of_line hline), segments_line hline, ih hlines,
      List.append_assoc]
    rfl

/-- Each line moves down by the lines in front of it. -/
theorem diagnosticsFrom_of_division {cs : List Char} {lines : List (List Char)}
    (hd : Lines.Division cs lines) (file : String) (k : Nat) :
    diagnosticsFrom file (k + 1) (lines.flatMap segments) =
      (lines.zipIdx k).flatMap fun (line, j) =>
        (diagnosticsFrom file 1 (segments line)).map (.below j) := by
  induction hd generalizing k with
  | nil => rfl
  | last =>
    rw [diagnosticsFrom_add]
    simp
  | @line body rest lines hbody more ih =>
    have hcount : (body ++ ['\n']).count '\n' = 1 := by
      rw [List.count_append, List.count_eq_zero.mpr hbody]
      rfl
    rw [List.flatMap_cons, diagnosticsFrom_append, spelled_segments, hcount, ih (k + 1),
      diagnosticsFrom_add, List.zipIdx_cons, List.flatMap_cons]

/-- All that is wrong with a line that leaves no string open is wrong on its first line. -/
theorem line_eq_one {line : List Char}
    (hline : ∃ body, '\n' ∉ body ∧ (line = body ∨ line = body ++ ['\n']))
    (hopen : ∀ w, .unterminated w ∉ segments line) {file : String} {d : Diagnostic}
    (hd : d ∈ diagnosticsFrom file 1 (segments line)) : d.line = 1 := by
  obtain ⟨body, hbody, hline⟩ := hline
  -- The newline itself has no diagnostic.
  have hd' : d ∈ diagnosticsFrom file 1 (segments body) := by
    rcases hline with rfl | rfl
    · exact hd
    · rw [segments_line hopen, diagnosticsFrom_line_end] at hd
      simpa using hd
  have hle := line_le_of_mem_diagnosticsFrom hd'
  rw [spelled_segments, List.count_eq_zero.mpr hbody] at hle
  omega

/-! ### What a scan gives, but for the lines -/

/-- All tokens but the end of input, without their lines. -/
def contents (ts : List Token) : List Content :=
  (ts.filter (·.kind ≠ .endOfInput)).map Token.content

/-- No lexeme is the end of input. -/
theorem kind_ne_endOfInput {line : Nat} {ps : List Span} {t : Token} (h : t ∈ tokensFrom line ps) :
    t.kind ≠ .endOfInput := by
  obtain ⟨p, text, -, hkind, -, -⟩ := exists_lexeme_of_mem h
  intro hend
  rw [hend] at hkind
  rcases Pattern.kind?_cases hkind with h | ⟨-, h⟩ | ⟨-, h⟩
  · exact h (by decide)
  · cases h
  · cases h

theorem contents_scanSource (source : List Char) (file : String) :
    contents (scanSource source file).tokens = (segments source).filterMap Span.content? := by
  have hall : (tokensFrom 1 (segments source)).filter (·.kind ≠ .endOfInput) =
      tokensFrom 1 (segments source) := by
    rw [List.filter_eq_self]
    intro t ht
    exact decide_eq_true (kind_ne_endOfInput ht)
  unfold contents
  rw [scanSource_eq, List.filter_append, hall, List.map_append, map_content_tokensFrom]
  simp [Token.endOfInput]

/-- A report does not name the file. -/
theorem map_report_scanSource (source : List Char) (file file' : String) :
    (scanSource source file).diagnostics.map (·.report) =
      (scanSource source file').diagnostics.map (·.report) := by
  have hspans : ∀ (ps : List Span) (line : Nat), (diagnosticsFrom file line ps).map (·.report) =
      (diagnosticsFrom file' line ps).map (·.report) := by
    intro ps
    induction ps with
    | nil => exact fun _ => rfl
    | cons p ps ih =>
      intro line
      rw [diagnosticsFrom_cons, diagnosticsFrom_cons, List.map_append, List.map_append, ih]
      cases p <;> rfl
  rw [scanSource_eq, scanSource_eq]
  exact hspans _ 1

/-! ### A prompt -/

/-- **Lines that are typed in are run each for itself**: what a reporter remembers of one does not reach
the next. -/
theorem runLines_eq (verbose : Bool) (lines : List (List Char)) (r : Reporter) :
    (runLines verbose lines r).2 =
      lines.flatMap fun line => ask :: (run verbose line typedIn (.new r.channel)).2.2 := by
  induction lines generalizing r with
  | nil => rfl
  | cons line lines ih =>
    have hnew : (run verbose line typedIn r).2.2 =
        (run verbose line typedIn (.new r.channel)).2.2 := said_run_congr rfl
    have hchannel : (runLine verbose line r).1.channel = r.channel :=
      channel_run verbose line typedIn r
    have hmore := ih (runLine verbose line r).1
    rw [hchannel] at hmore
    rw [List.flatMap_cons, ← hnew]
    exact congrArg (ask :: (run verbose line typedIn r).2.2 ++ ·) hmore

theorem said_runPrompt (verbose : Bool) (input : List Char) (r : Reporter) :
    (runPrompt verbose input r).2 =
      (Lines.split input).flatMap
          (fun line => ask :: (run verbose line typedIn (.new r.channel)).2.2) ++
        [ask, (.output, "\n")] := by
  rw [← runLines_eq]
  rfl

/-- What the reporter of a prompt hears of the lines, each of them alone. -/
def lineReports (verbose : Bool) (lines : List (List Char)) (channel : Channel) : List Report :=
  lines.flatMap fun line => (run verbose line typedIn (.new channel)).2.1.reports

theorem lineReports_eq (verbose : Bool) (lines : List (List Char)) (channel : Channel) :
    lineReports verbose lines channel =
      lines.flatMap fun line => (scanSource line typedIn).diagnostics.map (·.report) := by
  refine List.flatMap_congr fun line _ => ?_
  rw [reporter_run]
  rfl

/-- A prompt asks for each line, runs it as if it were alone, and asks once more at the end. -/
structure AnswersEach (verbose : Bool) (input : List Char) (channel : Channel) (said : Transcript) :
    Prop where
  division : Lines.Division input (Lines.split input)
  transcript : said = (Lines.split input).flatMap
      (fun line => ask :: (run verbose line typedIn (.new channel)).2.2) ++ [ask, (.output, "\n")]
  output : channel ≠ .output → said.on .output =
    String.join ((Lines.split input).map fun line =>
      "> " ++ String.join ((scanSource line typedIn).tokens.map (·.text ++ "\n"))) ++ "> \n"
  told : channel ≠ .output → (verbose = true → channel ≠ .errors) → Transcript.on channel said =
    String.join ((lineReports verbose (Lines.split input) channel).map (Reporter.line ""))

/-- The lines of a text give what a scan of the whole gives; only, what is wrong is on line one of
each. -/
structure GivesWhole (verbose : Bool) (input : List Char) (file : String) (channel : Channel) :
    Prop where
  tokens : contents (scanSource input file).tokens =
    (Lines.split input).flatMap fun line => contents (scanSource line typedIn).tokens
  diagnostics : (scanSource input file).diagnostics =
    (Lines.split input).zipIdx.flatMap fun (line, k) =>
      (scanSource line file).diagnostics.map (.below k)
  first : ∀ line ∈ Lines.split input, ∀ d ∈ (scanSource line file).diagnostics, d.line = 1
  reports : lineReports verbose (Lines.split input) channel =
    (scanSource input file).diagnostics.map fun d => ⟨1, d.message⟩

theorem answersEach_runPrompt (verbose : Bool) (input : List Char) (r : Reporter) :
    AnswersEach verbose input r.channel (runPrompt verbose input r).2 := by
  refine ⟨Lines.division_split input, said_runPrompt verbose input r, fun hchannel => ?_,
    fun hchannel hlog => ?_⟩
  · have hline : ∀ line : List Char,
        Transcript.on .output (ask :: (run verbose line typedIn (.new r.channel)).2.2) =
          "> " ++ String.join ((scanSource line typedIn).tokens.map (·.text ++ "\n")) := by
      intro line
      have hrun := on_output_run (r := .new r.channel) verbose line typedIn hchannel
      rw [← List.singleton_append, Transcript.on_append, hrun]
      rfl
    rw [said_runPrompt, Transcript.on_append, Transcript.on_flatMap]
    simp only [hline]
    rfl
  · have hask : Transcript.on r.channel [ask] = "" :=
      Transcript.on_map_of_ne hchannel.symm (fun text => text) ["> "]
    have hend : Transcript.on r.channel [ask, (.output, "\n")] = "" :=
      Transcript.on_map_of_ne hchannel.symm (fun text => text) ["> ", "\n"]
    have hline : ∀ line : List Char,
        Transcript.on r.channel (ask :: (run verbose line typedIn (.new r.channel)).2.2) =
          String.join (((scanSource line typedIn).diagnostics.map (·.report)).map
            (Reporter.line "")) := by
      intro line
      have hrun := on_channel_run (r := .new r.channel) line typedIn hchannel hlog
      rw [← List.singleton_append, Transcript.on_append, hask, String.empty_append, List.map_map]
      exact hrun
    rw [said_runPrompt, Transcript.on_append, Transcript.on_flatMap, hend, String.append_empty]
    simp only [hline]
    rw [Transcript.join_map_join, lineReports_eq, List.map_flatMap]

theorem givesWhole {input : List Char}
    (h : ∀ line ∈ Lines.split input, ∀ d ∈ (scanSource line typedIn).diagnostics,
      d.code ≠ some "L002") (verbose : Bool) (file : String) (channel : Channel) :
    GivesWhole verbose input file channel := by
  have hopen : ∀ line ∈ Lines.split input, ∀ w, .unterminated w ∉ segments line := by
    intro line hline w hw
    obtain ⟨d, hd, hcode⟩ := (exists_unterminated_iff typedIn 1 (segments line)).mpr ⟨w, hw⟩
    have hclosed := h line hline
    rw [scanSource_eq] at hclosed
    exact hclosed d hd hcode
  have hd := Lines.division_split input
  have hsegments := segments_of_division hd hopen
  have hdiagnostics : (scanSource input file).diagnostics =
      (Lines.split input).zipIdx.flatMap fun (line, k) =>
        (scanSource line file).diagnostics.map (.below k) := by
    simp only [scanSource_eq, hsegments]
    exact diagnosticsFrom_of_division hd file 0
  have hfirst : ∀ line ∈ Lines.split input, ∀ d ∈ (scanSource line file).diagnostics,
      d.line = 1 := by
    intro line hline d hmem
    rw [scanSource_eq] at hmem
    exact line_eq_one (hd.exists_body hline) (hopen line hline) hmem
  refine ⟨?_, hdiagnostics, hfirst, ?_⟩
  · simp only [contents_scanSource, hsegments]
    rw [List.filterMap_flatMap]
  · have hline : ∀ line ∈ Lines.split input, (scanSource line typedIn).diagnostics.map (·.report) =
        (scanSource line file).diagnostics.map fun d => ⟨1, d.message⟩ := by
      intro line hmem
      rw [map_report_scanSource line typedIn file]
      refine List.map_congr_left fun d hd => ?_
      rw [Diagnostic.report, hfirst line hmem d hd]
    rw [lineReports_eq, List.flatMap_congr hline, hdiagnostics, List.map_flatMap]
    conv_lhs => rw [← List.zipIdx_map_fst 0 (Lines.split input), List.flatMap_map]
    refine List.flatMap_congr fun x _ => ?_
    rw [List.map_map]
    rfl

/-- **A prompt goes line by line, and as long as no line leaves a string open this is as good as
scanning the whole.** -/
theorem runPrompt_line_by_line (verbose : Bool) (input : List Char) (r : Reporter) (disk : Disk) :
    r.perform disk (.runPrompt input) = (.ok (.status 0), runPrompt false input r) ∧
      AnswersEach verbose input r.channel (runPrompt verbose input r).2 ∧
      ((∀ line ∈ Lines.split input, ∀ d ∈ (scanSource line typedIn).diagnostics,
          d.code ≠ some "L002") →
        ∀ file, GivesWhole verbose input file r.channel) :=
  ⟨rfl, answersEach_runPrompt verbose input r, fun h file => givesWhole h verbose file r.channel⟩

/-- A stray on the second line: the prompt reports it on line one. -/
theorem runPrompt_line_by_line_stray :
    let input := ['v', 'a', 'r', '\n', '@', '\n', 'n', 'i', 'l']
    let said := (runPrompt false input (.new .reports)).2
    (∀ line ∈ Lines.split input, ∀ d ∈ (scanSource line typedIn).diagnostics,
        d.code ≠ some "L002") ∧
      said.on .output =
        "> VAR var null\nEOF  null\n> EOF  null\n> NIL nil null\nEOF  null\n> \n" ∧
      said.on .reports = "[line 1] Error: Unexpected character.\n" ∧
      (scanSource input "a.lox").diagnostics.map (·.line) = [2] := by
  intro input said
  have hclosed : ∀ line ∈ Lines.split input, ∀ d ∈ (scanSource line typedIn).diagnostics,
      d.code ≠ some "L002" := by decide
  obtain ⟨-, heach, hwhole⟩ := runPrompt_line_by_line false input (.new .reports)
    ⟨fun path => .error ⟨path, .notFound⟩⟩
  have htold := heach.told (by decide) (by decide)
  rw [(hwhole hclosed "a.lox").reports] at htold
  refine ⟨hclosed, (heach.output (by decide)).trans ?_, htold.trans ?_, ?_⟩
  · decide +kernel
  · decide +kernel
  · decide

end LoxLex
