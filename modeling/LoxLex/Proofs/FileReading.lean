import LoxLex.Files.Tree
import LoxLex.Proofs.Decoding
import LoxLex.Proofs.Transcripts
import LoxLex.Scanner.File

/-!
# LoxLex.Proofs.FileReading — a file is scanned as its text is, or it is not read

Between a path and the tokens of its file stand three questions: whether the path leads to a file,
whether the bytes of the file are a text, and which text this is once all line ends are newlines.  A scan
of the file and a run of it ask them alike.

* `FileTree.Opens`, `FileTree.read_eq_ok_iff`: to which bytes a path leads.
* `Lines.Unified`, `Lines.unified_iff`: a text with its line ends made newlines.
* `scanFile_runFile`: what a scan of a file answers, and that a run of it goes the same way.
-/

namespace LoxLex

/-! ### Where a path leads -/

namespace FileTree

variable {t : FileTree} {p q : Place} {names : List FileName} {name : FileName} {path : String}
  {bytes : Bytes}

/-- Names that lead from a place to another: each is looked up in a directory, and is short enough. -/
inductive Walk (t : FileTree) : Place → List FileName → Place → Prop
  | here (p : Place) : Walk t p [] p
  | into {p q : Place} {name : FileName} {names : List FileName}
      (directory : t.find? p = some .directory) (short : name.bytes.length ≤ nameLimit)
      (more : Walk t (step p name) names q) : Walk t p (name :: names) q

/-- A path that is not too long leads to a file. -/
def Opens (t : FileTree) (path : FileName) (bytes : Bytes) : Prop :=
  path.bytes ≠ [] ∧ path.bytes.length ≤ pathLimit ∧
    ∃ place, t.Walk (route path).1 (route path).2 place ∧ t.find? place = some (.file bytes)

theorem follow_eq_ok_iff : t.follow p name = .ok q ↔
    t.find? p = some .directory ∧ name.bytes.length ≤ nameLimit ∧ q = step p name := by
  unfold follow
  cases t.find? p with
  | none => simp
  | some entry =>
    cases entry with
    | file bytes => simp
    | directory =>
      by_cases h : nameLimit < name.bytes.length
      · simp [h]
      · simp [h, Nat.le_of_not_lt h, eq_comm]

theorem follow_ne_embeddedNul : t.follow p name ≠ .error .embeddedNul := by
  unfold follow
  split
  · exact nofun
  · exact nofun
  · split <;> exact nofun

theorem foldlM_cons (name : FileName) (names : List FileName) : (name :: names).foldlM t.follow p =
    (t.follow p name).bind fun p => names.foldlM t.follow p := rfl

/-- Names are followed just where they lead. -/
theorem foldlM_follow_eq_ok_iff : names.foldlM t.follow p = .ok q ↔ t.Walk p names q := by
  induction names generalizing p with
  | nil =>
    constructor
    · intro h
      cases h
      exact .here _
    · intro h
      cases h
      rfl
  | cons name names ih =>
    rw [foldlM_cons]
    constructor
    · intro h
      cases hf : t.follow p name with
      | error cause =>
        rw [hf] at h
        cases h
      | ok place =>
        rw [hf] at h
        obtain ⟨hdirectory, hshort, rfl⟩ := follow_eq_ok_iff.mp hf
        exact .into hdirectory hshort (ih.mp h)
    · intro h
      cases h with
      | into hdirectory hshort more =>
        rw [follow_eq_ok_iff.mpr ⟨hdirectory, hshort, rfl⟩]
        exact ih.mpr more

theorem foldlM_follow_ne_embeddedNul : names.foldlM t.follow p ≠ .error .embeddedNul := by
  induction names generalizing p with
  | nil => exact nofun
  | cons name names ih =>
    rw [foldlM_cons]
    cases hf : t.follow p name with
    | error cause =>
      intro h
      cases h
      exact follow_ne_embeddedNul hf
    | ok place => exact ih

theorem locate_eq_ok_iff (h : 0 ∉ name.bytes) : t.locate name = .ok q ↔
    name.bytes ≠ [] ∧ name.bytes.length ≤ pathLimit ∧ t.Walk (route name).1 (route name).2 q := by
  unfold locate
  rw [if_neg h]
  by_cases hempty : name.bytes = []
  · simp [hempty]
  by_cases hlong : pathLimit < name.bytes.length
  · simp [hempty, hlong]
  rw [if_neg hempty, if_neg hlong, foldlM_follow_eq_ok_iff]
  simp [hempty, Nat.le_of_not_lt hlong]

theorem locate_ne_embeddedNul (h : 0 ∉ name.bytes) : t.locate name ≠ .error .embeddedNul := by
  unfold locate
  rw [if_neg h]
  split
  · exact nofun
  split
  · exact nofun
  · exact foldlM_follow_ne_embeddedNul

/-- A path without a NUL has no byte of this value. -/
theorem zero_notMem (h : '\x00' ∉ path.toList) : 0 ∉ (path : FileName).bytes :=
  fun hmem => h (Utf8.zero_mem_encode_iff.mp hmem)

/-- **Bytes are read just from a file that the path leads to.** -/
theorem read_eq_ok_iff (h : '\x00' ∉ path.toList) :
    t.read path = .ok bytes ↔ t.Opens path bytes := by
  have hopens : t.Opens path bytes ↔
      ∃ place, t.locate path = .ok place ∧ t.find? place = some (.file bytes) := by
    unfold Opens
    simp only [locate_eq_ok_iff (zero_notMem h), and_assoc, exists_and_left]
  rw [hopens]
  unfold read
  cases hplace : t.locate path with
  | error cause => simp
  | ok place =>
    cases hentry : t.find? place with
    | none => simp [hentry]
    | some entry => cases entry <;> simp [hentry]

/-- A path leads to one file at most. -/
theorem Opens.unique {bytes' : Bytes} (hpath : '\x00' ∉ path.toList) (h : t.Opens path bytes)
    (h' : t.Opens path bytes') : bytes = bytes' := by
  have hread := (read_eq_ok_iff hpath).mpr h
  rw [(read_eq_ok_iff hpath).mpr h'] at hread
  exact (Except.ok.inj hread).symm

/-- Only a NUL in the path is refused as no path at all. -/
theorem cause_of_read {e : OpenError} (h : '\x00' ∉ path.toList) (he : t.read path = .error e) :
    e.path = path ∧ e.cause ≠ .embeddedNul := by
  unfold read at he
  cases hplace : t.locate path with
  | error cause =>
    rw [hplace] at he
    cases he
    refine ⟨rfl, ?_⟩
    rintro rfl
    exact locate_ne_embeddedNul (zero_notMem h) hplace
  | ok place =>
    rw [hplace] at he
    dsimp only at he
    split at he
    · cases he
      exact ⟨rfl, nofun⟩
    · cases he
      exact ⟨rfl, nofun⟩
    · cases he

end FileTree

/-! ### Line ends -/

namespace Lines

/-- The same text with newlines for line ends.  A carriage return and a newline behind it are one line
end; so is a carriage return without. -/
inductive Unified : List Char → List Char → Prop
  | nil : Unified [] []
  | pair {cs text : List Char} (more : Unified cs text) : Unified ('\r' :: '\n' :: cs) ('\n' :: text)
  | lone {cs text : List Char} (h : cs.head? ≠ some '\n') (more : Unified cs text) :
      Unified ('\r' :: cs) ('\n' :: text)
  | other {c : Char} {cs text : List Char} (h : c ≠ '\r') (more : Unified cs text) :
      Unified (c :: cs) (c :: text)

theorem unify_lone {cs : List Char} (h : cs.head? ≠ some '\n') :
    unify ('\r' :: cs) = '\n' :: unify cs := by
  cases cs with
  | nil => rfl
  | cons c cs =>
    have hc : c ≠ '\n' := fun hc => h (hc ▸ rfl)
    rw [unify]
    rintro rest hrest
    exact hc (List.cons.inj hrest).1

theorem unify_other {c : Char} (h : c ≠ '\r') (cs : List Char) : unify (c :: cs) = c :: unify cs := by
  rw [unify]
  · rintro rest rfl
    exact absurd rfl h
  · rintro rfl
    exact absurd rfl h

theorem unified_unify (cs : List Char) : Unified cs (unify cs) := by
  induction cs using unify.induct with
  | case1 => exact .nil
  | case2 rest ih => exact .pair ih
  | case3 rest hpair ih =>
    have hlone : rest.head? ≠ some '\n' := by
      intro h
      obtain ⟨more, rfl⟩ := List.head?_eq_some_iff.mp h
      exact hpair more rfl
    rw [unify_lone hlone]
    exact .lone hlone ih
  | case4 c rest hpair hlone ih =>
    rw [unify_other hlone]
    exact .other hlone ih

/-- **Every text has one such text.** -/
theorem unified_iff {cs text : List Char} : Unified cs text ↔ text = unify cs := by
  constructor
  · intro h
    induction h with
    | nil => rfl
    | pair more ih => rw [ih, unify]
    | lone h more ih => rw [ih, unify_lone h]
    | other h more ih => rw [ih, unify_other h]
  · rintro rfl
    exact unified_unify cs

end Lines

/-! ### A scan of a file, and a run of it -/

/-- What a scan answers of the file that a path leads to. -/
structure AnswersFile (t : FileTree) (path : String) (scanned : Except ReadError ScanResult) :
    Prop where
  unopened : (∃ e, scanned = .error (.unopened e)) ↔ ¬ ∃ bytes, t.Opens path bytes
  cause : ∀ e, scanned = .error (.unopened e) → e.path = path ∧ e.cause ≠ .embeddedNul
  undecodable : (∃ fault, scanned = .error (.undecodable fault)) ↔
    ∃ bytes, t.Opens path bytes ∧ ¬ bytes.toByteArray.IsValidUTF8
  read : ∀ result, scanned = .ok result ↔
    ∃ cs text, t.Opens path (Utf8.encode cs) ∧ Lines.Unified cs text ∧ result = scanSource text path

/-- A run reads the file where a scan does, and then writes what the scan answers; where it does not
read the file, it says so and leaves the reporter as it was. -/
structure RunsAsScanned (verbose : Bool) (path : String) (r : Reporter)
    (scanned : Except ReadError ScanResult) (ran : Except OpenError (Nat × Reporter × Transcript)) :
    Prop where
  unread : ∀ e, scanned = .error e → ran = .ok (unreadableStatus, r,
    [(.errors, "Cannot read " ++ path ++ ": " ++ e.message ++ "\n")])
  status : (∃ r' said, ran = .ok (unreadableStatus, r', said)) ↔ ∃ e, scanned = .error e
  run : ∀ result, scanned = .ok result → ∃ r' said,
    ran = .ok (if r'.hadError then dataStatus else 0, r', said) ∧
      r'.reports = r.reports ++ result.diagnostics.map (·.report) ∧
      r'.hadError = (r.hadError || result.hasErrors) ∧
      (r.channel ≠ .output →
        said.on .output = String.join (result.tokens.map (·.text ++ "\n"))) ∧
      (r.channel ≠ .output → (verbose = true → r.channel ≠ .errors) →
        said.on r.channel =
          String.join (result.diagnostics.map fun d => Reporter.line "" d.report))

variable {t : FileTree} {path : String}

theorem scanFile_eq (disk : Disk) (path : String) :
    scanFile disk path = (disk.readText path).map fun source => scanSource source path := by
  unfold scanFile Scanner.scannedFile
  cases disk.readText path <;> rfl

theorem scanFile_of_read_error {e : OpenError} (h : t.read path = .error e) :
    scanFile t.disk path = .error (.unopened e) := by
  rw [scanFile_eq]
  unfold Disk.readText
  rw [show t.disk.read path = .error e from h]
  rfl

theorem scanFile_of_read {bytes : Bytes} (h : t.read path = .ok bytes) : scanFile t.disk path =
    match Utf8.decode bytes with
    | .ok cs => .ok (scanSource (Lines.unify cs) path)
    | .error fault => .error (.undecodable fault) := by
  rw [scanFile_eq]
  unfold Disk.readText textOf
  rw [show t.disk.read path = .ok bytes from h]
  dsimp only
  cases Utf8.decode bytes <;> rfl

/-- A path does not open, or its bytes are not well-formed, or they are a text, which is scanned. -/
theorem scanFile_cases (h : '\x00' ∉ path.toList) :
    (∃ e, scanFile t.disk path = .error (.unopened e) ∧ (e.path = path ∧ e.cause ≠ .embeddedNul) ∧
      ∀ bytes, ¬ t.Opens path bytes) ∨
    (∃ fault bytes, scanFile t.disk path = .error (.undecodable fault) ∧ t.Opens path bytes ∧
      ¬ bytes.toByteArray.IsValidUTF8) ∨
    ∃ cs, scanFile t.disk path = .ok (scanSource (Lines.unify cs) path) ∧
      t.Opens path (Utf8.encode cs) := by
  cases hread : t.read path with
  | error e =>
    refine Or.inl ⟨e, scanFile_of_read_error hread, FileTree.cause_of_read h hread, ?_⟩
    intro bytes hopens
    rw [(FileTree.read_eq_ok_iff h).mpr hopens] at hread
    cases hread
  | ok bytes =>
    have hopens := (FileTree.read_eq_ok_iff h).mp hread
    have hscan := scanFile_of_read hread
    cases hdecode : Utf8.decode bytes with
    | error fault =>
      rw [hdecode] at hscan
      refine Or.inr (Or.inl ⟨fault, bytes, hscan, hopens, ?_⟩)
      rw [Utf8.isValidUTF8_iff]
      rintro ⟨cs, hcs⟩
      rw [(Utf8.decode_eq_ok_iff bytes cs).mpr hcs] at hdecode
      cases hdecode
    | ok cs =>
      rw [hdecode] at hscan
      obtain rfl := (Utf8.decode_eq_ok_iff bytes cs).mp hdecode
      exact Or.inr (Or.inr ⟨cs, hscan, hopens⟩)

theorem answersFile_scanFile (h : '\x00' ∉ path.toList) :
    AnswersFile t path (scanFile t.disk path) := by
  rcases scanFile_cases (t := t) h with ⟨e, hscan, hcause, hnone⟩ |
    ⟨fault, bytes, hscan, hopens, hill⟩ | ⟨cs, hscan, hopens⟩
  · rw [hscan]
    refine ⟨⟨fun _ ⟨bytes, hopens⟩ => hnone bytes hopens, fun _ => ⟨e, rfl⟩⟩, ?_, ⟨?_, ?_⟩, ?_⟩
    · rintro e' he'
      cases he'
      exact hcause
    · rintro ⟨fault, hfault⟩
      cases hfault
    · rintro ⟨bytes, hopens, -⟩
      exact absurd hopens (hnone bytes)
    · refine fun result => ⟨nofun, ?_⟩
      rintro ⟨cs, text, hopens, -⟩
      exact absurd hopens (hnone _)
  · rw [hscan]
    refine ⟨⟨?_, fun hnone => absurd ⟨bytes, hopens⟩ hnone⟩, nofun,
      ⟨fun _ => ⟨bytes, hopens, hill⟩, fun _ => ⟨fault, rfl⟩⟩, ?_⟩
    · rintro ⟨e, he⟩
      cases he
    · refine fun result => ⟨nofun, ?_⟩
      rintro ⟨cs, text, hopens', -⟩
      rw [hopens.unique h hopens', Utf8.isValidUTF8_iff] at hill
      exact absurd ⟨cs, rfl⟩ hill
  · rw [hscan]
    refine ⟨⟨?_, fun hnone => absurd ⟨_, hopens⟩ hnone⟩, nofun, ⟨?_, ?_⟩, ?_⟩
    · rintro ⟨e, he⟩
      cases he
    · rintro ⟨fault, hfault⟩
      cases hfault
    · rintro ⟨bytes, hopens', hill⟩
      rw [hopens'.unique h hopens, Utf8.isValidUTF8_iff] at hill
      exact absurd ⟨cs, rfl⟩ hill
    · intro result
      constructor
      · intro hresult
        exact ⟨cs, _, hopens, Lines.unified_unify cs, (Except.ok.inj hresult).symm⟩
      · rintro ⟨ds, text, hopens', htext, rfl⟩
        obtain rfl := Utf8.encode_injective (hopens.unique h hopens')
        rw [Lines.unified_iff.mp htext]

/-- A file that cannot be read changes nothing, and is told only to the errors. -/
theorem runFile_of_error {disk : Disk} {e : ReadError} (h : disk.readText path = .error e)
    (he : ∀ o, e = .unopened o → o.cause ≠ .embeddedNul) (verbose : Bool) (r : Reporter) :
    runFile verbose disk path r = .ok (unreadableStatus, r,
      [(.errors, "Cannot read " ++ path ++ ": " ++ e.message ++ "\n")]) := by
  unfold runFile
  rw [h]
  cases e with
  | undecodable fault => rfl
  | unopened o =>
    obtain ⟨place, cause⟩ := o
    cases cause with
    | embeddedNul => exact absurd rfl (he _ rfl)
    | _ => rfl

theorem runFile_of_ok {disk : Disk} {source : List Char} (h : disk.readText path = .ok source)
    (verbose : Bool) (r : Reporter) : runFile verbose disk path r =
      .ok (if (run verbose source path r).2.1.hadError then dataStatus else 0,
        (run verbose source path r).2) := by
  unfold runFile
  rw [h]

theorem runsAsScanned_runFile (h : '\x00' ∉ path.toList) (verbose : Bool) (r : Reporter) :
    RunsAsScanned verbose path r (scanFile t.disk path) (runFile verbose t.disk path r) := by
  have hcause := (answersFile_scanFile (t := t) h).cause
  rw [scanFile_eq] at hcause ⊢
  cases hread : t.disk.readText path with
  | error e =>
    rw [hread] at hcause
    have he : ∀ o, e = .unopened o → o.cause ≠ .embeddedNul := by
      rintro o rfl
      exact (hcause o rfl).2
    rw [runFile_of_error hread he]
    refine ⟨?_, ⟨fun _ => ⟨e, rfl⟩, fun _ => ⟨_, _, rfl⟩⟩, nofun⟩
    intro e' he'
    cases he'
    rfl
  | ok source =>
    rw [runFile_of_ok hread]
    refine ⟨nofun, ⟨?_, ?_⟩, ?_⟩
    · rintro ⟨r', said, hran⟩
      have hstatus := congrArg Prod.fst (Except.ok.inj hran)
      dsimp only at hstatus
      split at hstatus <;> cases hstatus
    · rintro ⟨e, he⟩
      cases he
    · intro result hresult
      obtain rfl : scanSource source path = result := Except.ok.inj hresult
      refine ⟨_, _, rfl, ?_, ?_, fun hchannel => on_output_run verbose source path hchannel,
        fun hchannel hlog => on_channel_run source path hchannel hlog⟩
      · rw [reporter_run]
      · rw [reporter_run]
        simp [ScanResult.hasErrors]

end LoxLex
