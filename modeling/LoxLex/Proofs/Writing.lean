import LoxLex.NodeModule.Write
import LoxLex.Proofs.FileReading
import LoxLex.Proofs.NodeDescriptions

/-!
# LoxLex.Proofs.Writing — a module is written whole, or nothing changes

The text of a module is made before its file is opened, and a text of characters can always be written to
a file that opens.  So nothing that goes wrong leaves a trace, and what goes well changes one file only.  A
base with a surrogate is the exception: its text is made and its file may open, but has no bytes to be
written.  Then the file is left empty, and again no other file changes.

* `FileTree.find?_put`, `FileTree.openToWrite_eq_ok_iff`: what stands in a tree after a write, and where a
  path lets a file be written.
* `NodeModule.Ends`, `NodeModule.write_ends`: all that a write can do.
* `NodeModule.AllOrNothing`, `NodeModule.write_allOrNothing`: when a module is written and what is then in
  the files.
* `NodeModule.write_empties`: a file that is lost to a base with a surrogate.
-/

namespace LoxLex

/-! ### A tree after a write -/

namespace FileTree

variable {t u : FileTree} {p q place : Place} {names : List FileName} {path : FileName} {bytes : Bytes}

/-- A path that is none too long leads into a directory, and no directory stands where it leads. -/
def Accepts (t : FileTree) (path : FileName) (place : Place) : Prop :=
  0 ∉ path.bytes ∧ path.bytes ≠ [] ∧ path.bytes.length ≤ pathLimit ∧
    t.Walk (route path).1 (route path).2 place ∧ t.find? place ≠ some .directory

theorem lookup_filter_of_ne (h : q ≠ place) (entries : List (Place × Entry)) :
    (entries.filter (·.1 ≠ place)).lookup q = entries.lookup q := by
  induction entries with
  | nil => rfl
  | cons x entries ih =>
    obtain ⟨k, entry⟩ := x
    by_cases hk : k = place
    · have hq : (q == k) = false := by simpa [hk] using h
      rw [List.filter_cons_of_neg (by simpa using hk), ih, List.lookup_cons, hq]
    · rw [List.filter_cons_of_pos (by simpa using hk), List.lookup_cons, List.lookup_cons, ih]

theorem lookup_filter_self (entries : List (Place × Entry)) :
    (entries.filter (·.1 ≠ place)).lookup place = none := by
  rw [List.lookup_eq_none_iff]
  intro x hx
  have hne : x.1 ≠ place := of_decide_eq_true (List.mem_filter.mp hx).2
  exact bne_iff_ne.mpr hne.symm

/-- **Putting something at a place changes what stands there, and nothing else.** -/
theorem find?_put (t : FileTree) (place : Place) (entry : Entry) (q : Place) :
    (t.put place entry).find? q = if q = place then some entry else t.find? q := by
  unfold find? put
  rw [List.lookup_append]
  by_cases h : q = place
  · subst h
    rw [lookup_filter_self, if_pos rfl, Option.none_or, List.lookup_cons_self]
  · have hq : (q == place) = false := by simpa using h
    rw [lookup_filter_of_ne h, if_neg h, List.lookup_cons, hq, List.lookup_nil, Option.or_none]

theorem put_put (t : FileTree) (place : Place) (entry entry' : Entry) :
    (t.put place entry).put place entry' = t.put place entry' := by
  unfold put
  simp [List.filter_append, List.filter_filter]

/-- Names lead the same way in trees with the same directories. -/
theorem Walk.congr (h : ∀ q, t.find? q = some .directory → u.find? q = some .directory)
    (hw : t.Walk p names q) : u.Walk p names q := by
  induction hw with
  | here p => exact .here p
  | into directory short _ ih => exact .into (h _ directory) short ih

theorem directory_put_iff (hplace : t.find? place ≠ some .directory) (bytes : Bytes) (q : Place) :
    (t.put place (.file bytes)).find? q = some .directory ↔ t.find? q = some .directory := by
  rw [find?_put]
  by_cases h : q = place
  · subst h
    simp [hplace]
  · rw [if_neg h]

theorem walk_put_iff (hplace : t.find? place ≠ some .directory) (bytes : Bytes) :
    (t.put place (.file bytes)).Walk p names q ↔ t.Walk p names q :=
  ⟨Walk.congr fun q => (directory_put_iff hplace bytes q).mp,
    Walk.congr fun q => (directory_put_iff hplace bytes q).mpr⟩

theorem accepts_iff :
    t.Accepts path place ↔ t.locate path = .ok place ∧ t.find? place ≠ some .directory := by
  unfold Accepts
  by_cases hnul : 0 ∈ path.bytes
  · have hlocate : t.locate path = .error .embeddedNul := if_pos hnul
    simp [hlocate, hnul]
  · rw [locate_eq_ok_iff hnul, and_iff_right hnul, and_assoc, and_assoc]

/-- **A file opens to be written just where the path accepts one**, and is then empty. -/
theorem openToWrite_eq_ok_iff : t.openToWrite path = .ok (place, u) ↔
    t.Accepts path place ∧ u = t.put place (.file []) := by
  rw [accepts_iff]
  unfold openToWrite
  cases t.locate path with
  | error cause => simp
  | ok r =>
    dsimp only
    constructor
    · intro h
      split at h
      · cases h
      · next hfree =>
        cases h
        exact ⟨⟨rfl, hfree⟩, rfl⟩
    · rintro ⟨⟨hr, hfree⟩, rfl⟩
      rw [Except.ok.inj hr, if_neg hfree]

theorem Accepts.openToWrite (h : t.Accepts path place) :
    t.openToWrite path = .ok (place, t.put place (.file [])) :=
  openToWrite_eq_ok_iff.mpr ⟨h, rfl⟩

theorem Accepts.free (h : t.Accepts path place) : t.find? place ≠ some .directory := h.2.2.2.2

/-- The path to a file that was written accepts one again, and leads to the same place. -/
theorem Accepts.again (h : t.Accepts path place) (bytes : Bytes) :
    (t.put place (.file bytes)).Accepts path place := by
  obtain ⟨hnul, hempty, hlong, hwalk, hplace⟩ := h
  refine ⟨hnul, hempty, hlong, (walk_put_iff hplace bytes).mpr hwalk, ?_⟩
  rw [find?_put, if_pos rfl]
  exact nofun

/-- The path to a file that was written leads to what was written. -/
theorem Accepts.opens (h : t.Accepts path place) (bytes : Bytes) :
    (t.put place (.file bytes)).Opens path bytes := by
  obtain ⟨-, hempty, hlong, hwalk, -⟩ := h.again bytes
  exact ⟨hempty, hlong, place, hwalk, by rw [find?_put, if_pos rfl]⟩

/-- The path to any other file leads to what it led to. -/
theorem opens_put_iff (hplace : t.find? place ≠ some .directory) {bytes content : Bytes}
    (hother : ¬ t.Walk (route path).1 (route path).2 place) :
    (t.put place (.file bytes)).Opens path content ↔ t.Opens path content := by
  unfold Opens
  simp only [walk_put_iff hplace, find?_put]
  refine and_congr_right fun _ => and_congr_right fun _ => exists_congr fun q => ?_
  refine and_congr_right fun hwalk => ?_
  have hq : q ≠ place := by
    rintro rfl
    exact hother hwalk
  rw [if_neg hq]

end FileTree

/-! ### A text with surrogates in it -/

/-- A text names a file by its bytes, if a byte above `7F` stands for each surrogate. -/
inductive LooseText.Names : LooseText → Bytes → Prop
  | text (s : String) : Names (.text s) (Utf8.encode s.toList)
  | surrogate (before : String) {half : Surrogate} {b : UInt8} {more : LooseText} {bytes : Bytes}
      (byte : half.value = 0xDC00 + b.toNat) (high : 0x80 ≤ b.toNat) (rest : Names more bytes) :
      Names (.surrogate before half more) (Utf8.encode before.toList ++ b :: bytes)

namespace LooseText

variable {t : LooseText} {bytes : Bytes} {position : Nat} {fault : EncodeFault}

theorem byte?_eq_some_iff {half : Surrogate} {b : UInt8} :
    half.byte? = some b ↔ half.value = 0xDC00 + b.toNat ∧ 0x80 ≤ b.toNat := by
  have hb : b.toNat < 256 := b.toNat_lt
  unfold Surrogate.byte?
  split
  · next h =>
    have hvalue : (UInt8.ofNat (half.value - 0xDC00)).toNat = half.value - 0xDC00 := by
      rw [UInt8.toNat_ofNat', Nat.mod_eq_of_lt (by omega)]
    rw [Option.some.injEq, ← UInt8.toNat_inj, hvalue]
    omega
  · next h =>
    refine iff_of_false nofun ?_
    omega

/-- **The bytes of a name are found just where there are any.** -/
theorem encodeName_eq_ok_iff : t.encodeName position = .ok bytes ↔ t.Names bytes := by
  induction t generalizing bytes position with
  | text s =>
    constructor
    · intro h
      cases h
      exact .text s
    · intro h
      cases h
      rfl
  | surrogate before half more ih =>
    unfold encodeName
    dsimp only
    constructor
    · intro h
      split at h
      · cases h
      · next b hb =>
        obtain ⟨hvalue, hhigh⟩ := byte?_eq_some_iff.mp hb
        cases hmore : more.encodeName (position + before.length + 1) with
        | error fault =>
          rw [hmore] at h
          cases h
        | ok rest =>
          rw [hmore] at h
          cases h
          exact .surrogate before hvalue hhigh (ih.mp hmore)
    · intro h
      cases h with
      | surrogate _ byte high rest =>
        rw [byte?_eq_some_iff.mpr ⟨byte, high⟩]
        dsimp only
        rw [ih.mpr rest]
        rfl

/-- The code points of a text. -/
def codePoints : LooseText → List (Char ⊕ Surrogate)
  | .text s => s.toList.map .inl
  | .surrogate before half more => before.toList.map .inl ++ .inr half :: more.codePoints

theorem codePoints_append (t u : LooseText) : (t ++ u).codePoints = t.codePoints ++ u.codePoints := by
  induction t with
  | text s =>
    cases u with
    | text r =>
      show (s ++ r).toList.map Sum.inl = _
      rw [String.toList_append, List.map_append]
      rfl
    | surrogate before half more =>
      show (s ++ before).toList.map Sum.inl ++ _ = _
      rw [String.toList_append, List.map_append, List.append_assoc]
      rfl
  | surrogate before half more ih =>
    show before.toList.map Sum.inl ++ .inr half :: (more ++ u).codePoints = _
    rw [ih, ← List.cons_append, ← List.append_assoc]
    rfl

/-- The first surrogates of a text: characters stand in front of them, and behind them a character or
nothing. -/
def FirstSurrogates (t : LooseText) (fault : EncodeFault) : Prop :=
  ∃ (before : List Char) (run : List Surrogate) (behind : List (Char ⊕ Surrogate)),
    t.codePoints = before.map .inl ++ (run.map .inr ++ behind) ∧ (∀ s, behind.head? ≠ some (.inr s)) ∧
      run.head? = some fault.half ∧ before.length = fault.start ∧ run.length = fault.length

/-- The surrogates that a text begins with. -/
theorem exists_leading (t : LooseText) : ∃ (run : List Surrogate) (behind : List (Char ⊕ Surrogate)),
    t.codePoints = run.map .inr ++ behind ∧ (∀ s, behind.head? ≠ some (.inr s)) ∧
      run.length = t.leading := by
  induction t with
  | text s =>
    refine ⟨[], s.toList.map .inl, rfl, fun r => ?_, rfl⟩
    cases s.toList with
    | nil => exact nofun
    | cons c cs => exact nofun
  | surrogate before half more ih =>
    by_cases hbefore : before = ""
    · subst hbefore
      obtain ⟨run, behind, hmore, hbehind, hlength⟩ := ih
      refine ⟨half :: run, behind, ?_, hbehind, congrArg (· + 1) hlength⟩
      exact congrArg (Sum.inr half :: ·) hmore
    · refine ⟨[], _, rfl, ?_, (if_neg hbefore).symm⟩
      intro s
      show (before.toList.map Sum.inl ++ Sum.inr half :: more.codePoints).head? ≠ _
      cases hcs : before.toList with
      | nil => exact absurd (String.toList_eq_nil_iff.mp hcs) hbefore
      | cons c cs => exact nofun

/-- A text is one of characters, or it has first surrogates. -/
theorem characters_cases (t : LooseText) (position : Nat) :
    (∃ s : String, t = s ∧ t.characters position = .ok s) ∨
      (∀ s : String, t ≠ s) ∧ ∃ fault, t.characters position = .error fault ∧
        ∃ start, fault.start = position + start ∧ t.FirstSurrogates { fault with start := start } := by
  cases t with
  | text s => exact Or.inl ⟨s, rfl, rfl⟩
  | surrogate before half more =>
    obtain ⟨run, behind, hmore, hbehind, hlength⟩ := more.exists_leading
    refine Or.inr ⟨nofun, _, rfl, before.length, rfl, before.toList, half :: run, behind, ?_, hbehind,
      rfl, String.length_toList, congrArg (· + 1) hlength⟩
    show before.toList.map Sum.inl ++ .inr half :: more.codePoints = _
    rw [hmore]
    rfl

/-- What stands around a text of characters and surrogates only moves its first surrogates. -/
theorem FirstSurrogates.around (h : t.FirstSurrogates fault) (s : String) {u : LooseText}
    (hu : ∀ r, u.codePoints.head? ≠ some (.inr r)) :
    ((s : LooseText) ++ (t ++ u)).FirstSurrogates { fault with start := s.length + fault.start } := by
  obtain ⟨before, run, behind, ht, hbehind, hhalf, hstart, hlength⟩ := h
  refine ⟨s.toList ++ before, run, behind ++ u.codePoints, ?_, ?_, hhalf, ?_, hlength⟩
  · rw [codePoints_append, codePoints_append, ht, List.map_append]
    simp only [codePoints, List.append_assoc]
  · intro r
    cases behind with
    | nil => exact hu r
    | cons c behind => exact hbehind r
  · rw [List.length_append, String.length_toList, hstart]

end LooseText

/-! ### A module in the files -/

namespace NodeModule

/-- The file that a path names has this content at its place, and all else is as it was. -/
structure Replaces (files : FileTree) (path : LooseText) (content : Bytes) (after : FileTree)
    (name : FileName) (place : Place) : Prop where
  named : path.Names name.bytes
  accepts : files.Accepts name place
  opens : after.Opens name content
  entries : ∀ q, q ≠ place → after.find? q = files.find? q
  /-- A path to any other file leads to the bytes that it led to. -/
  others : ∀ other content',
    ¬ files.Walk (FileTree.route other).1 (FileTree.route other).2 place →
      (after.Opens other content' ↔ files.Opens other content')

/-- Every description is one, and the path names a file that can be written. -/
def Ready (directory base : LooseText) (specs : List String) (files : FileTree) : Prop :=
  (∀ spec ∈ specs, ∃ node, NodeSpec.parse spec = .ok node) ∧
    ∃ name place, (path directory base).Names (FileName.bytes name) ∧ files.Accepts name place

/-- What is wrong before a file is opened: a description, or else the path. -/
inductive Refuses (directory base : LooseText) (specs : List String) (files : FileTree) :
    WriteError → Prop
  | spec {cause : SpecError} (wrong : specs.mapM NodeSpec.parse = .error cause) :
      Refuses directory base specs files (.spec cause)
  | unnamed {nodes : List NodeSpec} {fault : EncodeFault}
      (right : specs.mapM NodeSpec.parse = .ok nodes)
      (unnamed : (path directory base).encodeName 0 = .error fault) :
      Refuses directory base specs files (.unencodable fault)
  | unopened {nodes : List NodeSpec} {name : FileName} {cause : OpenCause}
      (right : specs.mapM NodeSpec.parse = .ok nodes)
      (named : (path directory base).encodeName 0 = .ok name.bytes)
      (unopened : files.openToWrite name = .error cause) :
      Refuses directory base specs files (.unopened (path directory base) cause)

/-- A base that is no text of characters leaves an empty file where a module could be written.  What is
wrong are the first surrogates in the text of the module, which begins with three quotes and the base. -/
structure Empties (directory base : LooseText) (specs : List String) (files : FileTree) (e : WriteError)
    (after : FileTree) : Prop where
  loose : ∀ s : String, base ≠ s
  ready : Ready directory base specs files
  replaces : ∃ name place, Replaces files (path directory base) [] after name place
  fault : ∃ fault, e = .unencodable fault ∧ ∀ more : LooseText,
    ("\"\"\"" ++ (base ++ (" syntax tree nodes." ++ more))).FirstSurrogates fault

/-- A module is written where all is well, and else nothing changes, but that a base with a surrogate
leaves an empty file where a module could be written. -/
structure AllOrNothing (directory base : LooseText) (specs : List String) (files : FileTree)
    (result : Except WriteError LooseText × FileTree) : Prop where
  returns : (∃ p, result.1 = .ok p) ↔ (∃ s : String, base = s) ∧ Ready directory base specs files
  written : ∀ p, result.1 = .ok p → p = joinPath directory (base.lower ++ ".py") ∧
    ∃ s text : String, base = s ∧ ofSpecs s specs = .ok text ∧
      (∃ name place, Replaces files p (Utf8.encode text.toList) result.2 name place) ∧
      write directory base specs result.2 = (.ok p, result.2)
  /-- What goes wrong with a base of characters leaves the files as they were. -/
  unchanged : ∀ e, result.1 = .error e → (∃ s : String, base = s) → result.2 = files
  fails : ∀ e, result.1 = .error e →
    (Refuses directory base specs files e ∧ ¬ Ready directory base specs files ∧ result.2 = files) ∨
      Empties directory base specs files e result.2

variable {directory base : LooseText} {specs : List String} {files : FileTree}

theorem Refuses.not_ready {e : WriteError} (h : Refuses directory base specs files e) :
    ¬ Ready directory base specs files := by
  rintro ⟨hspecs, name, place, hnames, haccepts⟩
  have hname : (path directory base).encodeName 0 = .ok name.bytes :=
    LooseText.encodeName_eq_ok_iff.mpr hnames
  cases h with
  | spec wrong =>
    obtain ⟨nodes, hnodes⟩ := exists_mapM_iff.mpr hspecs
    cases wrong.symm.trans hnodes
  | unnamed right unnamed => cases unnamed.symm.trans hname
  | @unopened nodes other cause right named unopened =>
    obtain rfl : other = name := FileName.ext (Except.ok.inj (named.symm.trans hname))
    cases unopened.symm.trans haccepts.openToWrite

/-- All that a write can do: nothing, if something is wrong before its file is opened, or else write the
text, or leave the file empty. -/
inductive Ends (directory base : LooseText) (specs : List String) (files : FileTree) :
    Except WriteError LooseText × FileTree → Prop
  | refused {e : WriteError} (refuses : Refuses directory base specs files e) :
      Ends directory base specs files (.error e, files)
  | written {s : String} {nodes : List NodeSpec} {name : FileName} {place : Place} (text : base = s)
      (right : specs.mapM NodeSpec.parse = .ok nodes)
      (named : (path directory base).encodeName 0 = .ok name.bytes) (accepts : files.Accepts name place) :
      Ends directory base specs files
        (.ok (path directory base), files.put place (.file (Utf8.encode (render s nodes).toList)))
  | emptied {nodes : List NodeSpec} {name : FileName} {place : Place} {fault : EncodeFault} {start : Nat}
      (loose : ∀ s : String, base ≠ s) (right : specs.mapM NodeSpec.parse = .ok nodes)
      (named : (path directory base).encodeName 0 = .ok name.bytes) (accepts : files.Accepts name place)
      (behind : fault.start = 3 + start)
      (first : base.FirstSurrogates { fault with start := start }) :
      Ends directory base specs files (.error (.unencodable fault), files.put place (.file []))

/-- **A write does one of these.** -/
theorem write_ends (directory base : LooseText) (specs : List String) (files : FileTree) :
    Ends directory base specs files (write directory base specs files) := by
  unfold write
  cases right : specs.mapM NodeSpec.parse with
  | error cause => exact .refused (.spec right)
  | ok nodes =>
    dsimp only
    cases named : (path directory base).encodeName 0 with
    | error fault => exact .refused (.unnamed right named)
    | ok bytes =>
      have named : (path directory base).encodeName 0 = .ok (FileName.mk bytes).bytes := named
      dsimp only
      cases opened : files.openToWrite ⟨bytes⟩ with
      | error cause => exact .refused (.unopened right named opened)
      | ok opening =>
        obtain ⟨place, u⟩ := opening
        obtain ⟨accepts, rfl⟩ := FileTree.openToWrite_eq_ok_iff.mp opened
        unfold encoded
        rcases base.characters_cases 3 with ⟨s, text, hs⟩ | ⟨loose, fault, hfault, start, behind, first⟩
        · rw [hs]
          show Ends directory base specs files (.ok (path directory base), (files.put ..).put ..)
          rw [FileTree.put_put]
          exact .written text right named accepts
        · rw [hfault]
          exact .emptied loose right named accepts behind first

theorem replaces_put {content : Bytes} {name : FileName} {place : Place}
    (hname : (path directory base).encodeName 0 = .ok name.bytes) (h : files.Accepts name place) :
    Replaces files (path directory base) content (files.put place (.file content)) name place where
  named := LooseText.encodeName_eq_ok_iff.mp hname
  accepts := h
  opens := h.opens content
  entries := by
    intro q hq
    rw [FileTree.find?_put, if_neg hq]
  others := fun other content' hother => FileTree.opens_put_iff h.free hother

/-- A module that was written is written again as it was. -/
theorem write_again {s : String} {nodes : List NodeSpec} {name : FileName} {place : Place}
    (hspecs : specs.mapM NodeSpec.parse = .ok nodes)
    (hname : (path directory s).encodeName 0 = .ok name.bytes) (h : files.Accepts name place) :
    let written := files.put place (.file (Utf8.encode (render s nodes).toList))
    write directory s specs written = (.ok (path directory s), written) := by
  intro written
  unfold write
  rw [hspecs]
  dsimp only
  rw [hname]
  dsimp only
  rw [(h.again _).openToWrite]
  exact congrArg (_, ·) ((FileTree.put_put ..).trans (FileTree.put_put ..))

/-- The first surrogates of a module's text are those of its base, behind three quotes. -/
theorem firstSurrogates_text {fault : EncodeFault} {start : Nat} (hstart : fault.start = 3 + start)
    (h : base.FirstSurrogates { fault with start := start }) (more : LooseText) :
    ("\"\"\"" ++ (base ++ (" syntax tree nodes." ++ more))).FirstSurrogates fault := by
  have hspace : ∀ r, ((" syntax tree nodes." : LooseText) ++ more).codePoints.head? ≠ some (.inr r) := by
    intro r
    rw [LooseText.codePoints_append]
    exact nofun
  have haround := h.around "\"\"\"" hspace
  rwa [show ("\"\"\"" : String).length + start = fault.start from hstart.symm] at haround

/-- **A module is written whole, or nothing changes**, whatever is wrong with its descriptions or its path;
but a base with a surrogate that names a file leaves this file empty.  Without a directory to write to, or
with more than one, nothing is written. -/
theorem write_allOrNothing (directory base : LooseText) (specs : List String) (files : FileTree) :
    AllOrNothing directory base specs files (write directory base specs files) ∧
      ∀ arguments : List LooseText, arguments.length ≠ 1 →
        execute arguments files =
          (.ok (64, [(.errors, "Usage: generate_ast <output_dir>\n")]), files) := by
  constructor
  · have hready {nodes : List NodeSpec} {name : FileName} {place : Place}
        (right : specs.mapM NodeSpec.parse = .ok nodes)
        (named : (path directory base).encodeName 0 = .ok name.bytes)
        (accepts : files.Accepts name place) : Ready directory base specs files :=
      ⟨exists_mapM_iff.mp ⟨nodes, right⟩, name, place, LooseText.encodeName_eq_ok_iff.mp named, accepts⟩
    have hends := write_ends directory base specs files
    generalize write directory base specs files = result at hends ⊢
    cases hends with
    | refused refuses =>
      refine ⟨⟨nofun, fun h => absurd h.2 refuses.not_ready⟩, nofun, fun _ _ _ => rfl, ?_⟩
      rintro _ ⟨⟩
      exact Or.inl ⟨refuses, refuses.not_ready, rfl⟩
    | @written s nodes name place text right named accepts =>
      refine ⟨⟨fun _ => ⟨⟨s, text⟩, hready right named accepts⟩, fun _ => ⟨_, rfl⟩⟩, ?_, nofun, nofun⟩
      rintro _ ⟨⟩
      subst text
      refine ⟨rfl, s, render s nodes, rfl, ?_, ⟨name, place, replaces_put named accepts⟩,
        write_again right named accepts⟩
      unfold ofSpecs
      rw [right]
      rfl
    | @emptied nodes name place fault start loose right named accepts behind first =>
      have htext : ¬ ∃ s : String, base = s := by
        rintro ⟨s, hs⟩
        exact loose s hs
      refine ⟨⟨nofun, fun h => absurd h.1 htext⟩, nofun, fun _ _ h => absurd h htext, ?_⟩
      rintro _ ⟨⟩
      exact Or.inr ⟨loose, hready right named accepts, ⟨name, place, replaces_put named accepts⟩, fault,
        rfl, firstSurrogates_text behind first⟩
  · intro arguments hlength
    match arguments, hlength with
    | [], _ => rfl
    | _ :: _ :: _, _ => rfl

/-- A module that was written before is replaced, and with a wrong description behind a right one it is
not; and a base of one surrogate leaves a new file without content. -/
theorem write_allOrNothing_stale :
    let files : FileTree := ⟨[(["out"], .directory), (["out", "node.py"], .file [0x78]),
      (["a.lox"], .file [0x31])]⟩
    let half : LooseText := .surrogate "" ⟨0xDC80, by decide⟩ ""
    (∃ text u, write "out" "Node" ["Leaf : Any value"] files = (.ok ("out/node.py" : String), u) ∧
        ofSpecs "Node" ["Leaf : Any value"] = .ok text ∧
        u.Opens "out/node.py" (Utf8.encode text.toList) ∧
        u.find? ["a.lox"] = some (.file [0x31])) ∧
      (write "out" "Node" ["Leaf : Any value", "Leaf"] files).2 = files ∧
      (∃ name : FileName, name.bytes = [0x80, 0x2E, 0x70, 0x79] ∧
        (write "" half ["Leaf : Any value"] files).2.Opens name []) ∧
      ([] : List LooseText).length ≠ 1 ∧
      execute [] files = (.ok (64, [(.errors, "Usage: generate_ast <output_dir>\n")]), files) := by
  intro files half
  have hparse : ∀ spec ∈ ["Leaf : Any value"], ∃ node, NodeSpec.parse spec = .ok node := by
    intro spec hspec
    rw [List.mem_singleton.mp hspec]
    exact ⟨⟨"Leaf", [⟨"Any", "value"⟩]⟩, by decide⟩
  obtain ⟨hone, husage⟩ := write_allOrNothing "out" "Node" ["Leaf : Any value"] files
  obtain ⟨htwo, -⟩ := write_allOrNothing "out" "Node" ["Leaf : Any value", "Leaf"] files
  obtain ⟨hthree, -⟩ := write_allOrNothing "" half ["Leaf : Any value"] files
  refine ⟨?_, ?_, ?_, by decide, husage [] (by decide)⟩
  · have hname : (path "out" "Node").encodeName 0 = .ok (FileName.bytes "out/node.py") := by decide
    have hpath : path "out" "Node" = ("out/node.py" : String) := by decide
    have haccepts : files.Accepts "out/node.py" ["out", "node.py"] :=
      FileTree.accepts_iff.mpr (by decide)
    have hnamed := LooseText.encodeName_eq_ok_iff.mp hname
    generalize write "out" "Node" ["Leaf : Any value"] files = result at hone ⊢
    obtain ⟨p, hp⟩ := hone.returns.mpr ⟨⟨"Node", rfl⟩, hparse, _, _, hnamed, haccepts⟩
    obtain ⟨rfl, s, text, hs, htext, ⟨name, place, hreplaces⟩, -⟩ := hone.written p hp
    obtain rfl : "Node" = s := LooseText.text.inj hs
    obtain rfl : name = "out/node.py" := FileName.ext (Except.ok.inj
      ((LooseText.encodeName_eq_ok_iff.mpr hreplaces.named).symm.trans hname))
    have hplace : (["a.lox"] : Place) ≠ place := by
      rintro rfl
      have hlocate := (FileTree.accepts_iff.mp hreplaces.accepts).1
      rw [(FileTree.accepts_iff.mp haccepts).1] at hlocate
      exact absurd (Except.ok.inj hlocate) (by decide)
    refine ⟨text, result.2, Prod.ext (hp.trans (congrArg Except.ok hpath)) rfl, htext,
      hreplaces.opens, ?_⟩
    rw [hreplaces.entries _ hplace]
    rfl
  · exact htwo.unchanged (.spec (.shape "Leaf")) (by decide) ⟨"Node", rfl⟩
  · have hname : (path "" half).encodeName 0 = .ok [0x80, 0x2E, 0x70, 0x79] := by decide
    have haccepts : files.Accepts ⟨[0x80, 0x2E, 0x70, 0x79]⟩ [⟨[0x80, 0x2E, 0x70, 0x79]⟩] :=
      FileTree.accepts_iff.mpr (by decide)
    have hready : Ready "" half ["Leaf : Any value"] files :=
      ⟨hparse, _, _, LooseText.encodeName_eq_ok_iff.mp hname, haccepts⟩
    obtain ⟨-, hnot, -⟩ | hempties := hthree.fails (.unencodable ⟨⟨0xDC80, by decide⟩, 3, 1⟩) (by decide)
    · exact absurd hready hnot
    · obtain ⟨name, place, hreplaces⟩ := hempties.replaces
      have hbytes := (LooseText.encodeName_eq_ok_iff.mpr hreplaces.named).symm.trans hname
      exact ⟨name, Except.ok.inj hbytes, hreplaces.opens⟩

/-- A file is lost to a base with a surrogate: its directory has a name of one byte, and the file is left
without content although nothing is written. -/
theorem write_empties :
    let base : LooseText := .surrogate "" ⟨0xDC80, by decide⟩ "/../x"
    let files : FileTree := ⟨[([⟨[0x80]⟩], .directory), (["x.py"], .file [0x6F, 0x6C, 0x64])]⟩
    let result := write "" base ["Leaf : Any value"] files
    result.1 = .error (.unencodable ⟨⟨0xDC80, by decide⟩, 3, 1⟩) ∧
      files.find? ["x.py"] = some (.file [0x6F, 0x6C, 0x64]) ∧
      result.2.find? ["x.py"] = some (.file []) := by
  decide

end NodeModule

end LoxLex
