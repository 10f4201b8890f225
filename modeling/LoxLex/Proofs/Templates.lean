import LoxLex.Proofs.Blocks
import LoxLex.Proofs.Names

/-!
# LoxLex.Proofs.Templates — lines with places for names

A template is a line with places for names in it.  Filling it writes the names to these places, and
reading takes a line apart into names again.  A name is read as far as its characters go, so this finds
the names if the text behind a place is not such that it could go on with one (`Parted`); templates come
with the proof that it is not.

* `Template.read_fill`, `Template.read_exact`: the names that fill a template are read again, and from
  no other line.
* `Template.notMem_fill`, `Template.solid_fill`: what is in a filled template.
-/

namespace LoxLex

open Unicode

/-- Characters of names only. -/
def NameText (s : String) : Prop := ∀ c ∈ s.toList, isNameChar c = true

theorem NameText.notMem {c : Char} (hc : isNameChar c = false) {s : String} (h : NameText s) :
    c ∉ s.toList := by
  intro hmem
  rw [h c hmem] at hc
  cases hc

instance (p : Char → Bool) : (rest : List Char) → Decidable (Stops (p · = true) rest)
  | [] => .isTrue Stops.nil
  | _ :: _ => decidable_of_iff _ Stops.cons_iff.symm

/-- No text behind a place goes on with the name there; only the last may be empty. -/
def Parted : List String → Prop
  | [] => True
  | [text] => Stops (isNameChar · = true) text.toList
  | text :: next :: behind =>
    text ≠ "" ∧ Stops (isNameChar · = true) text.toList ∧ Parted (next :: behind)

instance decidableParted : (behind : List String) → Decidable (Parted behind)
  | [] => .isTrue trivial
  | [text] => inferInstanceAs (Decidable (Stops (isNameChar · = true) text.toList))
  | _ :: next :: behind =>
    have := decidableParted (next :: behind)
    inferInstanceAs (Decidable (_ ∧ _ ∧ _))

/-- A line with places for names: the text before the first place, and the text behind each. -/
structure Template where
  start : String
  behind : List String
  solid : SolidLine start := by decide
  unbroken : ∀ text ∈ behind, '\n' ∉ text.toList := by decide
  parted : Parted behind := by decide

namespace Template

/-- The line with names in its places. -/
def fill (t : Template) (names : List String) : String :=
  t.start ++ String.join (List.zipWith (· ++ ·) names t.behind)

/-- The names before texts that are given. -/
def readNames : List String → List Char → Option (List String)
  | [], [] => some []
  | [], _ :: _ => none
  | text :: behind, cs =>
    match text.toList.isPrefixOf? (cs.dropWhile isNameChar) with
    | some rest => (readNames behind rest).map (String.ofList (cs.takeWhile isNameChar) :: ·)
    | none => none

/-- The names that a line has in the places. -/
def read (t : Template) (line : String) : Option (List String) :=
  match t.start.toList.isPrefixOf? line.toList with
  | some rest => readNames t.behind rest
  | none => none

variable {t : Template} {text : String} {behind names : List String} {rest : List Char}

/-! ### Reading what was filled -/

theorem isPrefixOf?_append (u v : List Char) : u.isPrefixOf? (u ++ v) = some v :=
  List.isPrefixOf?_eq_some_iff_append_eq.mpr rfl

/-- A name is read up to the text behind it. -/
theorem readNames_cons {name : String} (hname : NameText name)
    (hstop : Stops (isNameChar · = true) (text.toList ++ rest)) :
    readNames (text :: behind) (name.toList ++ (text.toList ++ rest)) =
      (readNames behind rest).map (name :: ·) := by
  rw [readNames, hstop.dropWhile_append hname, hstop.takeWhile_append hname, isPrefixOf?_append,
    String.ofList_toList]

theorem readNames_fill (hparted : Parted behind) (hnames : ∀ name ∈ names, NameText name)
    (hlength : names.length = behind.length) :
    readNames behind (String.join (List.zipWith (· ++ ·) names behind)).toList = some names := by
  induction behind generalizing names with
  | nil =>
    obtain rfl := List.length_eq_zero_iff.mp hlength
    rfl
  | cons text behind ih =>
    obtain ⟨name, names, rfl⟩ := List.exists_cons_of_length_eq_add_one hlength
    obtain ⟨hname, hnames⟩ := List.forall_mem_cons.mp hnames
    have hlength : names.length = behind.length := by simpa using hlength
    rw [List.zipWith_cons_cons, String.join_cons, String.toList_append, String.toList_append,
      List.append_assoc]
    cases behind with
    | nil =>
      obtain rfl := List.length_eq_zero_iff.mp hlength
      have hstop : Stops (isNameChar · = true) (text.toList ++ []) := by simpa [Parted] using hparted
      exact readNames_cons hname hstop
    | cons next behind =>
      obtain ⟨hne, hstop, hparted⟩ := hparted
      have hne : text.toList ≠ [] := by simpa using hne
      rw [readNames_cons hname (hstop.append hne _), ih hparted hnames hlength]
      rfl

/-- **The names are read again.** -/
theorem read_fill (hnames : ∀ name ∈ names, NameText name)
    (hlength : names.length = t.behind.length) : t.read (t.fill names) = some names := by
  unfold read fill
  rw [String.toList_append, isPrefixOf?_append]
  exact readNames_fill t.parted hnames hlength

/-! ### Reading nothing else -/

theorem readNames_exact {cs : List Char} (h : readNames behind cs = some names) :
    cs = (String.join (List.zipWith (· ++ ·) names behind)).toList ∧ names.length = behind.length ∧
      ∀ name ∈ names, NameText name := by
  induction behind generalizing cs names with
  | nil =>
    cases cs with
    | nil =>
      obtain rfl := Option.some.inj h
      simp
    | cons c cs => cases h
  | cons text behind ih =>
    unfold readNames at h
    split at h
    · next rest hrest =>
      obtain ⟨more, hmore, rfl⟩ := Option.map_eq_some_iff.mp h
      obtain ⟨htext, hlength, hnames⟩ := ih hmore
      refine ⟨?_, by simp [hlength], List.forall_mem_cons.mpr ⟨?_, hnames⟩⟩
      · rw [List.zipWith_cons_cons, String.join_cons, String.toList_append, String.toList_append,
          String.toList_ofList, ← htext, List.append_assoc,
          List.isPrefixOf?_eq_some_iff_append_eq.mp hrest, List.takeWhile_append_dropWhile]
      · intro c hc
        rw [String.toList_ofList] at hc
        exact List.mem_takeWhile_imp hc
    · cases h

/-- **Nothing else is read.** -/
theorem read_exact {line : String} (h : t.read line = some names) :
    line = t.fill names ∧ names.length = t.behind.length ∧ ∀ name ∈ names, NameText name := by
  unfold read at h
  split at h
  · next rest hrest =>
    obtain ⟨htext, hnames⟩ := readNames_exact h
    refine ⟨?_, hnames⟩
    rw [← String.toList_inj, fill, String.toList_append, ← htext,
      List.isPrefixOf?_eq_some_iff_append_eq.mp hrest]
  · cases h

/-! ### Filled templates as lines -/

/-- Filling adds nothing but characters of names. -/
theorem notMem_fill {c : Char} (hc : isNameChar c = false) (hstart : c ∉ t.start.toList)
    (hbehind : ∀ text ∈ t.behind, c ∉ text.toList) (hnames : ∀ name ∈ names, NameText name) :
    c ∉ (t.fill names).toList := by
  unfold fill
  rw [String.toList_append, String.toList_join, List.mem_append, List.mem_flatMap]
  rintro (hmem | ⟨part, hpart, hmem⟩)
  · exact hstart hmem
  · rw [← List.map_uncurry_zip_eq_zipWith] at hpart
    obtain ⟨⟨name, text⟩, hplace, rfl⟩ := List.mem_map.mp hpart
    obtain ⟨hname, htext⟩ := List.of_mem_zip hplace
    rw [Function.uncurry_apply_pair, String.toList_append] at hmem
    rcases List.mem_append.mp hmem with hmem | hmem
    · exact (hnames name hname).notMem hc hmem
    · exact hbehind text htext hmem

theorem solid_fill (hnames : ∀ name ∈ names, NameText name) : SolidLine (t.fill names) := by
  refine ⟨?_, notMem_fill (by decide) t.solid.2 t.unbroken hnames⟩
  unfold fill
  simp [t.solid.1]

end Template

end LoxLex
