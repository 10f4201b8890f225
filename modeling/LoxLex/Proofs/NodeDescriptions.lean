import LoxLex.NodeModule.Spec
import LoxLex.Proofs.Names

/-!
# LoxLex.Proofs.NodeDescriptions — which texts describe nodes

`NodeSpec.Describes text node` is the grammar of descriptions: a name, a colon, and fields with commas
between them, each a type and a name.  White space may stand around every part, and has to stand between
the type and the name of a field; all names are identifiers.  Reading a description counts separators,
trims and splits, and knows no grammar.

* `Field.parse_eq_ok_iff`: a field is read just from the texts that describe it.
* `NodeSpec.parse_describes`: so is a node, and every other text is refused.
-/

namespace LoxLex

open Split Unicode

/-- A text that describes a field. -/
inductive Field.Describes : List Char → Field → Prop
  | intro {lead gap trail typeName name : List Char} (hlead : Blank lead)
      (htype : isIdentifier typeName = true) (hgap : Blank gap) (apart : gap ≠ [])
      (hname : isIdentifier name = true) (htrail : Blank trail) :
      Describes (lead ++ (typeName ++ (gap ++ (name ++ trail))))
        ⟨String.ofList typeName, String.ofList name⟩

/-- A text that describes a node.  It has a field at least. -/
inductive NodeSpec.Describes : List Char → NodeSpec → Prop
  | intro {lead trail name : List Char} {texts : List (List Char)} {fields : List Field}
      (hlead : Blank lead) (hname : isIdentifier name = true) (htrail : Blank trail)
      (nonempty : texts ≠ []) (hfields : List.Forall₂ Field.Describes texts fields) :
      Describes (lead ++ (name ++ trail) ++ ':' :: [','].intercalate texts)
        ⟨String.ofList name, fields⟩

/-! ### One reading after the other -/

section MapM

variable {α β ε : Type} {f : α → Except ε β}

theorem mapM_cons_of_ok {x : α} {y : β} (h : f x = .ok y) (xs : List α) :
    (x :: xs).mapM f = (xs.mapM f).map (y :: ·) := by
  rw [List.mapM_cons, h]
  cases xs.mapM f <;> simp [bind, Except.bind, Except.map, pure, Except.pure]

theorem mapM_cons_of_error {x : α} {e : ε} (h : f x = .error e) (xs : List α) :
    (x :: xs).mapM f = .error e := by
  rw [List.mapM_cons, h]
  rfl

/-- All are read if each is. -/
theorem mapM_eq_ok_iff {xs : List α} {ys : List β} :
    xs.mapM f = .ok ys ↔ List.Forall₂ (fun x y => f x = .ok y) xs ys := by
  induction xs generalizing ys with
  | nil =>
    rw [List.forall₂_nil_left_iff, List.mapM_nil]
    constructor
    · intro h
      exact (Except.ok.inj h).symm
    · rintro rfl
      rfl
  | cons x xs ih =>
    rw [List.forall₂_cons_left_iff]
    cases hx : f x with
    | error e => simp [mapM_cons_of_error hx]
    | ok y =>
      rw [mapM_cons_of_ok hx]
      constructor
      · intro h
        cases hxs : xs.mapM f with
        | error e =>
          rw [hxs] at h
          cases h
        | ok zs =>
          rw [hxs] at h
          exact ⟨y, zs, rfl, ih.mp hxs, (Except.ok.inj h).symm⟩
      · rintro ⟨z, zs, hz, hzs, rfl⟩
        rw [ih.mpr hzs, Except.ok.inj hz]
        rfl

/-- The first that is refused decides. -/
theorem mapM_eq_error {before after : List α} {x : α} {e : ε}
    (hbefore : ∀ y ∈ before, ∃ z, f y = .ok z) (h : f x = .error e) :
    (before ++ x :: after).mapM f = .error e := by
  induction before with
  | nil => exact mapM_cons_of_error h after
  | cons y before ih =>
    obtain ⟨⟨z, hz⟩, hbefore⟩ := List.forall_mem_cons.mp hbefore
    rw [List.cons_append, mapM_cons_of_ok hz, ih hbefore]
    rfl

/-- All are read together if each can be. -/
theorem exists_mapM_iff {xs : List α} :
    (∃ ys, xs.mapM f = .ok ys) ↔ ∀ x ∈ xs, ∃ y, f x = .ok y := by
  simp only [mapM_eq_ok_iff]
  induction xs with
  | nil => simp
  | cons x xs ih =>
    rw [List.forall_mem_cons, ← ih]
    constructor
    · rintro ⟨ys, hys⟩
      obtain ⟨y, zs, hy, hzs, -⟩ := List.forall₂_cons_left_iff.mp hys
      exact ⟨⟨y, hy⟩, zs, hzs⟩
    · rintro ⟨⟨y, hy⟩, ys, hys⟩
      exact ⟨y :: ys, .cons hy hys⟩

end MapM

/-! ### Fields -/

/-- **A field is read just from the texts that describe it.** -/
theorem Field.parse_eq_ok_iff {node : String} {cs : List Char} {f : Field} :
    Field.parse node cs = .ok f ↔ Field.Describes cs f := by
  constructor
  · intro h
    unfold Field.parse at h
    split at h
    · next typeName name hwords =>
      split at h
      · next hnames =>
        rw [Bool.and_eq_true] at hnames
        obtain ⟨lead, gap, trail, rfl, hlead, hgap, apart, htrail, -⟩ := words_eq_pair_iff.mp hwords
        obtain rfl := Except.ok.inj h
        exact .intro hlead hnames.1 hgap apart hnames.2 htrail
      · cases h
    · cases h
  · rintro ⟨hlead, htype, hgap, apart, hname, htrail⟩
    unfold Field.parse
    rw [words_eq_pair_iff.mpr ⟨_, _, _, rfl, hlead, hgap, apart, htrail, word_of_isIdentifier htype,
      word_of_isIdentifier hname⟩]
    simp [htype, hname]

theorem notMem_of_blank {c : Char} (hc : isBlank c = false) {w : List Char} (h : Blank w) : c ∉ w := by
  intro hmem
  rw [h c hmem] at hc
  cases hc

theorem notMem_of_isIdentifier {c : Char} (hc : isNameChar c = false) {w : List Char}
    (h : isIdentifier w = true) : c ∉ w := by
  intro hmem
  rw [isNameChar_of_isIdentifier h c hmem] at hc
  cases hc

/-- What is neither white space nor of a name is not in the text of a field. -/
theorem Field.Describes.notMem {c : Char} (hblank : isBlank c = false) (hname : isNameChar c = false)
    {cs : List Char} {f : Field} (h : Field.Describes cs f) : c ∉ cs := by
  obtain ⟨hlead, htype, hgap, -, hn, htrail⟩ := h
  simp only [List.mem_append, not_or]
  exact ⟨notMem_of_blank hblank hlead, notMem_of_isIdentifier hname htype,
    notMem_of_blank hblank hgap, notMem_of_isIdentifier hname hn, notMem_of_blank hblank htrail⟩

/-! ### Nodes -/

theorem intercalate_pair (sep : Char) (v w : List Char) :
    [sep].intercalate [v, w] = v ++ sep :: w := by
  rw [List.intercalate_cons_cons, List.intercalate_singleton, List.append_assoc]
  rfl

/-- A description has one colon, and commas stand nowhere but between its fields. -/
theorem NodeSpec.pieces_description {lead trail name : List Char} {texts : List (List Char)}
    {fields : List Field} (hlead : Blank lead) (hname : isIdentifier name = true)
    (htrail : Blank trail) (hne : texts ≠ []) (hfields : List.Forall₂ Field.Describes texts fields) :
    pieces ':' (lead ++ (name ++ trail) ++ ':' :: [','].intercalate texts) =
        [lead ++ (name ++ trail), [','].intercalate texts] ∧
      pieces ',' ([','].intercalate texts) = texts := by
  have hfree : ∀ c, isBlank c = false → isNameChar c = false → ∀ text ∈ texts, c ∉ text := by
    intro c hblank hchar
    clear hne
    induction hfields with
    | nil => simp
    | cons hf _ ih => exact List.forall_mem_cons.mpr ⟨hf.notMem hblank hchar, ih⟩
  constructor
  · rw [pieces_eq_iff, intercalate_pair]
    refine ⟨by simp, ?_, rfl⟩
    simp only [List.forall_mem_cons, List.not_mem_nil, false_implies, implies_true, and_true]
    constructor
    · simp only [List.mem_append, not_or]
      exact ⟨notMem_of_blank (by decide) hlead, notMem_of_isIdentifier (by decide) hname,
        notMem_of_blank (by decide) htrail⟩
    · intro hmem
      rcases mem_intercalate hmem with hmem | ⟨text, htext, hmem⟩
      · cases hmem
      · exact hfree ':' (by decide) (by decide) text htext hmem
  · exact pieces_eq_iff.mpr ⟨hne, hfree ',' (by decide) (by decide), rfl⟩

theorem NodeSpec.parse_eq_ok_iff {spec : String} {node : NodeSpec} :
    NodeSpec.parse spec = .ok node ↔ NodeSpec.Describes spec.toList node := by
  constructor
  · intro h
    unfold NodeSpec.parse at h
    split at h
    · next nodePart fieldPart hpieces =>
      obtain ⟨-, -, hspec⟩ := pieces_eq_iff.mp hpieces
      rw [intercalate_pair] at hspec
      dsimp only at h
      split at h
      · next hname =>
        cases hfields : (pieces ',' fieldPart).mapM (Field.parse (String.ofList (trim nodePart))) with
        | error e =>
          rw [hfields] at h
          cases h
        | ok fields =>
          rw [hfields] at h
          obtain rfl := Except.ok.inj h
          obtain ⟨hne, -, htexts⟩ := pieces_eq_iff.mp (rfl : pieces ',' fieldPart = _)
          obtain ⟨lead, trail, hpart, hlead, htrail⟩ := exists_trim nodePart
          have hdescribes : List.Forall₂ Field.Describes (pieces ',' fieldPart) fields :=
            (mapM_eq_ok_iff.mp hfields).imp fun _ _ hf => Field.parse_eq_ok_iff.mp hf
          have hnode := NodeSpec.Describes.intro hlead hname htrail hne hdescribes
          rw [← hpart, ← htexts, ← hspec] at hnode
          exact hnode
      · cases h
    · cases h
  · intro h
    generalize hcs : spec.toList = cs at h
    obtain ⟨hlead, hname, htrail, hne, hfields⟩ := h
    obtain ⟨hpieces, htexts⟩ := pieces_description hlead hname htrail hne hfields
    have htrim := (trim_eq_iff (word_of_isIdentifier hname)).mpr ⟨_, _, rfl, hlead, htrail⟩
    have hparsed : ∀ node : String, List.Forall₂ (fun cs f => Field.parse node cs = .ok f) _ _ :=
      fun node => hfields.imp fun _ _ hf => Field.parse_eq_ok_iff.mpr hf
    unfold NodeSpec.parse
    rw [hcs, hpieces]
    simp only [htrim, hname, htexts, mapM_eq_ok_iff.mpr (hparsed _)]
    rfl

/-- **A node is read just from the texts that describe it**, as the node that they describe, and every
other text is refused. -/
theorem NodeSpec.parse_describes (spec : String) :
    (∀ node, NodeSpec.parse spec = .ok node ↔ NodeSpec.Describes spec.toList node) ∧
      ((∃ e, NodeSpec.parse spec = .error e) ↔ ∀ node, ¬ NodeSpec.Describes spec.toList node) := by
  refine ⟨fun node => NodeSpec.parse_eq_ok_iff, ?_⟩
  simp only [← NodeSpec.parse_eq_ok_iff]
  cases NodeSpec.parse spec with
  | error e => simp
  | ok node => simp

end LoxLex
