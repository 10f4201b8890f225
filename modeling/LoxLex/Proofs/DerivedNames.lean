import LoxLex.NodeModule.Write
import LoxLex.Proofs.Dispatch

/-!
# LoxLex.Proofs.DerivedNames — names that are made of names

The generator makes new names from the names of the nodes and of the base: the methods of the visitor,
their parameter, and the file.  All of them are in lower case, and lower case has to lead from identifiers
to identifiers.  It maps whole runs of code points, and each run lies inside one range of the identifier
table after the mapping, or had nothing to do with the table before (`Ranges.KeepsRun`).

* `Unicode.isIdentifier_lower`: the lower case of an identifier is an identifier.
* `NodeModule.isIdentifier_derived`: so is every name that the generator derives.
-/

namespace LoxLex

namespace Unicode

/-! ### Ranges and runs -/

/-- Does one range hold every code point from `a` to `b`? -/
def Ranges.covers : Ranges → ℕ → ℕ → Bool
  | [], _, _ => false
  | (first, last) :: rest, a, b =>
    if a ≤ last then decide (first ≤ a ∧ b ≤ last) else Ranges.covers rest a b

theorem Ranges.contains_of_covers {rs : Ranges} {a b n : ℕ} (h : rs.covers a b = true) (ha : a ≤ n)
    (hb : n ≤ b) : rs.contains n = true := by
  induction rs with
  | nil => cases h
  | cons r rest ih =>
    obtain ⟨first, last⟩ := r
    rw [contains_cons]
    unfold covers at h
    split at h
    · have hin := of_decide_eq_true h
      rw [if_pos (by omega)]
      exact decide_eq_true (by omega)
    · rw [if_neg (by omega)]
      exact ih h

/-- The ranges that end below `a` make no difference to what lies above. -/
theorem Ranges.contains_dropWhile (rs : Ranges) {a n : ℕ} (h : a ≤ n) :
    Ranges.contains (rs.dropWhile (·.2 < a)) n = rs.contains n := by
  induction rs with
  | nil => rfl
  | cons r rest ih =>
    rw [List.dropWhile_cons]
    split
    · next hr =>
      have hlast := of_decide_eq_true hr
      rw [ih, contains_cons, if_neg (by omega)]
    · rfl

/-- Does each range lie inside one of the others?  Both lists rise, so they are walked along together. -/
def Ranges.within : Ranges → Ranges → Bool
  | [], _ => true
  | (a, b) :: qs, rs =>
    match rs.dropWhile (·.2 < a) with
    | [] => false
    | (first, last) :: rest =>
      decide (a ≤ b ∧ first ≤ a ∧ b ≤ last) && Ranges.within qs ((first, last) :: rest)

theorem Ranges.contains_of_within {qs rs : Ranges} (h : qs.within rs = true) {n : ℕ}
    (hn : qs.contains n = true) : rs.contains n = true := by
  induction qs generalizing rs with
  | nil => cases hn
  | cons q qs ih =>
    obtain ⟨a, b⟩ := q
    unfold within at h
    split at h
    · cases h
    next first last rest hdrop =>
    rw [Bool.and_eq_true, decide_eq_true_eq] at h
    obtain ⟨hin, hrest⟩ := h
    rw [contains_cons] at hn
    split at hn
    · have ha : a ≤ n := of_decide_eq_true hn
      rw [← rs.contains_dropWhile ha, hdrop, contains_cons, if_pos (by omega)]
      exact decide_eq_true (by omega)
    · rw [← rs.contains_dropWhile (by omega : a ≤ n), hdrop]
      exact ih hrest hn

/-- The code points of a run are mapped into one of the ranges, or none of them is in the ranges. -/
def Ranges.KeepsRun (rs : Ranges) (r : CaseRun) : Prop :=
  rs.covers (r.first + r.shift).toNat (r.last + r.shift).toNat = true ∨
    ∀ q ∈ rs, r.last < q.1 ∨ q.2 < r.first

instance (rs : Ranges) (r : CaseRun) : Decidable (rs.KeepsRun r) :=
  inferInstanceAs (Decidable (_ ∨ _))

theorem Ranges.KeepsRun.contains_image {rs : Ranges} {r : CaseRun} {n m : ℕ} (h : rs.KeepsRun r)
    (hn : rs.contains n = true) (himage : r.image? n = some m) : rs.contains m = true := by
  unfold CaseRun.image? at himage
  split at himage
  · next hrun =>
    obtain rfl : ((n : ℤ) + r.shift).toNat = m := Option.some.inj himage
    rcases h with hcovers | hapart
    · exact contains_of_covers hcovers (by omega) (by omega)
    · obtain ⟨q, hq, hfirst, hlast⟩ := exists_of_contains hn
      rcases hapart q hq with hlow | hhigh <;> omega
  · cases himage

/-- A set of characters that lower case stays in. -/
structure Ranges.Lowers (rs : Ranges) : Prop where
  valid : ∀ q ∈ rs, q.2 < 0xD800 ∨ (0xE000 ≤ q.1 ∧ q.2 < 0x110000)
  runs : ∀ r ∈ lowerRuns, rs.KeepsRun r

theorem lowers_identifierStart : identifierStartRanges.Lowers where
  valid := by decide +kernel
  runs := by decide +kernel

theorem lowers_identifierContinue : identifierContinueRanges.Lowers where
  valid := by decide +kernel
  runs := by decide +kernel

theorem Ranges.Lowers.toNat_ofNat {rs : Ranges} (h : rs.Lowers) {n : ℕ} (hn : rs.contains n = true) :
    (Char.ofNat n).toNat = n := by
  obtain ⟨q, hq, hfirst, hlast⟩ := exists_of_contains hn
  refine Utf8.toNat_ofNat ?_
  unfold Nat.isValidChar
  rcases h.valid q hq with hlow | hhigh <;> omega

/-- The dotted capital I is the one character that becomes two; every other stays one character of the
set. -/
theorem Ranges.Lowers.lowerChar_eq_or {rs : Ranges} (h : rs.Lowers) {c : Char}
    (hc : rs.contains c.toNat = true) :
    lowerChar c = ['i', '\u0307'] ∨ ∃ d, lowerChar c = [d] ∧ rs.contains d.toNat = true := by
  have table : ∀ x ∈ lowerExpansions, x.2.map Char.ofNat = ['i', '\u0307'] := by decide
  rcases lowerChar_cases c with ⟨image, hmem, himage⟩ | ⟨r, hr, n, hn, himage⟩ | himage
  · exact Or.inl (himage.trans (table _ hmem))
  · have hin := (h.runs r hr).contains_image hc hn
    exact Or.inr ⟨Char.ofNat n, himage, by rwa [h.toNat_ofNat hin]⟩
  · exact Or.inr ⟨c, himage, hc⟩

/-! ### The lower case of an identifier -/

theorem isIdentifier_append {v w : List Char} (hv : isIdentifier v = true)
    (hw : ∀ c ∈ w, isIdentifierContinue c = true) : isIdentifier (v ++ w) = true := by
  cases v with
  | nil => cases hv
  | cons c v =>
    unfold isIdentifier at hv
    rw [Bool.and_eq_true] at hv
    rw [List.cons_append, isIdentifier, hv.1, List.all_append, hv.2, List.all_eq_true.mpr hw]
    rfl

/-- What may start a name may also go on with one. -/
theorem isIdentifierContinue_of_start {c : Char} (h : isIdentifierStart c = true) :
    isIdentifierContinue c = true := by
  have table : identifierStartRanges.within identifierContinueRanges = true := by decide +kernel
  unfold isIdentifierStart at h
  rcases Bool.or_eq_true_iff.mp h with h | h
  · rw [beq_iff_eq.mp h]
    decide
  · exact Ranges.contains_of_within table h

theorem isIdentifierContinue_of_isIdentifier {w : List Char} (h : isIdentifier w = true) :
    ∀ c ∈ w, isIdentifierContinue c = true :=
  forall_mem_of_isIdentifier (fun _ => isIdentifierContinue_of_start) (fun _ hc => hc) h

theorem isIdentifier_lowerChar {c : Char} (h : isIdentifierStart c = true) :
    isIdentifier (lowerChar c) = true := by
  unfold isIdentifierStart at h
  rcases Bool.or_eq_true_iff.mp h with h | h
  · rw [beq_iff_eq.mp h]
    decide
  · rcases lowers_identifierStart.lowerChar_eq_or h with hc | ⟨d, hc, hd⟩
    · rw [hc]
      decide
    · rw [hc]
      simp [isIdentifier, isIdentifierStart, hd]

theorem isIdentifierContinue_lowerChar {c : Char} (h : isIdentifierContinue c = true) :
    ∀ d ∈ lowerChar c, isIdentifierContinue d = true := by
  rcases lowers_identifierContinue.lowerChar_eq_or h with hc | ⟨d, hc, hd⟩
  · rw [hc]
    exact forall_mem_of_all (by decide)
  · rw [hc]
    exact List.forall_mem_singleton.mpr hd

/-- What the first character becomes, a capital sigma in either form included. -/
theorem exists_lowerFrom_cons (before : List Char) {c : Char} (h : isIdentifierStart c = true)
    (cs : List Char) : ∃ image, lowerFrom before (c :: cs) = image ++ lowerFrom (c :: before) cs ∧
      isIdentifier image = true := by
  refine ⟨_, rfl, ?_⟩
  split
  · split <;> decide
  · exact isIdentifier_lowerChar h

/-- **The lower case of an identifier is an identifier.** -/
theorem isIdentifier_lower {s : String} (h : isIdentifier s.toList = true) :
    isIdentifier (lower s).toList = true := by
  unfold lower
  rw [String.toList_ofList]
  cases hs : s.toList with
  | nil =>
    rw [hs] at h
    cases h
  | cons c cs =>
    rw [hs, isIdentifier, Bool.and_eq_true, List.all_eq_true] at h
    obtain ⟨image, himage, hstart⟩ := exists_lowerFrom_cons [] h.1 cs
    rw [himage]
    refine isIdentifier_append hstart ?_
    exact forall_mem_lowerFrom ⟨by decide, by decide⟩ (fun _ => isIdentifierContinue_lowerChar) h.2 [c]

end Unicode

/-! ### The names of a module -/

open Unicode

/-- The names that an outline declares or calls, but for those that were given, are identifiers. -/
structure Outline.Identifiers (o : Outline) : Prop where
  methods : ∀ m ∈ o.methods, isIdentifier m.name.toList = true
  parameters : ∀ m ∈ o.methods, isIdentifier m.parameter.toList = true
  calls : ∀ c ∈ o.classes, isIdentifier c.calls.toList = true

namespace NodeModule

variable {base node : String} {nodes : List NodeSpec}

theorem isIdentifier_methodName (hnode : isIdentifier node.toList = true)
    (hbase : isIdentifier base.toList = true) :
    isIdentifier (methodName node base).toList = true := by
  have hvisit : isIdentifier "visit_".toList = true := by decide
  have hbetween : ∀ c ∈ "_".toList, isIdentifierContinue c = true := forall_mem_of_all (by decide)
  unfold methodName
  rw [String.toList_append, String.toList_append, String.toList_append]
  refine isIdentifier_append (isIdentifier_append (isIdentifier_append hvisit ?_) hbetween) ?_
  · exact isIdentifierContinue_of_isIdentifier (isIdentifier_lower hnode)
  · exact isIdentifierContinue_of_isIdentifier (isIdentifier_lower hbase)

theorem identifiers_outline (hbase : isIdentifier base.toList = true)
    (hnodes : ∀ node ∈ nodes, isIdentifier node.name.toList = true) :
    (outline base nodes).Identifiers where
  methods := List.forall_mem_map.mpr fun node hnode =>
    isIdentifier_methodName (hnodes node hnode) hbase
  parameters := List.forall_mem_map.mpr fun _ _ => isIdentifier_lower hbase
  calls := List.forall_mem_map.mpr fun node hnode =>
    isIdentifier_methodName (hnodes node hnode) hbase

theorem isIdentifier_of_describes {cs : List Char} {node : NodeSpec}
    (h : NodeSpec.Describes cs node) : isIdentifier node.name.toList = true := by
  obtain ⟨-, hname, -, -, -⟩ := h
  rwa [String.toList_ofList]

/-- Described nodes have identifiers for their names. -/
theorem isIdentifier_of_parse {specs : List String}
    (h : List.Forall₂ (fun spec node => NodeSpec.parse spec = .ok node) specs nodes) :
    ∀ node ∈ nodes, isIdentifier node.name.toList = true := by
  induction h with
  | nil => simp
  | cons hspec _ ih =>
    exact List.forall_mem_cons.mpr
      ⟨isIdentifier_of_describes (NodeSpec.parse_eq_ok_iff.mp hspec), ih⟩

/-- Behind a text there are nodes that were described. -/
theorem exists_nodes_of_ofSpecs {specs : List String} {text : String}
    (h : ofSpecs base specs = .ok text) :
    ∃ nodes, List.Forall₂ (fun spec node => NodeSpec.parse spec = .ok node) specs nodes := by
  unfold ofSpecs at h
  cases hparse : specs.mapM NodeSpec.parse with
  | error e =>
    rw [hparse] at h
    cases h
  | ok nodes => exact ⟨nodes, mapM_eq_ok_iff.mp hparse⟩

/-- The file of a module stands in the directory. -/
theorem exists_path_eq (directory : String) (hbase : isIdentifier base.toList = true) :
    ∃ parent ∈ [directory, directory ++ "/"], path directory base = parent ++ lower base ++ ".py" := by
  have hroot : (lower base ++ ".py").toList.head? ≠ some '/' := by
    have hlower := isIdentifier_lower hbase
    have hslash : isIdentifierStart '/' = false := by decide
    rw [String.toList_append]
    cases hs : (lower base).toList with
    | nil =>
      rw [hs] at hlower
      cases hlower
    | cons c cs =>
      rw [hs, isIdentifier, Bool.and_eq_true] at hlower
      rw [List.cons_append, List.head?_cons]
      intro hc
      rw [Option.some.inj hc, hslash] at hlower
      cases hlower.1
  have hname : (LooseText.text (lower base ++ ".py")).beginsWith '/' = false :=
    beq_eq_false_iff_ne.mpr hroot
  unfold path joinPath
  rw [LooseText.lower, LooseText.text_append_text, hname, if_neg Bool.false_ne_true]
  split
  · exact ⟨directory, by simp, congrArg LooseText.text String.append_assoc.symm⟩
  · exact ⟨directory ++ "/", by simp, congrArg LooseText.text String.append_assoc.symm⟩

/-- **Names that are derived from identifiers are identifiers**: the method of a node, the lower case of the
base, which is the parameter and the stem of the file, and whatever is declared or called in the text of a
module. -/
theorem isIdentifier_derived (hbase : isIdentifier base.toList = true) (directory : String) :
    (∀ node : String, isIdentifier node.toList = true →
      isIdentifier (methodName node base).toList = true) ∧
    isIdentifier (lower base).toList = true ∧
    (∃ parent ∈ [directory, directory ++ "/"],
      path directory base = parent ++ lower base ++ ".py") ∧
    ∀ specs text, ofSpecs base specs = .ok text → ∃ o, Outline.read text = some o ∧
      o.Identifiers ∧ ∀ m ∈ o.methods, m.name = methodName m.node base ∧ m.parameter = lower base := by
  refine ⟨fun node hnode => isIdentifier_methodName hnode hbase, isIdentifier_lower hbase,
    exists_path_eq directory hbase, fun specs text h => ?_⟩
  obtain ⟨nodes, hspecs⟩ := exists_nodes_of_ofSpecs h
  obtain ⟨htext, hread⟩ := ofSpecs_eq hbase hspecs
  obtain rfl : (outline base nodes).text = text := Except.ok.inj (htext.symm.trans h)
  exact ⟨_, hread, identifiers_outline hbase (isIdentifier_of_parse hspecs),
    List.forall_mem_map.mpr fun _ _ => ⟨rfl, rfl⟩⟩

/-- A sigma at the end of a word, and a letter that becomes two characters. -/
theorem isIdentifier_derived_sigma :
    isIdentifier "ΟΔΟΣ".toList = true ∧ isIdentifier "İx".toList = true ∧
      methodName "İx" "ΟΔΟΣ" = "visit_i\u0307x_οδος" ∧
      isIdentifier "visit_i\u0307x_οδος".toList = true ∧ isIdentifier "οδος".toList = true ∧
      (∃ parent ∈ ["out", "out/"], path "out" "ΟΔΟΣ" = parent ++ "οδος" ++ ".py") ∧
      ∃ text o, ofSpecs "ΟΔΟΣ" ["İx : Any a"] = .ok text ∧ Outline.read text = some o ∧
        o.Identifiers := by
  have hbase : isIdentifier "ΟΔΟΣ".toList = true := by decide +kernel
  have hnode : isIdentifier "İx".toList = true := by decide +kernel
  have hlower : lower "ΟΔΟΣ" = "οδος" := by decide +kernel
  have hmethod : methodName "İx" "ΟΔΟΣ" = "visit_i\u0307x_οδος" := by decide +kernel
  obtain ⟨hmethods, hstem, hpath, htexts⟩ := isIdentifier_derived hbase "out"
  have hname := hmethods "İx" hnode
  rw [hmethod] at hname
  rw [hlower] at hstem hpath
  obtain ⟨text, htext⟩ : ∃ text, ofSpecs "ΟΔΟΣ" ["İx : Any a"] = .ok text := by
    have hparse : NodeSpec.parse "İx : Any a" = .ok ⟨"İx", [⟨"Any", "a"⟩]⟩ := by decide +kernel
    have hspecs : List.Forall₂ (fun spec node => NodeSpec.parse spec = .ok node) ["İx : Any a"]
        [⟨"İx", [⟨"Any", "a"⟩]⟩] := .cons hparse .nil
    exact ⟨_, (ofSpecs_eq hbase hspecs).1⟩
  obtain ⟨o, hread, hidentifiers, -⟩ := htexts _ text htext
  exact ⟨hbase, hnode, hmethod, hname, hstem, hpath, text, o, htext, hread, hidentifiers⟩

end NodeModule

end LoxLex
