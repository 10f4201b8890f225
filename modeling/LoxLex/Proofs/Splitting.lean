import LoxLex.Proofs.Span
import LoxLex.Text.Split

/-!
# LoxLex.Proofs.Splitting — what taking text apart finds

Text is taken apart in three ways: into pieces at a separator, into words at white space, and into its
inside and the white space at its ends.  Each is said here by how the text is put together again, so
that later modules need not look into the functions.

* `Split.pieces_eq_iff`: the pieces at a separator.
* `Split.words_eq_iff`: the words, by the relation `Split.Wording`.
* `Split.trim_eq_iff`: what is left of a text that holds one word.
-/

namespace LoxLex.Split

/-! ### Lists with a separator -/

section Separators

variable {α : Type} {sep : α} {xs : List (List α)}

theorem mem_intercalate {a : α} (h : a ∈ [sep].intercalate xs) : a = sep ∨ ∃ x ∈ xs, a ∈ x := by
  induction xs with
  | nil => cases h
  | cons x xs ih =>
    cases xs with
    | nil =>
      rw [List.intercalate_singleton] at h
      exact Or.inr ⟨x, List.mem_singleton_self x, h⟩
    | cons next xs =>
      rw [List.intercalate_cons_cons, List.append_assoc] at h
      rcases List.mem_append.mp h with h | h
      · exact Or.inr ⟨x, List.mem_cons_self, h⟩
      · rcases List.mem_cons.mp h with rfl | h
        · exact Or.inl rfl
        · rcases ih h with h | ⟨y, hy, h⟩
          · exact Or.inl h
          · exact Or.inr ⟨y, List.mem_cons_of_mem x hy, h⟩

/-- The last list is what the whole ends in. -/
theorem exists_intercalate_concat (sep : α) (xs : List (List α)) (x : List α) :
    ∃ front, [sep].intercalate (xs ++ [x]) = front ++ x := by
  induction xs with
  | nil => exact ⟨[], List.intercalate_singleton⟩
  | cons y xs ih =>
    obtain ⟨front, h⟩ := ih
    refine ⟨y ++ [sep] ++ front, ?_⟩
    rw [List.cons_append, List.intercalate_cons_of_ne_nil (by simp), h, List.append_assoc,
      List.append_assoc, List.append_assoc]

/-- A separator behind each list. -/
theorem flatMap_concat (h : xs ≠ []) :
    xs.flatMap (· ++ [sep]) = [sep].intercalate xs ++ [sep] := by
  induction xs with
  | nil => exact absurd rfl h
  | cons x xs ih =>
    cases xs with
    | nil => simp
    | cons next xs =>
      rw [List.flatMap_cons, ih (by simp), List.intercalate_cons_cons]
      simp only [List.append_assoc]

/-- A separator at the end has nothing behind it. -/
theorem intercalate_concat_nil (h : xs ≠ []) :
    [sep].intercalate (xs ++ [[]]) = [sep].intercalate xs ++ [sep] := by
  rw [← flatMap_concat h]
  clear h
  induction xs with
  | nil => rfl
  | cons x xs ih =>
    rw [List.cons_append, List.intercalate_cons_of_ne_nil (by simp), ih, List.flatMap_cons]

theorem splitOn_intercalate_concat [BEq α] [LawfulBEq α] (hne : xs ≠ []) (h : ∀ x ∈ xs, sep ∉ x) :
    ([sep].intercalate xs ++ [sep]).splitOn sep = xs ++ [[]] := by
  rw [← intercalate_concat_nil hne]
  refine List.splitOn_intercalate sep ?_ (by simp)
  intro x hx
  rcases List.mem_append.mp hx with hx | hx
  · exact h x hx
  · rw [List.mem_singleton.mp hx]
    simp

end Separators

/-! ### Pieces -/

section Pieces

variable {p : Char → Bool} {c sep : Char} {w rest : List Char}

theorem piecesBy_eq_splitOnP (p : Char → Bool) (cs : List Char) : piecesBy p cs = cs.splitOnP p := by
  induction cs with
  | nil => rfl
  | cons c cs ih =>
    obtain ⟨piece, more, hcs⟩ := List.exists_cons_of_ne_nil (piecesBy_ne_nil p cs)
    rw [List.splitOnP_cons_eq_if_modifyHead, ← ih]
    simp only [piecesBy, hcs, List.modifyHead_cons]

theorem piecesBy_cons_of_pos (h : p c = true) : piecesBy p (c :: rest) = [] :: piecesBy p rest := by
  simp [piecesBy, h]

theorem piecesBy_of_forall (hw : ∀ d ∈ w, p d = false) : piecesBy p w = [w] := by
  rw [piecesBy_eq_splitOnP, List.splitOnP_eq_singleton hw]

theorem piecesBy_append_cons (hw : ∀ d ∈ w, p d = false) (hc : p c = true) (rest : List Char) :
    piecesBy p (w ++ c :: rest) = w :: piecesBy p rest := by
  rw [piecesBy_eq_splitOnP, piecesBy_eq_splitOnP, List.splitOnP_append_cons_of_forall_mem hw c hc]

/-- No piece has a separator. -/
theorem notMem_of_mem_pieces {cs piece : List Char} (h : piece ∈ pieces sep cs) : sep ∉ piece := by
  induction cs generalizing piece with
  | nil =>
    rw [List.mem_singleton.mp h]
    simp
  | cons c cs ih =>
    obtain ⟨first, more, hcs⟩ := List.exists_cons_of_ne_nil (piecesBy_ne_nil (· == sep) cs)
    unfold pieces at h ih
    rw [piecesBy, hcs] at h
    have hpieces : ∀ piece ∈ first :: more, sep ∉ piece := by
      intro piece hpiece
      exact ih (hcs ▸ hpiece)
    obtain ⟨hfirst, hmore⟩ := List.forall_mem_cons.mp hpieces
    by_cases hc : (c == sep) = true
    · rw [if_pos hc] at h
      rcases List.mem_cons.mp h with rfl | h
      · simp
      · exact hpieces piece h
    · rw [if_neg hc] at h
      rcases List.mem_cons.mp h with rfl | h
      · have hne : sep ≠ c := by
          rintro rfl
          exact hc (beq_self_eq_true sep)
        simpa [hne] using hfirst
      · exact hmore piece h

/-- **The pieces of a text** are what stands between its separators. -/
theorem pieces_eq_iff {cs : List Char} {parts : List (List Char)} : pieces sep cs = parts ↔
    parts ≠ [] ∧ (∀ part ∈ parts, sep ∉ part) ∧ cs = [sep].intercalate parts := by
  constructor
  · rintro rfl
    refine ⟨piecesBy_ne_nil _ cs, ?_, (intercalate_pieces sep cs).symm⟩
    intro part hpart
    exact notMem_of_mem_pieces hpart
  · rintro ⟨hne, h, rfl⟩
    rw [pieces, piecesBy_eq_splitOnP, ← List.splitOn_eq_splitOnP, List.splitOn_intercalate sep h hne]

end Pieces

/-! ### Words -/

/-- White space, or nothing. -/
def Blank (w : List Char) : Prop := ∀ c ∈ w, Unicode.isBlank c = true

/-- A character or more, and none of them white space. -/
def Word (w : List Char) : Prop := w ≠ [] ∧ ∀ c ∈ w, Unicode.isBlank c = false

/-- A text with its words in order: white space may stand anywhere around them, and has to stand
between any two. -/
inductive Wording : List Char → List (List Char) → Prop
  | none {w : List Char} (h : Blank w) : Wording w []
  | word {lead w rest : List Char} {ws : List (List Char)} (hlead : Blank lead) (hw : Word w)
      (stop : Stops (Unicode.isBlank · = false) rest) (more : Wording rest ws) :
      Wording (lead ++ (w ++ rest)) (w :: ws)

variable {lead w rest trail : List Char}

theorem words_append_blank (h : Blank lead) (rest : List Char) : words (lead ++ rest) = words rest := by
  induction lead with
  | nil => rfl
  | cons c lead ih =>
    obtain ⟨hc, hlead⟩ := List.forall_mem_cons.mp h
    unfold words at ih ⊢
    rw [List.cons_append, piecesBy_cons_of_pos hc, List.filter_cons_of_neg (by simp), ih hlead]

theorem words_of_blank (h : Blank w) : words w = [] := by
  have hw := words_append_blank h []
  rwa [List.append_nil] at hw

theorem words_append_word (hw : Word w) (stop : Stops (Unicode.isBlank · = false) rest) :
    words (w ++ rest) = w :: words rest := by
  have hkeep : ∀ ws : List (List Char), ((w :: ws).filter fun word => !word.isEmpty) =
      w :: ws.filter fun word => !word.isEmpty := by
    intro ws
    simp [hw.1]
  unfold words
  cases rest with
  | nil =>
    rw [List.append_nil, piecesBy_of_forall hw.2, hkeep]
    rfl
  | cons c rest =>
    have hc : Unicode.isBlank c = true := by simpa using stop
    rw [piecesBy_append_cons hw.2 hc, hkeep, piecesBy_cons_of_pos hc,
      List.filter_cons_of_neg (by simp)]

/-- A text is white space, or its first word stands behind white space. -/
theorem exists_word (cs : List Char) : Blank cs ∨ ∃ lead w rest, cs = lead ++ (w ++ rest) ∧
    Blank lead ∧ Word w ∧ Stops (Unicode.isBlank · = false) rest := by
  have hcs : cs.takeWhile Unicode.isBlank ++ cs.dropWhile Unicode.isBlank = cs :=
    List.takeWhile_append_dropWhile
  have hlead : Blank (cs.takeWhile Unicode.isBlank) := fun c hc => List.mem_takeWhile_imp hc
  have hstop := Stops.dropWhile Unicode.isBlank cs
  generalize cs.takeWhile Unicode.isBlank = lead at hcs hlead
  generalize cs.dropWhile Unicode.isBlank = inside at hcs hstop
  cases inside with
  | nil =>
    rw [List.append_nil] at hcs
    exact Or.inl (hcs ▸ hlead)
  | cons c inside =>
    have hc : Unicode.isBlank c = false := by simpa using hstop
    have hinside : inside.takeWhile (!Unicode.isBlank ·) ++ inside.dropWhile (!Unicode.isBlank ·) =
        inside := List.takeWhile_append_dropWhile
    refine Or.inr ⟨lead, c :: inside.takeWhile (!Unicode.isBlank ·),
      inside.dropWhile (!Unicode.isBlank ·), ?_, hlead, ⟨by simp, ?_⟩, ?_⟩
    · rw [List.cons_append, hinside, hcs]
    · rw [List.forall_mem_cons]
      refine ⟨hc, fun d hd => ?_⟩
      simpa using List.mem_takeWhile_imp hd
    · have h := Stops.dropWhile (!Unicode.isBlank ·) inside
      simpa [Stops] using h

theorem wording_words (cs : List Char) : Wording cs (words cs) := by
  induction h : cs.length using Nat.strong_induction_on generalizing cs with
  | _ n ih =>
    rcases exists_word cs with hblank | ⟨lead, w, rest, rfl, hlead, hw, stop⟩
    · rw [words_of_blank hblank]
      exact .none hblank
    · have hpos := List.length_pos_iff.mpr hw.1
      rw [List.length_append, List.length_append] at h
      rw [words_append_blank hlead, words_append_word hw stop]
      exact .word hlead hw stop (ih rest.length (by omega) rest rfl)

/-- **The words of a text** are the only ones that it can be made of. -/
theorem words_eq_iff {cs : List Char} {ws : List (List Char)} : words cs = ws ↔ Wording cs ws := by
  constructor
  · rintro rfl
    exact wording_words cs
  · intro h
    induction h with
    | none h => exact words_of_blank h
    | word hlead hw stop more ih => rw [words_append_blank hlead, words_append_word hw stop, ih]

/-- Two words, with white space between them. -/
theorem words_eq_pair_iff {cs v w : List Char} : words cs = [v, w] ↔
    ∃ lead gap trail, cs = lead ++ (v ++ (gap ++ (w ++ trail))) ∧ Blank lead ∧ Blank gap ∧ gap ≠ [] ∧
      Blank trail ∧ Word v ∧ Word w := by
  rw [words_eq_iff]
  constructor
  · rintro (_ | @⟨lead, _, _, _, hlead, hv, stop, _ | @⟨gap, _, trail, _, hgap, hw, -, ⟨htrail⟩⟩⟩)
    refine ⟨lead, gap, trail, rfl, hlead, hgap, ?_, htrail, hv, hw⟩
    rintro rfl
    -- Without a gap the first word would go on.
    obtain ⟨c, w', rfl⟩ := List.exists_cons_of_ne_nil hw.1
    exact absurd (hw.2 c List.mem_cons_self) (by simpa using stop)
  · rintro ⟨lead, gap, trail, rfl, hlead, hgap, hne, htrail, hv, hw⟩
    refine .word hlead hv ?_ (.word hgap hw ?_ (.none htrail))
    · obtain ⟨c, gap', rfl⟩ := List.exists_cons_of_ne_nil hne
      simpa using hgap c List.mem_cons_self
    · cases trail with
      | nil => exact Stops.nil
      | cons c trail => simpa using htrail c List.mem_cons_self

/-! ### The inside of a text -/

theorem exists_trim (cs : List Char) :
    ∃ lead trail, cs = lead ++ (trim cs ++ trail) ∧ Blank lead ∧ Blank trail := by
  have hcs : cs.takeWhile Unicode.isBlank ++ cs.dropWhile Unicode.isBlank = cs :=
    List.takeWhile_append_dropWhile
  have hlead : Blank (cs.takeWhile Unicode.isBlank) := fun c hc => List.mem_takeWhile_imp hc
  generalize hinside : cs.dropWhile Unicode.isBlank = inside at hcs
  have hback : inside.reverse.takeWhile Unicode.isBlank ++ inside.reverse.dropWhile Unicode.isBlank =
      inside.reverse := List.takeWhile_append_dropWhile
  have hsplit := congrArg List.reverse hback
  rw [List.reverse_append, List.reverse_reverse] at hsplit
  refine ⟨_, (inside.reverse.takeWhile Unicode.isBlank).reverse, ?_, hlead, ?_⟩
  · unfold trim
    rw [hinside, hsplit, hcs]
  · intro c hc
    exact List.mem_takeWhile_imp (List.mem_reverse.mp hc)

/-- **What is left of a text with one word** is the word. -/
theorem trim_eq_iff {cs : List Char} (hw : Word w) :
    trim cs = w ↔ ∃ lead trail, cs = lead ++ (w ++ trail) ∧ Blank lead ∧ Blank trail := by
  constructor
  · rintro rfl
    exact exists_trim cs
  · rintro ⟨lead, trail, rfl, hlead, htrail⟩
    have hend : ∀ u : List Char, (∀ c ∈ u, Unicode.isBlank c = false) → u ≠ [] →
        ∀ v, Stops (Unicode.isBlank · = true) (u ++ v) := by
      intro u hu hne v
      obtain ⟨c, u, rfl⟩ := List.exists_cons_of_ne_nil hne
      simpa using hu c List.mem_cons_self
    have hback : Stops (Unicode.isBlank · = true) (w.reverse ++ []) := by
      refine hend _ ?_ (by simpa using hw.1) []
      intro c hc
      exact hw.2 c (List.mem_reverse.mp hc)
    rw [List.append_nil] at hback
    unfold trim
    rw [(hend w hw.2 hw.1 trail).dropWhile_append hlead, List.reverse_append,
      hback.dropWhile_append fun c hc => htrail c (List.mem_reverse.mp hc), List.reverse_reverse]

end LoxLex.Split
