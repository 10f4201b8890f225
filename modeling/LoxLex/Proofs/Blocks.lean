import LoxLex.NodeModule.Render
import LoxLex.Proofs.Splitting

/-!
# LoxLex.Proofs.Blocks — text in blocks

A block is made of paragraphs, and a paragraph of lines.  A blank line parts two paragraphs of a block,
and two of them part two blocks.  So a text is taken apart by splitting it three times, at newlines, at
blank lines and at empty paragraphs, and nothing in it is lost by that.

The renderer writes blocks one by one, each with the blank lines that follow it, and drops those behind
the last.

* `Blocks.text_read`, `Blocks.read_text`: taking apart and putting together undo each other.
* `Blocks.endInNewline_written`: what is written block by block is the text of the blocks.
* `Blocks.text_ends`: it ends in one newline.
-/

namespace LoxLex

/-- Lines with no blank one among them. -/
abbrev Paragraph := List String

/-- Paragraphs of one definition. -/
abbrev Block := List Paragraph

/-- A line that is neither blank nor broken. -/
def SolidLine (line : String) : Prop := line ≠ "" ∧ '\n' ∉ line.toList

instance (line : String) : Decidable (SolidLine line) := inferInstanceAs (Decidable (_ ∧ _))

theorem SolidLine.append {line more : String} (h : SolidLine line) (hmore : '\n' ∉ more.toList) :
    SolidLine (line ++ more) := by
  refine ⟨by simp [h.1], ?_⟩
  rw [String.toList_append, List.mem_append, not_or]
  exact ⟨h.2, hmore⟩

/-- There are lines, and all of them are solid. -/
def Paragraph.Solid (p : Paragraph) : Prop := p ≠ [] ∧ ∀ line ∈ p, SolidLine line

/-- There are paragraphs, and all of them are solid. -/
def Block.Solid (b : Block) : Prop := b ≠ [] ∧ ∀ p ∈ b, Paragraph.Solid p

namespace Blocks

open Split

/-! ### Taking text apart -/

/-- The lines of blocks, with the blank ones between them. -/
def lines (bs : List Block) : List String := [""].intercalate ([[]].intercalate bs)

/-- The text of blocks.  With an empty block at the end, it ends in a newline. -/
def text (bs : List Block) : String := "\n".intercalate (lines bs)

theorem toList_text (bs : List Block) :
    (text bs).toList = ['\n'].intercalate ((lines bs).map String.toList) :=
  String.toList_intercalate

/-- The blocks of a text. -/
def read (s : String) : List Block :=
  (((s.toList.splitOn '\n').map String.ofList).splitOn "").splitOn []

/-- **Nothing is lost.** -/
theorem text_read (s : String) : text (read s) = s := by
  have hchars : (String.toList ∘ String.ofList : List Char → List Char) = id := by
    funext cs
    exact String.toList_ofList
  rw [← String.toList_inj, toList_text, lines, read, List.intercalate_splitOn,
    List.intercalate_splitOn, List.map_map, hchars, List.map_id, List.intercalate_splitOn]

variable {bs : List Block}

/-- The paragraphs of solid blocks, and the lines of these. -/
theorem solid_paragraph (h : ∀ b ∈ bs, b.Solid) {p : Paragraph} (hp : p ∈ [[]].intercalate bs)
    (hne : p ≠ []) : ∀ line ∈ p, SolidLine line := by
  rcases mem_intercalate hp with rfl | ⟨b, hb, hp⟩
  · exact absurd rfl hne
  · exact ((h b hb).2 p hp).2

theorem newline_notMem_lines (h : ∀ b ∈ bs, b.Solid) {line : String} (hline : line ∈ lines bs) :
    '\n' ∉ line.toList := by
  rcases mem_intercalate hline with rfl | ⟨p, hp, hline⟩
  · simp
  · exact (solid_paragraph h hp (List.ne_nil_of_mem hline) line hline).2

/-- There is something in solid blocks, and it does not end in a newline. -/
theorem exists_lines (hne : bs ≠ []) (h : ∀ b ∈ bs, b.Solid) :
    [[]].intercalate bs ≠ [] ∧ lines bs ≠ [] ∧
      (['\n'].intercalate ((lines bs).map String.toList)).getLast? ≠ some '\n' := by
  obtain ⟨before, b, rfl⟩ := (List.eq_nil_or_concat' bs).resolve_left hne
  obtain ⟨hb, hparagraphs⟩ := h b (by simp)
  obtain ⟨ps, p, rfl⟩ := (List.eq_nil_or_concat' b).resolve_left hb
  obtain ⟨hp, hlines⟩ := hparagraphs p (by simp)
  obtain ⟨ls, line, rfl⟩ := (List.eq_nil_or_concat' p).resolve_left hp
  obtain ⟨hline, hfree⟩ := hlines line (by simp)
  obtain ⟨front, hfront⟩ := exists_intercalate_concat [] before (ps ++ [ls ++ [line]])
  obtain ⟨above, habove⟩ := exists_intercalate_concat "" (front ++ ps) (ls ++ [line])
  have hall : lines (before ++ [ps ++ [ls ++ [line]]]) = above ++ (ls ++ [line]) := by
    unfold lines
    rw [hfront, ← List.append_assoc, habove]
  obtain ⟨chars, hchars⟩ :=
    exists_intercalate_concat '\n' ((above ++ ls).map String.toList) line.toList
  refine ⟨by simp [hfront], by simp [hall], ?_⟩
  rw [hall, ← List.append_assoc, List.map_append, List.map_singleton, hchars]
  intro hlast
  have hsome : line.toList ≠ [] := by simpa using hline
  rw [List.getLast?_append_of_ne_nil _ hsome] at hlast
  exact hfree (List.mem_of_getLast? hlast)

/-- Behind solid blocks, an empty one is a newline. -/
theorem toList_text_concat (hne : bs ≠ []) (h : ∀ b ∈ bs, b.Solid) :
    (text (bs ++ [[]])).toList = ['\n'].intercalate ((lines bs).map String.toList) ++ ['\n'] := by
  obtain ⟨hparagraphs, hlines, -⟩ := exists_lines hne h
  have hchars : (lines bs).map String.toList ≠ [] := by simpa using hlines
  have hlast : lines (bs ++ [[]]) = lines bs ++ [""] := by
    unfold lines
    rw [intercalate_concat_nil hne, intercalate_concat_nil hparagraphs]
  rw [toList_text, hlast, List.map_append, List.map_singleton, String.toList_empty,
    intercalate_concat_nil hchars]

/-- **The text ends in one newline.** -/
theorem text_ends (hne : bs ≠ []) (h : ∀ b ∈ bs, b.Solid) :
    ∃ body, (text (bs ++ [[]])).toList = body ++ ['\n'] ∧ body.getLast? ≠ some '\n' :=
  ⟨_, toList_text_concat hne h, (exists_lines hne h).2.2⟩

/-- **The blocks are found again.** -/
theorem read_text (hne : bs ≠ []) (h : ∀ b ∈ bs, b.Solid) :
    read (text (bs ++ [[]])) = bs ++ [[]] := by
  obtain ⟨hparagraphs, hlines, -⟩ := exists_lines hne h
  have hchars : (String.ofList ∘ String.toList : String → String) = id := by
    funext s
    exact String.ofList_toList
  have hbroken : ∀ cs ∈ (lines bs).map String.toList, '\n' ∉ cs := by
    intro cs hcs
    obtain ⟨line, hline, rfl⟩ := List.mem_map.mp hcs
    exact newline_notMem_lines h hline
  have hblank : ∀ p ∈ [[]].intercalate bs, "" ∉ p := by
    intro p hp hmem
    exact (solid_paragraph h hp (List.ne_nil_of_mem hmem) "" hmem).1 rfl
  have hempty : ∀ b ∈ bs, [] ∉ b := by
    intro b hb hmem
    exact ((h b hb).2 [] hmem).1 rfl
  unfold read
  rw [toList_text_concat hne h, splitOn_intercalate_concat (by simpa using hlines) hbroken,
    List.map_append, List.map_map, hchars, List.map_id, List.map_singleton, String.ofList_nil]
  unfold lines
  rw [splitOn_intercalate_concat hparagraphs hblank, splitOn_intercalate_concat hne hempty]

/-! ### Writing block by block -/

/-- The text of a paragraph, with the blank line that stands between it and the next. -/
def writtenParagraph (p : Paragraph) : String := String.join (p.map (· ++ "\n")) ++ "\n"

/-- The text of a block, with the blank lines that stand between it and the next. -/
def written (b : Block) : String := String.join (b.map writtenParagraph) ++ "\n"

theorem writtenParagraph_nil : writtenParagraph [] = "\n" := rfl

theorem writtenParagraph_cons (line : String) (p : Paragraph) :
    writtenParagraph (line :: p) = line ++ ("\n" ++ writtenParagraph p) := by
  unfold writtenParagraph
  rw [List.map_cons, String.join_cons, String.append_assoc, String.append_assoc]

theorem written_nil : written [] = "\n" := rfl

theorem written_cons (p : Paragraph) (b : Block) :
    written (p :: b) = writtenParagraph p ++ written b := by
  unfold written
  rw [List.map_cons, String.join_cons, String.append_assoc]

theorem toList_written (bs : List Block) : (String.join (bs.map written)).toList =
    (((bs.flatMap (· ++ [[]])).flatMap (· ++ [""])).map String.toList).flatMap (· ++ ['\n']) := by
  simp only [written, writtenParagraph, String.toList_join, String.toList_append, List.flatMap_map,
    List.map_append, List.flatMap_append, List.flatMap_assoc, List.map_flatMap]
  rfl

/-- A text with newlines behind it keeps one of them. -/
theorem endInNewline_eq {body : List Char} (h : body.getLast? ≠ some '\n') {s : String} {n : Nat}
    (hs : s.toList = body ++ List.replicate n '\n') :
    NodeModule.endInNewline s = String.ofList (body ++ ['\n']) := by
  have hstop : Stops (fun c => (c == '\n') = true) body.reverse := by
    intro c hc hnewline
    rw [List.head?_reverse, beq_iff_eq.mp hnewline] at hc
    exact h hc
  unfold NodeModule.endInNewline
  rw [hs, List.reverse_append, List.reverse_replicate,
    hstop.dropWhile_append (by simp), List.reverse_reverse]

/-- **Blocks that are written one by one make up the text.** -/
theorem endInNewline_written (hne : bs ≠ []) (h : ∀ b ∈ bs, b.Solid) :
    NodeModule.endInNewline (String.join (bs.map written)) = text (bs ++ [[]]) := by
  obtain ⟨hparagraphs, hlines, hlast⟩ := exists_lines hne h
  have hwritten : (String.join (bs.map written)).toList =
      ['\n'].intercalate ((lines bs).map String.toList) ++ List.replicate 3 '\n' := by
    have hconcat : ((lines bs).map String.toList).flatMap (· ++ ['\n']) = _ :=
      flatMap_concat (by simpa using hlines)
    unfold lines at hconcat ⊢
    rw [toList_written, flatMap_concat hne, List.flatMap_append, flatMap_concat hparagraphs,
      List.map_append, List.map_append, List.flatMap_append, List.flatMap_append, hconcat,
      List.append_assoc, List.append_assoc]
    rfl
  rw [endInNewline_eq hlast hwritten, ← toList_text_concat hne h, String.ofList_toList]

end Blocks

end LoxLex
