import LoxLex.Proofs.Span

/-!
# LoxLex.Proofs.Segments — a whole text, cut into spans

`segments cs` takes the span at the head of the text, then the span at the head of what is left, and
so on.  Three equations, one for each sort of span, and one induction say all that later modules need
to know of it; `segments_induction` follows the text from span to span.

* `flatten_segments`: the spans spell the text.
* `segments_append`: when two texts are cut each for itself.
-/

namespace LoxLex

/-- A text cut into spans. -/
def segments : List Char → List Span
  | [] => []
  | c :: cs => Span.first c cs :: segments ((c :: cs).drop (Span.first c cs).text.length)
termination_by cs => cs.length
decreasing_by
  obtain ⟨-, -, hne⟩ := Span.exists_rest c cs
  have hpos := List.length_pos_iff.mpr hne
  rw [List.length_drop, List.length_cons]
  omega

@[simp] theorem segments_nil : segments [] = [] := by rw [segments]

theorem segments_cons {c : Char} {cs : List Char} (rest : List Char)
    (e : c :: cs = (Span.first c cs).text ++ rest) :
    segments (c :: cs) = Span.first c cs :: segments rest := by
  rw [segments]
  congr 2
  rw [e, List.drop_left]

theorem segments_lexeme {p : Pattern} {text rest : List Char} (ht : text ∈ p.language)
    (hc : p.Closed text rest) : segments (text ++ rest) = .lexeme p text :: segments rest := by
  obtain ⟨c, cs, rfl⟩ := List.exists_cons_of_ne_nil (Pattern.ne_nil_of_mem ht)
  have hf : Span.first c (cs ++ rest) = .lexeme p (c :: cs) := Span.first_of_closed ht hc rfl
  rw [List.cons_append, segments_cons rest (by rw [hf]; rfl), hf]

theorem segments_unterminated {cs : List Char} (hq : '"' ∉ cs) :
    segments ('"' :: cs) = [.unterminated ('"' :: cs)] := by
  have hf := Span.first_unterminated hq
  rw [segments_cons [] (by rw [hf]; exact (List.append_nil _).symm), hf, segments_nil]

theorem segments_unexpected {c : Char} {cs : List Char} (ho : Opening.ofChar c = .other) :
    segments (c :: cs) = .unexpected c :: segments cs := by
  have hf : Span.first c cs = .unexpected c := Span.first_unexpected ho
  rw [segments_cons cs (by rw [hf]; rfl), hf]

/-- What holds of the empty text, and of a text whenever it holds of what is left behind its first
span, holds of every text. -/
theorem segments_induction {motive : List Char → Prop} (nil : motive [])
    (lexeme : ∀ p text rest, text ∈ Pattern.language p → p.Closed text rest → motive rest →
      motive (text ++ rest))
    (unterminated : ∀ cs, '"' ∉ cs → motive ('"' :: cs))
    (unexpected : ∀ c cs, Opening.ofChar c = .other → motive cs → motive (c :: cs))
    (cs : List Char) : motive cs := by
  induction h : cs.length using Nat.strong_induction_on generalizing cs with
  | _ n ih =>
    cases cs with
    | nil => exact nil
    | cons c cs =>
      rcases Span.first_cases c cs with ⟨ho, -⟩ | ⟨rfl, hq, -⟩ | ⟨p, text, rest, e, ht, hc, -⟩
      · exact unexpected c cs ho (ih cs.length (by simp [← h]) cs rfl)
      · exact unterminated cs hq
      · have hpos := List.length_pos_iff.mpr (Pattern.ne_nil_of_mem ht)
        have hlen := congrArg List.length e
        rw [List.length_append] at hlen
        rw [e]
        exact lexeme p text rest ht hc (ih rest.length (by omega) rest rfl)

/-- **No character is lost, doubled or moved.** -/
theorem flatten_segments (cs : List Char) : ((segments cs).map Span.text).flatten = cs := by
  induction cs using segments_induction with
  | nil => simp
  | lexeme p text rest ht hc ih => simp [segments_lexeme ht hc, ih, Span.text]
  | unterminated cs hq => simp [segments_unterminated hq, Span.text]
  | unexpected c cs ho ih => simp [segments_unexpected ho, ih, Span.text]

/-- The lexemes of a text are texts of their languages. -/
theorem mem_language_of_mem_segments (cs : List Char) {p : Pattern} {text : List Char}
    (h : .lexeme p text ∈ segments cs) : text ∈ p.language := by
  induction cs using segments_induction with
  | nil =>
    rw [segments_nil] at h
    cases h
  | lexeme q w rest hw hc ih =>
    rw [segments_lexeme hw hc] at h
    rcases List.mem_cons.mp h with h | h
    · cases h
      exact hw
    · exact ih h
  | unterminated cs hq =>
    rw [segments_unterminated hq, List.mem_singleton] at h
    cases h
  | unexpected c cs ho ih =>
    rw [segments_unexpected ho] at h
    rcases List.mem_cons.mp h with h | h
    · cases h
    · exact ih h

/-- What is no lexeme of a text is a character that opens nothing. -/
theorem ofChar_of_mem_segments (cs : List Char) {c : Char} (h : .unexpected c ∈ segments cs) :
    Opening.ofChar c = .other := by
  induction cs using segments_induction with
  | nil =>
    rw [segments_nil] at h
    cases h
  | lexeme q w rest hw hc ih =>
    rw [segments_lexeme hw hc] at h
    rcases List.mem_cons.mp h with h | h
    · cases h
    · exact ih h
  | unterminated cs hq =>
    rw [segments_unterminated hq, List.mem_singleton] at h
    cases h
  | unexpected d cs ho ih =>
    rw [segments_unexpected ho] at h
    rcases List.mem_cons.mp h with h | h
    · cases h
      exact ho
    · exact ih h

/-- Behind a string without end there is nothing. -/
theorem eq_nil_of_unterminated {cs w : List Char} {ps qs : List Span}
    (h : segments cs = ps ++ .unterminated w :: qs) : qs = [] := by
  induction cs using segments_induction generalizing ps with
  | nil =>
    rw [segments_nil] at h
    cases ps <;> cases h
  | lexeme p text rest ht hc ih =>
    rw [segments_lexeme ht hc] at h
    cases ps with
    | nil => cases (List.cons.inj h).1
    | cons p ps => exact ih (List.cons.inj h).2
  | unterminated cs hq =>
    rw [segments_unterminated hq] at h
    cases ps with
    | nil => exact (List.cons.inj h).2.symm
    | cons p ps =>
      obtain ⟨-, h⟩ := List.cons.inj h
      cases ps <;> cases h
  | unexpected c cs ho ih =>
    rw [segments_unexpected ho] at h
    cases ps with
    | nil => cases (List.cons.inj h).1
    | cons p ps => exact ih (List.cons.inj h).2

/-- **Two texts are cut each for itself** if no string is left open in the first, the second does not
begin with a character that joins, and no comment of the first goes on in the second. -/
theorem segments_append {a b : List Char} (hopen : ∀ w, .unterminated w ∉ segments a)
    (hb : Stops Joins b)
    (hc : ∀ w, (segments a).getLast? = some (.lexeme .comment w) → Stops (· ≠ '\n') b) :
    segments (a ++ b) = segments a ++ segments b := by
  induction a using segments_induction with
  | nil => rw [segments_nil, List.nil_append, List.nil_append]
  | lexeme p text rest ht hclosed ih =>
    rw [segments_lexeme ht hclosed] at hopen hc ⊢
    have hmore : p.Closed text (rest ++ b) := by
      refine hclosed.append hb ?_
      rintro rfl rfl
      exact hc text (by rw [segments_nil]; rfl)
    rw [List.append_assoc, segments_lexeme ht hmore, List.cons_append]
    congr 1
    refine ih (fun w hw => hopen w (List.mem_cons_of_mem _ hw)) fun w hw => ?_
    exact hc w (by rw [List.getLast?_cons, hw]; rfl)
  | unterminated cs hq =>
    rw [segments_unterminated hq] at hopen
    exact (hopen ('"' :: cs) List.mem_cons_self).elim
  | unexpected c cs ho ih =>
    rw [segments_unexpected ho] at hopen hc ⊢
    rw [List.cons_append, segments_unexpected ho, List.cons_append]
    congr 1
    refine ih (fun w hw => hopen w (List.mem_cons_of_mem _ hw)) fun w hw => ?_
    exact hc w (by rw [List.getLast?_cons, hw]; rfl)

/-! ### The span at the head, and what is behind it -/

/-- The span stands at the head of a text, with `rest` behind it. -/
def Span.Heads : Span → List Char → Prop
  | .lexeme p text, rest => text ∈ p.language ∧ p.Closed text rest
  | .unterminated text, rest => rest = [] ∧ ∃ cs, text = '"' :: cs ∧ '"' ∉ cs
  | .unexpected c, _ => Opening.ofChar c = .other

/-- **A text is cut into its first span and what the text behind it is cut into.** -/
theorem segments_eq_cons_iff {cs : List Char} {p : Span} {ps : List Span} :
    segments cs = p :: ps ↔ ∃ rest, cs = p.text ++ rest ∧ p.Heads rest ∧ segments rest = ps := by
  constructor
  · intro h
    induction cs using segments_induction with
    | nil =>
      rw [segments_nil] at h
      cases h
    | lexeme q text rest ht hc _ =>
      rw [segments_lexeme ht hc] at h
      obtain ⟨rfl, hps⟩ := List.cons.inj h
      exact ⟨rest, rfl, ⟨ht, hc⟩, hps⟩
    | unterminated cs hq =>
      rw [segments_unterminated hq] at h
      obtain ⟨rfl, hps⟩ := List.cons.inj h
      exact ⟨[], (List.append_nil _).symm, ⟨rfl, cs, rfl, hq⟩, segments_nil.trans hps⟩
    | unexpected c cs ho _ =>
      rw [segments_unexpected ho] at h
      obtain ⟨rfl, hps⟩ := List.cons.inj h
      exact ⟨cs, rfl, ho, hps⟩
  · rintro ⟨rest, rfl, hp, rfl⟩
    cases p with
    | lexeme q text => exact segments_lexeme hp.1 hp.2
    | unterminated text =>
      obtain ⟨rfl, cs, rfl, hq⟩ := hp
      rw [segments_nil]
      exact (congrArg segments (List.append_nil _)).trans (segments_unterminated hq)
    | unexpected c => exact segments_unexpected hp

end LoxLex
