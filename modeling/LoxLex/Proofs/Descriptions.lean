import LoxLex.Proofs.Listing
import LoxLex.Proofs.NumberText
import LoxLex.Proofs.QuotedText

/-!
# LoxLex.Proofs.Descriptions — a token's description determines the token

The fields of a description stand between commas.  A lexeme or a string may have commas in it, or look like
another description; but it stands between quotes, and what stands between quotes says where it ends.  So
each field can be read off before the comma behind it (`Delimited`), whatever follows.

* `delimited_literal`: the word for no value, a text between quotes and a number are told apart.
* `Token.description_eq_iff`: tokens with one description agree in every field.
-/

namespace LoxLex

/-- Before a comma, the texts say where they end and what they are the texts of. -/
def Delimited {α : Type} (f : α → List Char) : Prop :=
  ∀ ⦃x y : α⦄ ⦃r s : List Char⦄, f x ++ ',' :: r = f y ++ ',' :: s → x = y ∧ r = s

/-- Texts with no comma in them are over at the comma. -/
theorem delimited_of_notMem {α : Type} {f : α → List Char} (hcomma : ∀ x, ',' ∉ f x)
    (hinj : Function.Injective f) : Delimited f := by
  intro x y r s h
  obtain ⟨htext, hrest⟩ := append_cons_unique (hcomma x) (hcomma y) h
  exact ⟨hinj htext, hrest⟩

/-! ### Kinds and texts -/

theorem delimited_kind : Delimited fun k : TokenKind => k.name.toList := by
  refine delimited_of_notMem (fun k => ?_) fun j k h => ?_
  · have table : ∀ k ∈ TokenKind.all, ',' ∉ k.name.toList := by decide
    exact table k k.mem_all
  · exact TokenKind.name_injective (String.toList_injective h)

theorem delimited_quoted : Delimited fun v : String => Quoted.encode v.toList := by
  intro v w r s h
  obtain ⟨htext, hrest⟩ := Quoted.encode_append_inj h
  exact ⟨String.toList_injective htext, (List.cons.inj hrest).2⟩

/-! ### Values -/

/-- No number has a comma in it, or begins like another value. -/
theorem not_isNumberChar : ∀ c ∈ [',', '\'', '"', 'N'], ¬ Double.IsNumberChar c :=
  forall_mem_of_all (by decide)

theorem delimited_number : Delimited fun x : Double => x.text.toList := by
  refine delimited_of_notMem (fun x h => ?_) fun x y h => ?_
  · exact not_isNumberChar ',' (by decide) (x.isNumberChar_text _ h)
  · exact Double.text_injective (String.toList_injective h)

namespace Literal

/-- The three forms in which a value is described. -/
inductive Form where
  | word | quotes | numeral

def form : Literal → Form
  | .absent => .word
  | .string _ => .quotes
  | .number _ => .numeral

/-- The form that a first character opens. -/
def formAt (c : Char) : Form :=
  if c = 'N' then .word else if c = '\'' ∨ c = '"' then .quotes else .numeral

/-- **The first character of a description gives away the form.** -/
theorem exists_description_eq (x : Literal) :
    ∃ c cs, x.description.toList = c :: cs ∧ formAt c = x.form := by
  cases x with
  | absent => exact ⟨'N', ['o', 'n', 'e'], by simp [description], rfl⟩
  | string v =>
    refine ⟨Quoted.quoteFor v.toList, _, String.toList_ofList, ?_⟩
    rcases Quoted.isQuote_quoteFor v.toList with h | h <;> rw [h] <;> rfl
  | number x =>
    obtain ⟨c, cs, htext⟩ := List.exists_cons_of_ne_nil x.toList_text_ne_nil
    refine ⟨c, cs, htext, ?_⟩
    have hc : Double.IsNumberChar c := x.isNumberChar_text c (by rw [htext]; exact List.mem_cons_self)
    have hother : ∀ d ∈ [',', '\'', '"', 'N'], c ≠ d := by
      rintro d hd rfl
      exact not_isNumberChar c hd hc
    unfold formAt
    rw [if_neg (hother 'N' (by decide)), if_neg]
    · rfl
    · rintro (h | h)
      · exact hother _ (by decide) h
      · exact hother _ (by decide) h

end Literal

theorem delimited_literal : Delimited fun x : Literal => x.description.toList := by
  intro x y r s h
  dsimp only at h
  have hform : x.form = y.form := by
    obtain ⟨c, cs, hx, hc⟩ := x.exists_description_eq
    obtain ⟨d, ds, hy, hd⟩ := y.exists_description_eq
    rw [hx, hy] at h
    rw [← hc, ← hd, (List.cons.inj h).1]
  cases x with
  | absent =>
    cases y with
    | absent => exact ⟨rfl, (List.cons.inj (List.append_cancel_left h)).2⟩
    | string w => cases hform
    | number y => cases hform
  | string v =>
    cases y with
    | absent => cases hform
    | string w =>
      simp only [Literal.description, quoted, String.toList_ofList] at h
      obtain ⟨rfl, hrest⟩ := delimited_quoted h
      exact ⟨rfl, hrest⟩
    | number y => cases hform
  | number x =>
    cases y with
    | absent => cases hform
    | string w => cases hform
    | number y =>
      obtain ⟨rfl, hrest⟩ := delimited_number h
      exact ⟨rfl, hrest⟩

/-! ### Lines -/

theorem toList_toString (line : ℤ) : (toString line).toList =
    (if line < 0 then ['-'] else []) ++ Double.digits line.natAbs := by
  rw [Int.toString_eq_repr, Int.repr_eq_if]
  by_cases h : line < 0
  · have habs : (-line).toNat = line.natAbs := by omega
    rw [if_neg (by omega), if_pos h, habs, String.toList_append, Nat.toList_repr]
    rfl
  · have habs : line.toNat = line.natAbs := by omega
    rw [if_pos (by omega), if_neg h, habs, Nat.toList_repr]
    rfl

theorem toString_int_injective : Function.Injective (toString : ℤ → String) := by
  intro a b h
  have hlists := congrArg String.toList h
  rw [toList_toString, toList_toString] at hlists
  have hsplit : ∀ line : ℤ, Double.splitSign
      ((if line < 0 then ['-'] else []) ++ Double.digits line.natAbs) =
        (decide (line < 0), Double.digits line.natAbs) := by
    intro line
    by_cases hline : line < 0
    · simp [hline, Double.splitSign]
    · obtain ⟨c, cs, hdigits⟩ := List.exists_cons_of_ne_nil (Double.digits_ne_nil line.natAbs)
      have hc : isDigit c = true :=
        Double.isDigit_of_mem_digits (by rw [hdigits]; exact List.mem_cons_self)
      simp only [hline, if_false, List.nil_append, hdigits, Double.splitSign_of_digit hc,
        decide_false]
  have hread := congrArg Double.splitSign hlists
  rw [hsplit, hsplit] at hread
  obtain ⟨hsign, hdigits⟩ := Prod.mk.inj hread
  have habs := congrArg Double.digitsValue hdigits
  rw [Double.digitsValue_digits, Double.digitsValue_digits] at habs
  have hsign : a < 0 ↔ b < 0 := decide_eq_decide.mp hsign
  omega

/-! ### Tokens -/

theorem Token.toList_description (t : Token) : t.description.toList = "Token(".toList ++
    (t.kind.name.toList ++ ',' :: ' ' :: (Quoted.encode t.lexeme.toList ++ ',' :: ' ' ::
      (t.literal.description.toList ++ ',' :: ' ' :: ((toString t.line).toList ++ [')'])))) := by
  simp only [description, quoted, String.toList_append, String.toList_ofList, List.append_assoc]
  rfl

/-- **A description is faithful**: tokens with one description have one kind, lexeme, value and line.  The
lexemes and strings are any texts, and the numbers any numbers. -/
theorem Token.description_eq_iff (t u : Token) : t.description = u.description ↔
    t.kind = u.kind ∧ t.lexeme = u.lexeme ∧ t.literal = u.literal ∧ t.line = u.line := by
  constructor
  · intro h
    have hlists := congrArg String.toList h
    rw [t.toList_description, u.toList_description] at hlists
    obtain ⟨hkind, hlexemes⟩ := delimited_kind (List.append_cancel_left hlists)
    obtain ⟨hlexeme, hliterals⟩ := delimited_quoted (List.cons.inj hlexemes).2
    obtain ⟨hliteral, hlines⟩ := delimited_literal (List.cons.inj hliterals).2
    have hline := List.append_cancel_right (List.cons.inj hlines).2
    exact ⟨hkind, hlexeme, hliteral, toString_int_injective (String.toList_injective hline)⟩
  · rintro ⟨hkind, hlexeme, hliteral, hline⟩
    unfold description
    rw [hkind, hlexeme, hliteral, hline]

example : (Token.mk .string "it's" (.string "\",\t") (-1)).description =
    "Token(STRING, \"it's\", '\",\\t', -1)" := by decide +kernel

end LoxLex
