import LoxLex.Unicode.Blank

/-!
# LoxLex.Text.Split — taking text apart

Text is taken apart at every character of a sort; words are the pieces between white space that are
not empty.
-/

namespace LoxLex.Split

/-- The pieces between the characters that `p` holds of, one more than there are of these. -/
def piecesBy (p : Char → Bool) : List Char → List (List Char)
  | [] => [[]]
  | c :: rest =>
    if p c then [] :: piecesBy p rest
    else match piecesBy p rest with
      | [] => [[c]]
      | piece :: more => (c :: piece) :: more

/-- The pieces between the occurrences of a separator. -/
def pieces (separator : Char) (cs : List Char) : List (List Char) :=
  piecesBy (· == separator) cs

theorem piecesBy_ne_nil (p : Char → Bool) (cs : List Char) : piecesBy p cs ≠ [] := by
  cases cs with
  | nil => simp [piecesBy]
  | cons c rest =>
    simp only [piecesBy]
    split
    · simp
    · split <;> simp

/-- Putting the separator back between the pieces gives the text. -/
theorem intercalate_pieces (separator : Char) (cs : List Char) :
    [separator].intercalate (pieces separator cs) = cs := by
  unfold pieces
  induction cs with
  | nil => rfl
  | cons c rest ih =>
    simp only [piecesBy]
    cases hp : piecesBy (· == separator) rest with
    | nil => exact absurd hp (piecesBy_ne_nil _ rest)
    | cons piece more =>
      rw [hp] at ih
      split
      · cases more <;> simp_all [List.intercalate, List.intersperse]
      · cases more <;> simp_all [List.intercalate, List.intersperse]

/-- The words of a text: its longest runs of characters that are not white space. -/
def words (cs : List Char) : List (List Char) :=
  (piecesBy Unicode.isBlank cs).filter fun word => !word.isEmpty

/-- The text without the white space at its ends. -/
def trim (cs : List Char) : List Char :=
  ((cs.dropWhile Unicode.isBlank).reverse.dropWhile Unicode.isBlank).reverse

end LoxLex.Split
