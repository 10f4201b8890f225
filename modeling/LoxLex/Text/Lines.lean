/-!
# LoxLex.Text.Lines — line ends

Text files may end a line with a carriage return, a newline or both; reading turns each of these
into one newline. Prompts take text apart line by line, each line with its newline.
-/

namespace LoxLex.Lines

/-- Every line end as a single newline. -/
def unify : List Char → List Char
  | [] => []
  | '\r' :: '\n' :: rest => '\n' :: unify rest
  | '\r' :: rest => '\n' :: unify rest
  | c :: rest => c :: unify rest

/-- The lines of a text, each with its newline; the last may lack one. -/
def split : List Char → List (List Char)
  | [] => []
  | c :: rest =>
    if c = '\n' then [c] :: split rest
    else match split rest with
      | [] => [[c]]
      | line :: lines => (c :: line) :: lines

end LoxLex.Lines
