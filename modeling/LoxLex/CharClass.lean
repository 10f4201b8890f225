import LoxLex.Text.Ascii
import LoxLex.Token.Kind

/-!
# LoxLex.CharClass — what the first character of a lexeme says

Every character opens exactly one sort of lexeme; where the character is the token, or half of it,
the opening already knows the kind. A character class is an opening without these kinds. Digits
and letters are the ASCII ones, and what opens no lexeme is `other`.
-/

namespace LoxLex

/-- The sort of lexeme that a character opens. -/
inductive Opening where
  | punctuation (kind : TokenKind)
  | operator (alone joined : TokenKind)
  | blank
  | newline
  | slash
  | quote
  | digit
  | letter
  | other
deriving DecidableEq

/-- The sort of lexeme, without the kinds of its tokens. -/
inductive CharClass where
  | punctuation | operator | blank | newline | slash | quote | digit | letter | other
deriving DecidableEq

namespace Opening

/-- What the tables of tokens and blanks say about a character. -/
def fixed? (c : Char) : Option Opening :=
  match TokenKind.punctuation.lookup c, TokenKind.operators.lookup c with
  | some kind, _ => some (.punctuation kind)
  | none, some (alone, joined) => some (.operator alone joined)
  | none, none => match c with
    | ' ' | '\r' | '\t' => some .blank
    | '\n' => some .newline
    | '/' => some .slash
    | '"' => some .quote
    | _ => none

/-- The sort of lexeme that `c` opens. -/
def ofChar (c : Char) : Opening :=
  match fixed? c with
  | some opening => opening
  | none => if isDigit c then .digit else if isLetter c then .letter else .other

/-- The class of the characters that open lexemes of this sort. -/
def charClass : Opening → CharClass
  | .punctuation _ => .punctuation
  | .operator _ _ => .operator
  | .blank => .blank
  | .newline => .newline
  | .slash => .slash
  | .quote => .quote
  | .digit => .digit
  | .letter => .letter
  | .other => .other

end Opening

namespace CharClass

/-- Every class, in order. -/
def all : List CharClass :=
  [.punctuation, .operator, .blank, .newline, .slash, .quote, .digit, .letter, .other]

/-- The name of a class in listings. -/
def name : CharClass → String
  | .punctuation => "PUNCTUATION"
  | .operator => "OPERATOR_PREFIX"
  | .blank => "WHITESPACE"
  | .newline => "NEWLINE"
  | .slash => "SLASH"
  | .quote => "QUOTE"
  | .digit => "DIGIT"
  | .letter => "ALPHA"
  | .other => "OTHER"

/-- The place of a class in the order, from one. -/
def index (k : CharClass) : Nat := k.ctorIdx + 1

/-- The class of a character. -/
def ofChar (c : Char) : CharClass := (Opening.ofChar c).charClass

/-- Does `s` stand from `low` to `high` in the order of texts? -/
def between (low high s : String) : Bool := !decide (s < low) && !decide (high < s)

/-- The class of a text of any length. Only a single character can be an entry of the tables; the
ranges of digits and letters are taken in the order of texts, so that `5x` counts as a digit. -/
def ofText (s : String) : CharClass :=
  let fixed := match s.toList with
    | [c] => Opening.fixed? c
    | _ => none
  match fixed with
  | some opening => opening.charClass
  | none =>
    if between "0" "9" s then .digit
    else if between "a" "z" s || between "A" "Z" s || s == "_" then .letter
    else .other

end CharClass

end LoxLex
