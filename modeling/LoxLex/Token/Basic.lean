import LoxLex.Double.Text
import LoxLex.Text.Quoted
import LoxLex.Token.Kind

/-!
# LoxLex.Token.Basic — tokens and their two texts

A token keeps the source text it was made from, the value of a string or number, and its line. The
listing form is what a scan prints; the description shows every field, with text between quotes.
-/

namespace LoxLex

/-- The value that a token carries. -/
inductive Literal where
  | absent
  | string (value : String)
  | number (value : Double)
deriving DecidableEq

namespace Literal

/-- The value as it stands in a listing: text is shown bare. -/
def text : Literal → String
  | .absent => "null"
  | .string value => value
  | .number value => value.text

/-- The value as it stands in a description: text is shown between quotes. -/
def description : Literal → String
  | .absent => "None"
  | .string value => quoted value
  | .number value => value.text

/-- Equality of values: numbers are compared as numbers. -/
def equal : Literal → Literal → Bool
  | .absent, .absent => true
  | .string a, .string b => a = b
  | .number a, .number b => a.equal b
  | _, _ => false

end Literal

/-- A lexical token. -/
structure Token where
  kind : TokenKind
  lexeme : String
  literal : Literal
  line : Int
deriving DecidableEq

namespace Token

/-- The token that closes every scan. -/
def endOfInput (line : Int) : Token := ⟨.endOfInput, "", .absent, line⟩

/-- The listing form: kind, lexeme and value. -/
def text (t : Token) : String := t.kind.name ++ " " ++ t.lexeme ++ " " ++ t.literal.text

/-- Every field, with quotes around text. -/
def description (t : Token) : String :=
  "Token(" ++ t.kind.name ++ ", " ++ quoted t.lexeme ++ ", " ++ t.literal.description ++ ", " ++
    toString t.line ++ ")"

/-- Equality field by field. -/
def equal (t u : Token) : Bool :=
  t.kind = u.kind && t.lexeme = u.lexeme && t.literal.equal u.literal && t.line = u.line

end Token

end LoxLex
