/-!
# LoxLex.Text.Ascii — digits and letters of the language

The language knows the ASCII digits and letters only; letters of other scripts begin no word.
-/

namespace LoxLex

/-- One of the digits `0` to `9`. -/
def isDigit (c : Char) : Bool := '0' ≤ c && c ≤ '9'

/-- A letter of the ASCII alphabet, or the underscore. -/
def isLetter (c : Char) : Bool := ('a' ≤ c && c ≤ 'z') || ('A' ≤ c && c ≤ 'Z') || c == '_'

/-- A character that a word may go on with. -/
def isWordChar (c : Char) : Bool := isLetter c || isDigit c

end LoxLex
