import LoxLex.Double.Numeral
import LoxLex.Scanner.Basic

/-!
# LoxLex.Scanner.Rules — one lexeme at a time

Each rule reads as far as its lexeme goes, at most two characters ahead. How far that is depends
only on the text that is still to be read: `numberLength`, `wordLength` and `commentLength` say
it on that text. The rules may be used from any position; they do not move `start`.
-/

namespace LoxLex

/-- How many characters go on a number: digits, then a point and digits if a digit follows the
point. -/
def numberLength (cs : List Char) : Nat :=
  let whole := (cs.takeWhile isDigit).length
  match cs.drop whole with
  | '.' :: d :: more =>
    if isDigit d then whole + 1 + ((d :: more).takeWhile isDigit).length else whole
  | _ => whole

/-- How many characters go on a word. -/
def wordLength (cs : List Char) : Nat := (cs.takeWhile isWordChar).length

/-- How many characters stand before the end of the line, or before the end. -/
def commentLength (cs : List Char) : Nat := (cs.takeWhile (· ≠ '\n')).length

namespace Scanner

/-- Reads a string whose opening quote has been passed. Its value lacks the first and last
character of the lexeme, and its lines count. -/
def string (s : Scanner) : Except Fault Unit × Scanner :=
  let body := s.rest.takeWhile (· ≠ '"')
  let s := { s.skip body.length with line := s.line + body.count '\n' }
  if s.isAtEnd then (.error (.lexical (.unterminated s.location)), s)
  else
    let s := s.skip 1
    (.ok (), s.addToken .string (.string (s.slice (s.start + 1) (s.current - 1))))

/-- Reads the rest of a number. The lexeme is its numeral. -/
def number (s : Scanner) : Except Fault Unit × Scanner :=
  let s := s.skip (numberLength s.rest)
  match Double.ofText? s.lexeme.toList with
  | some value => (.ok (), s.addToken .number (.number value))
  | none => (.error (.notNumeral s.lexeme), s)

/-- Reads the rest of a word: a reserved word or an identifier. -/
def word (s : Scanner) : Scanner :=
  let s := s.skip (wordLength s.rest)
  s.addToken (TokenKind.ofWord s.lexeme) .absent

/-- Goes on from a slash: a second one opens a comment, which leaves its line end unread. -/
def slash (s : Scanner) : Scanner :=
  match s.nextIs "/" with
  | (true, s) => s.skip (commentLength s.rest)
  | (false, s) => s.addToken .slash .absent

/-- Goes on from an operator, which takes an equals sign with it. -/
def operator (alone joined : TokenKind) (s : Scanner) : Scanner :=
  match s.nextIs "=" with
  | (true, s) => s.addToken joined .absent
  | (false, s) => s.addToken alone .absent

/-- Refuses a character that opens no lexeme. -/
def unexpected (c : Char) (s : Scanner) : Except Fault Unit × Scanner :=
  match Diagnostic.unexpected [c] s.location with
  | .ok d => (.error (.lexical d), s)
  | .error e => (.error (.notOneCharacter e), s)

/-- Goes on from the first character of a lexeme, which has been passed. -/
def continueFrom (c : Char) (s : Scanner) : Except Fault Unit × Scanner :=
  match Opening.ofChar c with
  | .punctuation kind => (.ok (), s.addToken kind .absent)
  | .operator alone joined => (.ok (), s.operator alone joined)
  | .slash => (.ok (), s.slash)
  | .blank => (.ok (), s)
  | .newline => (.ok (), { s with line := s.line + 1 })
  | .quote => s.string
  | .digit => s.number
  | .letter => (.ok (), s.word)
  | .other => s.unexpected c

/-- Reads one lexeme. -/
def scanToken (s : Scanner) : Except Fault Unit × Scanner :=
  match s.advance with
  | (.ok c, s) => s.continueFrom c
  | (.error fault, s) => (.error fault, s)

end Scanner

end LoxLex
