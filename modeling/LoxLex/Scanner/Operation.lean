import LoxLex.Scanner.Scan

/-!
# LoxLex.Scanner.Operation — operations in any order

A scanner may be driven step by step: whole scans, the moves of the cursor, and the rules, in any
order and from any position. An operation that stops with a fault leaves the scanner as it then is,
and later operations go on from there.
-/

namespace LoxLex

/-- What a scanner can be asked to do. -/
inductive Operation where
  | scan
  | advance
  | peek
  | peekNext
  | isAtEnd
  | nextIs (expected : String)
  | mark
  | scanToken
  | string
  | number
  | word
  | addToken (kind : TokenKind) (literal : Literal)
  | record (message : String) (location : Location)
  | location
  | hasErrors
  | diagnostics
deriving DecidableEq

/-- What an operation answers. -/
inductive Answer where
  | nothing
  | tokens (tokens : Array Token)
  | character (c : Char)
  | flag (b : Bool)
  | text (s : String)
  | diagnostics (ds : Array Diagnostic)
deriving DecidableEq

namespace Scanner

/-- Runs one operation. -/
def perform (op : Operation) (s : Scanner) : Except Fault Answer × Scanner :=
  match op with
  | .scan => let (answer, s) := s.scan; (answer.map .tokens, s)
  | .advance => let (answer, s) := s.advance; (answer.map .character, s)
  | .peek => (.ok (.character s.peek), s)
  | .peekNext => (.ok (.character s.peekNext), s)
  | .isAtEnd => (.ok (.flag s.isAtEnd), s)
  | .nextIs expected => let (answer, s) := s.nextIs expected; (.ok (.flag answer), s)
  | .mark => (.ok .nothing, s.mark)
  | .scanToken => let (answer, s) := s.scanToken; (answer.map fun _ => .nothing, s)
  | .string => let (answer, s) := s.string; (answer.map fun _ => .nothing, s)
  | .number => let (answer, s) := s.number; (answer.map fun _ => .nothing, s)
  | .word => (.ok .nothing, s.word)
  | .addToken kind literal => (.ok .nothing, s.addToken kind literal)
  | .record message location =>
    let (answer, s) := s.record (.error message location none none)
    (answer.map fun _ => .nothing, s)
  | .location => (.ok (.text s.location.text), s)
  | .hasErrors => (.ok (.flag s.hasErrors), s)
  | .diagnostics => (.ok (.diagnostics s.diagnostics), s)

/-- The scanner after a list of operations, whatever they answered. -/
def performAll (s : Scanner) (ops : List Operation) : Scanner :=
  ops.foldl (fun s op => (s.perform op).2) s

end Scanner

end LoxLex
