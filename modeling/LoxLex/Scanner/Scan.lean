import LoxLex.Scanner.Rules

/-!
# LoxLex.Scanner.Scan — the whole source

A scan starts over whatever came before, reads lexeme after lexeme, records the lexical errors and
goes on behind them, and closes with the token for the end of input and a summary in the log. Every
lexeme has a character at least, so the length of the source bounds their number.
-/

namespace LoxLex

namespace Scanner

/-- The scanner at the beginning of its source, with nothing gathered. What it told the outside
before stays told. -/
def restart (s : Scanner) : Scanner :=
  { s with start := 0, current := 0, line := 1, tokens := #[], diagnostics := #[] }

/-- Reads the next lexeme and records a lexical error in it; any other fault goes on. -/
def scanLexeme (s : Scanner) : Except Fault Unit × Scanner :=
  match s.mark.scanToken with
  | (.error (.lexical d), s) => s.record d
  | answer => answer

/-- Reads lexemes up to the end, at most `budget` of them. -/
def scanLexemes : Nat → Scanner → Except Fault Unit × Scanner
  | 0, s => (.ok (), s)
  | budget + 1, s =>
    if s.isAtEnd then (.ok (), s)
    else match s.scanLexeme with
      | (.ok (), s) => scanLexemes budget s
      | (.error fault, s) => (.error fault, s)

/-- Closes a scan. -/
def finish (s : Scanner) : Scanner :=
  let s := { s with tokens := s.tokens.push (.endOfInput s.line) }
  s.addRecord (.summary s.file s.tokens.size s.diagnostics.size)

/-- Scans the whole source from its beginning. -/
def scan (s : Scanner) : Except Fault (Array Token) × Scanner :=
  let s := s.restart
  match scanLexemes s.source.length s with
  | (.ok (), s) => let s := s.finish; (.ok s.tokens, s)
  | (.error fault, s) => (.error fault, s)

end Scanner

/-- What a scan found. -/
structure ScanResult where
  tokens : List Token
  diagnostics : List Diagnostic
deriving DecidableEq

namespace ScanResult

def hasErrors (r : ScanResult) : Bool := !r.diagnostics.isEmpty

/-- Insists on a source without errors: the first diagnostic is the fault. -/
def check (r : ScanResult) : Except Fault Unit :=
  match r.diagnostics with
  | [] => .ok ()
  | d :: _ => .error (.lexical d)

end ScanResult

/-- The scanner after a scan of a source with a name. -/
def Scanner.scanned (source : List Char) (file : String) (listener : Option Listener) : Scanner :=
  (Scanner.new source file listener).scan.2

namespace Scanner

def result (s : Scanner) : ScanResult := ⟨s.tokens.toList, s.diagnostics.toList⟩

end Scanner

/-- The tokens and diagnostics of a source with a name. -/
def scanSource (source : List Char) (file : String) : ScanResult :=
  (Scanner.scanned source file none).result

/-- The tokens of a source. -/
def scan (source : List Char) : List Token := (scanSource source Scanner.unnamed).tokens

end LoxLex
