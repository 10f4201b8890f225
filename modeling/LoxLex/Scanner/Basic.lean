import LoxLex.CharClass
import LoxLex.Diagnostic
import LoxLex.Token.Basic

/-!
# LoxLex.Scanner.Basic — a cursor over a source, and what a scan has gathered

A scanner holds its source, two positions in it (`start`, where the present lexeme begins, and
`current`, the next character to read), the line, and the tokens and diagnostics so far. What it
told the outside, log records and calls of its listener, stays in `events` in the order in which it
happened. Positions count characters. An operation answers with a value or a fault, and in either
case with the scanner as it then is.
-/

namespace LoxLex

/-- Who is told of each diagnostic. A listener notes every call and may refuse to go on; `refuses n`
says so of its `n`th call, counted from one. -/
structure Listener where
  refuses : Nat → Bool

namespace Listener

/-- A listener that takes every call. -/
def patient : Listener := ⟨fun _ => false⟩

/-- A listener that refuses its `n`th call. -/
def refusingAt (n : Nat) : Listener := ⟨(· == n)⟩

end Listener

/-- What a scanner writes to its log. -/
inductive LogRecord where
  | diagnostic (location : Location) (message : String)
  | summary (file : String) (tokens diagnostics : Nat)
deriving DecidableEq

/-- A line of the log. -/
def LogRecord.text (r : LogRecord) : String :=
  "DEBUG pylox.lexer.scanner: " ++ match r with
    | .diagnostic location message => location.text ++ ": " ++ message
    | .summary file tokens diagnostics =>
      "scanned " ++ file ++ ": " ++ toString tokens ++ " tokens, " ++ toString diagnostics ++
        " errors"

/-- A call of a listener: the line of a diagnostic and its message. -/
structure Report where
  line : Int
  message : String
deriving DecidableEq

/-- What a scanner tells the outside. -/
inductive Event where
  | logged (record : LogRecord)
  | reported (report : Report)
deriving DecidableEq

namespace Event

def record? : Event → Option LogRecord
  | .logged record => some record
  | .reported _ => none

def report? : Event → Option Report
  | .logged _ => none
  | .reported report => some report

end Event

/-- Why an operation stopped. -/
inductive Fault where
  | outOfRange
  | notNumeral (text : String)
  | notOneCharacter (error : NotOneCharacter)
  | lexical (diagnostic : Diagnostic)
  | refused (call : Nat)
deriving DecidableEq

/-- One sentence about a fault; for a lexical one, the report of its diagnostic. -/
def Fault.message : Fault → String
  | .outOfRange => "string index out of range"
  | .notNumeral text => "could not convert string to float: " ++ quoted text
  | .notOneCharacter error => error.message
  | .lexical diagnostic => diagnostic.text
  | .refused call => "sink call " ++ toString call

/-- A scanner at some point of its work. -/
structure Scanner where
  source : List Char
  file : String
  listener : Option Listener
  start : Nat
  current : Nat
  line : Nat
  tokens : Array Token
  diagnostics : Array Diagnostic
  events : Array Event

namespace Scanner

/-- A scanner that has not begun. -/
def new (source : List Char) (file : String) (listener : Option Listener) : Scanner :=
  ⟨source, file, listener, 0, 0, 1, #[], #[], #[]⟩

/-- The file name of a scanner that was given none. -/
def unnamed : String := "<unknown>"

/-- What is still to be read. -/
def rest (s : Scanner) : List Char := s.source.drop s.current

/-- The source from one position up to another; nothing if they cross. -/
def slice (s : Scanner) (first last : Nat) : String :=
  String.ofList ((s.source.drop first).take (last - first))

/-- The present lexeme. -/
def lexeme (s : Scanner) : String := s.slice s.start s.current

def location (s : Scanner) : Location := ⟨s.file, s.line⟩

def isAtEnd (s : Scanner) : Bool := s.rest.isEmpty

def hasErrors (s : Scanner) : Bool := !s.diagnostics.isEmpty

/-- The log so far. -/
def log (s : Scanner) : Array LogRecord := s.events.filterMap Event.record?

/-- The calls of the listener so far. -/
def reports (s : Scanner) : Array Report := s.events.filterMap Event.report?

/-- Where a character past the end is asked for, this one stands in. -/
def sentinel : Char := '\x00'

/-- The next character. -/
def peek (s : Scanner) : Char := s.rest.headD sentinel

/-- The character after the next. -/
def peekNext (s : Scanner) : Char := (s.rest.drop 1).headD sentinel

/-- Passes over `n` characters. -/
def skip (n : Nat) (s : Scanner) : Scanner := { s with current := s.current + n }

/-- Begins a lexeme at the present position. -/
def mark (s : Scanner) : Scanner := { s with start := s.current }

/-- The next character, which is passed over. At the end the position moves too, and then there is
no character to answer with. -/
def advance (s : Scanner) : Except Fault Char × Scanner :=
  match s.rest with
  | c :: _ => (.ok c, s.skip 1)
  | [] => (.error .outOfRange, s.skip 1)

/-- Is the next character the expected text? If so it is passed over. -/
def nextIs (expected : String) (s : Scanner) : Bool × Scanner :=
  match s.rest with
  | c :: _ => if expected.toList = [c] then (true, s.skip 1) else (false, s)
  | [] => (false, s)

/-- Adds the present lexeme as a token on the present line. -/
def addToken (kind : TokenKind) (literal : Literal) (s : Scanner) : Scanner :=
  { s with tokens := s.tokens.push ⟨kind, s.lexeme, literal, s.line⟩ }

/-- Adds a record to the log. -/
def addRecord (record : LogRecord) (s : Scanner) : Scanner :=
  { s with events := s.events.push (.logged record) }

/-- Tells the listener, if there is one, of a diagnostic. -/
def notify (report : Report) (s : Scanner) : Except Fault Unit × Scanner :=
  match s.listener with
  | none => (.ok (), s)
  | some listener =>
    let s := { s with events := s.events.push (.reported report) }
    let call := s.reports.size
    (if listener.refuses call then .error (.refused call) else .ok (), s)

/-- Keeps a diagnostic, logs it and passes it on. -/
def record (d : Diagnostic) (s : Scanner) : Except Fault Unit × Scanner :=
  let s := { s with diagnostics := s.diagnostics.push d }
  (s.addRecord (.diagnostic d.location d.message)).notify ⟨d.line, d.message⟩

end Scanner

end LoxLex
