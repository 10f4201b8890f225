import LoxLex.Text.Quoted
import LoxLex.Unicode.Case

/-!
# LoxLex.Diagnostic — what is wrong with a source, and where

A diagnostic names its place by file and line. The scanner makes two sorts: `L001` for a character
that begins no lexeme, `L002` for a string without its closing quote. Either has a help text.
-/

namespace LoxLex

/-- A line of a source. -/
structure Location where
  file : String
  line : Int
deriving DecidableEq

namespace Location

def text (l : Location) : String := l.file ++ ":" ++ toString l.line

def description (l : Location) : String :=
  "SourceLocation(filename=" ++ quoted l.file ++ ", line=" ++ toString l.line ++ ")"

end Location

/-- A message about a place in a source. -/
structure Diagnostic where
  message : String
  location : Location
  severity : String
  code : Option String
  help : Option String
deriving DecidableEq

/-- More than one character, or none, where a single code point has to be named. -/
structure NotOneCharacter where
  length : Nat
deriving DecidableEq

namespace Diagnostic

def line (d : Diagnostic) : Int := d.location.line

/-- The report of a diagnostic: severity and message, place, and the help if there is any. -/
def text (d : Diagnostic) : String :=
  let help := match d.help with
    | none | some "" => ""
    | some help => "  help: " ++ help ++ "\n"
  Unicode.upper d.severity ++ ": " ++ d.message ++ "\n" ++
    "  --> " ++ d.location.text ++ "\n" ++ help

/-- Every field, with quotes around text. -/
def description (d : Diagnostic) : String :=
  "Diagnostic(message=" ++ quoted d.message ++ ", location=" ++ d.location.description ++
    ", severity=" ++ quoted d.severity ++ ", code=" ++ quotedOrNone d.code ++
    ", help_text=" ++ quotedOrNone d.help ++ ")"

/-- An error of the scanner. -/
def error (message : String) (location : Location) (code help : Option String) : Diagnostic :=
  ⟨message, location, "error", code, help⟩

/-- A code point in upper-case hexadecimal with at least four digits. -/
def codePointText (n : Nat) : String :=
  String.ofList ((Quoted.hex 4 n).map Char.toUpper)

/-- The help for characters that begin no lexeme. Printable text is shown; of the rest only a
single character can be named, by its code point. -/
def unexpectedHelp (chars : List Char) : Except NotOneCharacter String :=
  if chars.all Unicode.isPrintable then
    .ok ("The character '" ++ String.ofList chars ++ "' is not valid in Lox source code.")
  else match chars with
    | [c] => .ok ("Non-printable character (Unicode: U+" ++ codePointText c.toNat ++
        ") is not allowed.")
    | _ => .error ⟨chars.length⟩

/-- No lexeme begins with these characters. -/
def unexpected (chars : List Char) (location : Location) : Except NotOneCharacter Diagnostic :=
  (unexpectedHelp chars).map fun help =>
    error "Unexpected character." location (some "L001") (some help)

/-- A string runs off the end of the source. -/
def unterminated (location : Location) : Diagnostic :=
  error "Unterminated string. Close it with a double-quote." location (some "L002")
    (some "String literals must be closed with a matching \" quote.")

end Diagnostic

namespace NotOneCharacter

def message (e : NotOneCharacter) : String :=
  "ord() expected a character, but string of length " ++ toString e.length ++ " found"

end NotOneCharacter

end LoxLex
