import LoxLex.Files.Disk
import LoxLex.Reporter
import LoxLex.Scanner.Scan

/-!
# LoxLex.Runner — scanning for the user

A run scans a source with a reporter listening and prints its tokens, one a line. Files are run
whole, prompts line by line, each line as a source of its own with the reporter reset behind it.
The exit status tells a file that cannot be read from one with errors and from one without.
-/

namespace LoxLex

/-- Exit status: the command line is wrong. -/
def usageStatus : Nat := 64

/-- Exit status: the source has errors. -/
def dataStatus : Nat := 65

/-- Exit status: the source cannot be read. -/
def unreadableStatus : Nat := 66

/-- The name of a source that is typed in. -/
def typedIn : String := "<stdin>"

/-- Scans a source with a reporter listening. -/
def listen (verbose : Bool) (source : List Char) (file : String) (r : Reporter) :
    ScanResult × Reporter × Transcript :=
  let s := Scanner.scanned source file (some .patient)
  (s.result, r.takeAll verbose s.events.toList)

/-- Scans a source and prints its tokens. -/
def run (verbose : Bool) (source : List Char) (file : String) (r : Reporter) :
    List Token × Reporter × Transcript :=
  let (result, r, said) := listen verbose source file r
  (result.tokens, r, said ++ result.tokens.map fun t => (.output, t.text ++ "\n"))

/-- Runs a file and says how it went. A path that is none at all is not reported but refused. -/
def runFile (verbose : Bool) (disk : Disk) (path : String) (r : Reporter) :
    Except OpenError (Nat × Reporter × Transcript) :=
  match disk.readText path with
  | .ok source =>
    let (_, r, said) := run verbose source path r
    .ok (if r.hadError then dataStatus else 0, r, said)
  | .error (.unopened ⟨path, .embeddedNul⟩) => .error ⟨path, .embeddedNul⟩
  | .error e =>
    .ok (unreadableStatus, r, [(.errors, "Cannot read " ++ path ++ ": " ++ e.message ++ "\n")])

/-- Asks for a line. -/
def ask : Channel × String := (.output, "> ")

/-- Runs one line that was typed in. -/
def runLine (verbose : Bool) (line : List Char) (r : Reporter) : Reporter × Transcript :=
  let (_, r, said) := run verbose line typedIn r
  (r.reset, ask :: said)

/-- Runs lines that were typed in. -/
def runLines (verbose : Bool) : List (List Char) → Reporter → Reporter × Transcript
  | [], r => (r, [])
  | line :: lines, r =>
    let (r, said) := runLine verbose line r
    let (r, more) := runLines verbose lines r
    (r, said ++ more)

/-- Runs all that is typed in, line by line, until the input ends. -/
def runPrompt (verbose : Bool) (input : List Char) (r : Reporter) : Reporter × Transcript :=
  let (r, said) := runLines verbose (Lines.split input) r
  (r, said ++ [ask, (.output, "\n")])

end LoxLex
