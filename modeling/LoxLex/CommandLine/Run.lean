import LoxLex.CommandLine.Options
import LoxLex.Session

/-!
# LoxLex.CommandLine.Run — the program

Without a script it is a prompt, with one it runs the file, with more it tells how it is used. Help
and version are printed and end with status zero, a mistake in the arguments with status two.
-/

namespace LoxLex.CommandLine

/-- Exit status: the arguments are wrong. -/
def argumentStatus : Nat := 2

def usage : String := "usage: " ++ About.program ++ " [-h] [--verbose] [--version] [script ...]\n"

def help : String :=
  usage ++ "\n" ++ About.purpose ++ "\n\n" ++
    "positional arguments:\n" ++
    "  script         Lox source file to scan\n\n" ++
    "options:\n" ++
    "  -h, --help     show this help message and exit\n" ++
    "  --verbose, -v  Enable debug logging\n" ++
    "  --version      show program's version number and exit\n"

/-- Scans what the scripts say, with a reporter that prints to the errors. -/
def scanScripts (verbose : Bool) (scripts : List String) (input : List Char) (disk : Disk) :
    Except OpenError (Nat × Transcript) :=
  let reporter := Reporter.new .errors
  match scripts with
  | [] =>
    let (_, said) := runPrompt verbose input reporter
    .ok (0, said)
  | [path] => (runFile verbose disk path reporter).map fun (code, _, said) => (code, said)
  | _ => .ok (usageStatus, [(.errors, "Usage: " ++ About.program ++ " [script]\n")])

/-- Runs the program: its exit status and what it wrote. -/
def execute (arguments : List String) (input : List Char) (disk : Disk) :
    Except OpenError (Nat × Transcript) :=
  match parseArguments arguments with
  | .error e =>
    .ok (argumentStatus, [(.errors, usage ++ About.program ++ ": error: " ++ e.message ++ "\n")])
  | .ok .help => .ok (0, [(.output, help)])
  | .ok .version => .ok (0, [(.output, About.program ++ " " ++ About.version ++ "\n")])
  | .ok (.scan verbose scripts) => scanScripts verbose scripts input disk

end LoxLex.CommandLine
