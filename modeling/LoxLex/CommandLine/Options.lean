import LoxLex.About
import LoxLex.Text.Quoted
import LoxLex.Unicode.Digit

/-!
# LoxLex.CommandLine.Options — flags and scripts

No flag takes a value. Long flags may be cut short as long as they stay unambiguous, short ones may
be run together, and `--` ends the flags. An argument that starts with a dash is still a script if
it is a single dash, a negative number, or has a space in it. All arguments are sorted before the
first flag takes effect, so an ambiguous flag is an error even behind `--help`; help and version end
the reading at once. Scripts are taken from one run of neighbouring arguments; what is left over is
an error.
-/

namespace LoxLex

/-- What can be asked for by a flag. -/
inductive Flag where
  | help
  | verbose
  | version
deriving DecidableEq

namespace Flag

/-- Every way to write a flag, in the order in which they are tried. -/
def spellings : List (String × Flag) :=
  [("-h", .help), ("--help", .help), ("--verbose", .verbose), ("-v", .verbose),
   ("--version", .version)]

/-- All spellings of a flag, as errors name it. -/
def title (flag : Flag) : String :=
  "/".intercalate ((spellings.filter (·.2 = flag)).map (·.1))

end Flag

/-- A mistake in the arguments. -/
inductive UsageError where
  | ambiguous (argument : String) (candidates : List String)
  | ignoredValue (flag : Flag) (value : String)
  | unrecognized (arguments : List String)
deriving DecidableEq

def UsageError.message : UsageError → String
  | .ambiguous argument candidates =>
    "ambiguous option: " ++ argument ++ " could match " ++ ", ".intercalate candidates
  | .ignoredValue flag value =>
    "argument " ++ flag.title ++ ": ignored explicit argument " ++ quoted value
  | .unrecognized arguments => "unrecognized arguments: " ++ " ".intercalate arguments

/-- An argument, sorted. -/
inductive Argument where
  | script (text : String)
  | separator
  | option (flag : Flag) (spelling : String) (value : Option String)
  | unknown (text : String)
deriving DecidableEq

namespace Argument

/-- A minus, digits of any script, and perhaps a point before the last of them; a newline may
follow. -/
def isNegativeNumber (cs : List Char) : Bool :=
  let digit c := (Unicode.digitValue? c).isSome
  match cs with
  | '-' :: rest =>
    let body := if rest.getLast? = some '\n' then rest.dropLast else rest
    match body.dropWhile digit with
    | [] => !body.isEmpty
    | '.' :: fraction => !fraction.isEmpty && fraction.all digit
    | _ => false
  | _ => false

/-- The text up to the first equals sign, and what follows it. -/
def splitValue (s : String) : String × Option String :=
  let cs := s.toList
  let name := String.ofList (cs.takeWhile (· ≠ '='))
  match cs.dropWhile (· ≠ '=') with
  | [] => (name, none)
  | _ :: value => (name, some (String.ofList value))

/-- The flags that an argument may stand for without being one as it stands: a long one cut short,
or a short one with something behind it. -/
def candidates (s : String) : List (String × Flag × Option String) :=
  match s.toList with
  | '-' :: '-' :: _ =>
    let (name, value) := splitValue s
    Flag.spellings.filterMap fun (spelling, flag) =>
      if name.toList.isPrefixOf spelling.toList then some (spelling, flag, value) else none
  | '-' :: c :: behind =>
    Flag.spellings.filterMap fun (spelling, flag) =>
      if spelling = String.ofList ['-', c] then
        some (spelling, flag, some (String.ofList behind))
      else if s.toList.isPrefixOf spelling.toList then some (spelling, flag, none)
      else none
  | _ => []

/-- The flag that an argument names in full, perhaps with a value. -/
def inFull? (s : String) : Option Argument :=
  match Flag.spellings.lookup s with
  | some flag => some (.option flag s none)
  | none =>
    let (name, value) := splitValue s
    match Flag.spellings.lookup name with
    | some flag => some (.option flag name value)
    | none => none

/-- Sorts one argument. -/
def sort (s : String) : Except UsageError Argument :=
  match s.toList with
  | '-' :: _ :: _ => match inFull? s with
    | some argument => .ok argument
    | none => match candidates s with
      | [(spelling, flag, value)] => .ok (.option flag spelling value)
      | [] =>
        if isNegativeNumber s.toList || s.toList.contains ' ' then .ok (.script s)
        else .ok (.unknown s)
      | several => .error (.ambiguous s (several.map (·.1)))
  | _ => .ok (.script s)

/-- Sorts all arguments; behind the first `--` there are only scripts. -/
def sortAll : List String → Except UsageError (List Argument)
  | [] => .ok []
  | "--" :: more => .ok (.separator :: more.map .script)
  | s :: more => do
    let argument ← sort s
    let arguments ← sortAll more
    .ok (argument :: arguments)

end Argument

namespace Flag

/-- A short flag and what is run together with it: each further character must be a short flag. -/
def cluster (flag : Flag) : List Char → Except UsageError (List Flag)
  | [] => .ok [flag]
  | c :: behind => match spellings.lookup (String.ofList ['-', c]) with
    | some next => (cluster next behind).map (flag :: ·)
    | none => .error (.ignoredValue flag (String.ofList (c :: behind)))

/-- The flags that one argument stands for. A long flag takes no value, and a short one no empty
value. -/
def expand (flag : Flag) (spelling : String) : Option String → Except UsageError (List Flag)
  | none => .ok [flag]
  | some value =>
    if value = "" || spelling.toList.take 2 = ['-', '-'] then .error (.ignoredValue flag value)
    else cluster flag value.toList

end Flag

/-- What the arguments ask for. -/
inductive Request where
  | help
  | version
  | scan (verbose : Bool) (scripts : List String)
deriving DecidableEq

/-- How far the run of scripts has come. -/
inductive ScriptRun where
  | ahead
  | within
  | past
deriving DecidableEq

/-- What has been read of the arguments. -/
structure Reading where
  verbose : Bool
  scripts : List String
  run : ScriptRun
  extras : List String
deriving DecidableEq

namespace Reading

def start : Reading := ⟨false, [], .ahead, []⟩

/-- Reads a script, or the separator, which is none. -/
def addScript (text : String) (script : Option String) (r : Reading) : Reading :=
  if r.run = .past then { r with extras := r.extras ++ [text] }
  else { r with scripts := r.scripts ++ script.toList, run := .within }

/-- A flag ends a run of scripts. -/
def endRun (r : Reading) : Reading := if r.run = .within then { r with run := .past } else r

/-- Lets flags take effect, one after the other, up to one that ends the reading. -/
def apply : List Flag → Reading → Except Request Reading
  | [], r => .ok r
  | .help :: _, _ => .error .help
  | .version :: _, _ => .error .version
  | .verbose :: flags, r => apply flags { r with verbose := true }

/-- Reads sorted arguments. -/
def read : List Argument → Reading → Except UsageError Request
  | [], r => if r.extras = [] then .ok (.scan r.verbose r.scripts) else .error (.unrecognized r.extras)
  | argument :: more, r => match argument with
    | .script text => read more (r.addScript text (some text))
    | .separator => read more (r.addScript "--" none)
    | .unknown text => read more { r.endRun with extras := r.extras ++ [text] }
    | .option flag spelling value => match flag.expand spelling value with
      | .error e => .error e
      | .ok flags => match apply flags r.endRun with
        | .ok r => read more r
        | .error request => .ok request

end Reading

/-- What a list of arguments asks for. -/
def parseArguments (arguments : List String) : Except UsageError Request := do
  let sorted ← Argument.sortAll arguments
  Reading.read sorted .start

end LoxLex
