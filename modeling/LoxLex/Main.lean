import LoxLex.CommandLine.Run
import LoxLex.Files.Tree

/-!
# LoxLex.Main — the command line

Reads the script that the arguments name, or what is typed in, and prints what the program writes.
Typed lines are answered one by one.
-/

namespace LoxLex.CommandLine

/-- The disk as opening one path of it shows it. -/
def diskAt (path : String) : IO Disk := do
  let opened ← (IO.FS.readBinFile path).toBaseIO
  let answer : Except OpenCause Bytes ← match opened with
    | .ok bytes => pure (.ok bytes.toList)
    | .error (.noFileOrDirectory ..) => pure (.error .notFound)
    | .error (.inappropriateType _ code _) =>
      pure (.error (if code = 21 then .isDirectory else .notDirectory))
    | .error e@(.invalidArgument _ code _) =>
      if code = 36 || code = -36 then pure (.error .nameTooLong) else throw e
    | .error e => throw e
  return ⟨fun path => answer.mapError fun cause => ⟨path, cause⟩⟩

/-- Writes a transcript. -/
def say (said : Transcript) : IO Unit := do
  let out ← IO.getStdout
  let err ← IO.getStderr
  for (channel, text) in said do
    match channel with
    | .output => out.putStr text
    | .errors | .reports => err.putStr text
  out.flush

/-- Answers typed lines until the input ends. -/
partial def answerLines (verbose : Bool) (reporter : Reporter) : IO Unit := do
  say [ask]
  let line ← (← IO.getStdin).getLine
  if line.isEmpty then say [(.output, "\n")]
  else
    let lines := Lines.split (Lines.unify line.toList)
    let (reporter, said) := runLines verbose lines reporter
    say (said.drop 1)
    answerLines verbose reporter

end LoxLex.CommandLine

open LoxLex LoxLex.CommandLine in
/-- Runs the program. -/
def main (arguments : List String) : IO UInt32 := do
  match parseArguments arguments with
  | .ok (.scan verbose []) =>
    answerLines verbose (.new .errors)
    return 0
  | request =>
    let disk ← match request with
      | .ok (.scan _ [path]) => diskAt path
      | _ => pure FileTree.empty.disk
    match execute arguments [] disk with
    | .ok (code, said) =>
      say said
      return code.toUInt32
    | .error e =>
      say [(.errors, e.message ++ "\n")]
      return 1
