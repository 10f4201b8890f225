import LoxLex.Runner

/-!
# LoxLex.Session — one reporter, many runs

A reporter may be used for reports of its own, for runs, files and prompts, and as the listener of
a scan, in any order. Every step answers, prints, and leaves the reporter to the next.
-/

namespace LoxLex

/-- A use of a reporter. -/
inductive SessionStep where
  | report (place : String) (report : Report)
  | reset
  | run (source : List Char) (file : String)
  | runFile (path : String)
  | runPrompt (input : List Char)
  | scan (source : List Char)
deriving DecidableEq

/-- What a step answers. -/
inductive SessionAnswer where
  | nothing
  | tokens (tokens : List Token)
  | status (code : Nat)
  | flag (b : Bool)
deriving DecidableEq

/-- The name of a source that is handed over as text. -/
def handedOver : String := "<string>"

namespace Reporter

/-- Takes one step. -/
def perform (disk : Disk) (step : SessionStep) (r : Reporter) :
    Except OpenError SessionAnswer × Reporter × Transcript :=
  match step with
  | .report place report => (.ok .nothing, r.report place report)
  | .reset => (.ok .nothing, r.reset, [])
  | .run source file =>
    let (tokens, r, said) := LoxLex.run false source file r
    (.ok (.tokens tokens), r, said)
  | .runFile path => match LoxLex.runFile false disk path r with
    | .ok (code, r, said) => (.ok (.status code), r, said)
    | .error e => (.error e, r, [])
  | .runPrompt input =>
    let (r, said) := LoxLex.runPrompt false input r
    (.ok (.status 0), r, said)
  | .scan source =>
    let (result, r, said) := listen false source handedOver r
    (.ok (.flag result.hasErrors), r, said)

/-- Takes a list of steps: what each answered and printed, with the reporter after it. -/
def performAll (disk : Disk) :
    List SessionStep → Reporter → List (Except OpenError SessionAnswer × Reporter × Transcript)
  | [], _ => []
  | step :: steps, r =>
    let (answer, r, said) := r.perform disk step
    (answer, r, said) :: performAll disk steps r

end Reporter

end LoxLex
