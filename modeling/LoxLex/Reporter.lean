import LoxLex.Scanner.Basic

/-!
# LoxLex.Reporter — diagnostics for the user

A reporter prints one line for each diagnostic and remembers, until it is reset, what it printed
and whether anything went wrong. Texts go to one of three channels: the program's output, its
errors, and a stream of the reporter's own.
-/

namespace LoxLex

/-- Where a text is written. -/
inductive Channel where
  | output
  | errors
  | reports
deriving DecidableEq

/-- Texts in the order in which they were written. -/
abbrev Transcript := List (Channel × String)

namespace Transcript

/-- All that was written to one channel. -/
def on (channel : Channel) (t : Transcript) : String :=
  String.join ((t.filter (·.1 = channel)).map (·.2))

end Transcript

/-- What a reporter remembers, and where it prints. -/
structure Reporter where
  channel : Channel
  reports : List Report
  hadError : Bool
deriving DecidableEq

namespace Reporter

/-- A reporter that has nothing to remember. -/
def new (channel : Channel) : Reporter := ⟨channel, [], false⟩

/-- The line that is printed for a report; `place` says more about where the error is. -/
def line (place : String) (r : Report) : String :=
  "[line " ++ toString r.line ++ "] Error" ++ place ++ ": " ++ r.message ++ "\n"

/-- Prints a report and remembers it. -/
def report (place : String) (report : Report) (r : Reporter) : Reporter × Transcript :=
  ({ r with reports := r.reports ++ [report], hadError := true },
    [(r.channel, line place report)])

/-- Forgets what was reported. -/
def reset (r : Reporter) : Reporter := { r with reports := [], hadError := false }

/-- Takes what a scanner told the outside: a report is reported, and a record of the log is written
if it is asked for. -/
def take (verbose : Bool) (event : Event) (r : Reporter) : Reporter × Transcript :=
  match event with
  | .logged record => (r, if verbose then [(.errors, record.text ++ "\n")] else [])
  | .reported report => r.report "" report

/-- Takes all that a scanner told the outside, in its order. -/
def takeAll (verbose : Bool) : List Event → Reporter → Reporter × Transcript
  | [], r => (r, [])
  | event :: events, r =>
    let (r, said) := r.take verbose event
    let (r, more) := takeAll verbose events r
    (r, said ++ more)

end Reporter

end LoxLex
