import LoxLex.CommandLine.Options

/-!
# LoxLex.Proofs.Arguments — scripts, and a flag beside them

An argument that does not begin with a dash is a script, and a run of scripts is taken as it stands.  A
verbose flag in front of the run or behind it is no part of it.

* `Spells`: how scripts are written as arguments, with the flag or without.
* `parseArguments_eq`: the scripts are read again.
-/

namespace LoxLex

/-- An argument that does not look like a flag. -/
def IsScript (s : String) : Prop := s.toList.head? ≠ some '-'

instance (s : String) : Decidable (IsScript s) := inferInstanceAs (Decidable (_ ≠ _))

/-- The spellings of the verbose flag in full. -/
def verboseSpellings : List String := ["-v", "--verbose"]

/-- The arguments are scripts; if they are verbose, a flag stands before or behind them. -/
inductive Spells (scripts : List String) : Bool → List String → Prop
  | plain : Spells scripts false scripts
  | before {flag : String} (h : flag ∈ verboseSpellings) : Spells scripts true (flag :: scripts)
  | behind {flag : String} (h : flag ∈ verboseSpellings) : Spells scripts true (scripts ++ [flag])

variable {scripts : List String} {verbose : Bool} {arguments : List String}

namespace Argument

theorem sort_script {s : String} (h : IsScript s) : sort s = .ok (.script s) := by
  unfold sort
  split
  · next hs =>
    unfold IsScript at h
    rw [hs] at h
    exact absurd rfl h
  · rfl

/-- Scripts are sorted one by one, whatever stands behind them. -/
theorem sortAll_scripts (h : ∀ s ∈ scripts, IsScript s) {more : List String} {sorted : List Argument}
    (hmore : sortAll more = .ok sorted) :
    sortAll (scripts ++ more) = .ok (scripts.map .script ++ sorted) := by
  induction scripts with
  | nil => exact hmore
  | cons s scripts ih =>
    obtain ⟨hs, hscripts⟩ := List.forall_mem_cons.mp h
    have hne : s = "--" → False := by
      rintro rfl
      exact hs rfl
    rw [List.cons_append, sortAll, sort_script hs, ih hscripts]
    · rfl
    · exact hne

theorem sortAll_verbose {flag : String} (h : flag ∈ verboseSpellings) {more : List String}
    {sorted : List Argument} (hmore : sortAll more = .ok sorted) :
    sortAll (flag :: more) = .ok (.option .verbose flag none :: sorted) := by
  simp only [verboseSpellings, List.mem_cons, List.not_mem_nil, or_false] at h
  rcases h with rfl | rfl
  all_goals
    rw [sortAll, hmore]
    · rfl
    · decide

end Argument

namespace Reading

open Argument

theorem read_nil {r : Reading} (h : r.extras = []) : read [] r = .ok (.scan r.verbose r.scripts) :=
  if_pos h

/-- What has been read behind the verbose flag, which ends a run of scripts. -/
def withFlag (r : Reading) : Reading := { r.endRun with verbose := true }

theorem read_verbose (flag : String) (more : List Argument) (r : Reading) :
    read (.option .verbose flag none :: more) r = read more r.withFlag := rfl

theorem withFlag_scripts (r : Reading) : r.withFlag.scripts = r.scripts := by
  unfold withFlag endRun
  split <;> rfl

theorem withFlag_extras (r : Reading) : r.withFlag.extras = r.extras := by
  unfold withFlag endRun
  split <;> rfl

/-- What has been read behind scripts, if no run of them has ended before. -/
def withScripts (r : Reading) (scripts : List String) : Reading :=
  { r with scripts := r.scripts ++ scripts, run := if scripts = [] then r.run else .within }

theorem read_scripts (scripts : List String) (more : List Argument) {r : Reading}
    (h : r.run ≠ .past) :
    read (scripts.map .script ++ more) r = read more (r.withScripts scripts) := by
  induction scripts generalizing r with
  | nil => simp [withScripts]
  | cons s scripts ih =>
    have hadd : r.addScript s (some s) = r.withScripts [s] := if_neg h
    rw [List.map_cons, List.cons_append, read, hadd, ih (by simp [withScripts])]
    simp [withScripts]

end Reading

/-- **Scripts are read as they are written**, and the flag beside them. -/
theorem parseArguments_eq (hscripts : ∀ s ∈ scripts, IsScript s)
    (h : Spells scripts verbose arguments) :
    parseArguments arguments = .ok (.scan verbose scripts) := by
  have hsort : ∀ {sorted}, Argument.sortAll arguments = .ok sorted →
      parseArguments arguments = Reading.read sorted .start := by
    intro sorted hsorted
    unfold parseArguments
    rw [hsorted]
    rfl
  have hnone : Argument.sortAll [] = .ok [] := rfl
  have hstart : Reading.start.run ≠ .past := by decide
  cases h with
  | plain =>
    have hall := Argument.sortAll_scripts hscripts hnone
    rw [List.append_nil] at hall
    rw [hsort hall, Reading.read_scripts scripts [] hstart]
    rfl
  | before hflag =>
    have hall := Argument.sortAll_scripts hscripts hnone
    rw [List.append_nil] at hall
    rw [hsort (Argument.sortAll_verbose hflag hall), Reading.read_verbose,
      Reading.read_scripts scripts [] (by decide)]
    rfl
  | behind hflag =>
    have hall := Argument.sortAll_scripts hscripts (Argument.sortAll_verbose hflag hnone)
    rw [hsort hall, Reading.read_scripts scripts _ hstart, Reading.read_verbose]
    -- The run of scripts is over, but nothing stands behind the flag.
    rw [Reading.read_nil (Reading.withFlag_extras _), Reading.withFlag_scripts]
    rfl

end LoxLex
