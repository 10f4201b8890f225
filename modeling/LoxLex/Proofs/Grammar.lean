import LoxLex.Text.Ascii
import Mathlib.Computability.Language

/-!
# LoxLex.Proofs.Grammar — the languages of the lexemes

The lexical grammar as nine formal languages, written as one writes the regular expressions:
`[!=<>]=?`, `"[^"]*"`, `[0-9]+(\.[0-9]+)?` and so on.  No rule of the scanner is mentioned.  For each
language a lemma `mem_…` says by its characters which texts belong to it; later modules use only
these.
-/

namespace LoxLex

open Computability

/-- The sorts of text that the grammar knows. -/
inductive Pattern where
  | blank | newline | comment | punctuation | slash | operator | string | number | word
deriving DecidableEq

namespace Pattern

/-- The texts of one character of a class. -/
def one (p : Char → Prop) : Language Char := {w | ∃ c, p c ∧ w = [c]}

/-- The texts of one digit or more. -/
def digits : Language Char := one (isDigit · = true) * (one (isDigit · = true))∗

/-- The ten punctuation characters. -/
def punctuationChars : List Char := ['(', ')', '{', '}', ',', '.', '-', '+', ';', '*']

/-- The four characters that are operators alone or before an equals sign. -/
def operatorChars : List Char := ['!', '=', '<', '>']

/-- The texts of each sort. -/
def language : Pattern → Language Char
  | .blank => one (· ∈ [' ', '\t', '\r'])
  | .newline => {['\n']}
  | .comment => {['/', '/']} * (one (· ≠ '\n'))∗
  | .punctuation => one (· ∈ punctuationChars)
  | .slash => {['/']}
  | .operator => one (· ∈ operatorChars) * (1 + {['=']})
  | .string => {['"']} * ((one (· ≠ '"'))∗ * {['"']})
  | .number => digits * (1 + {['.']} * digits)
  | .word => one (isLetter · = true) * (one (isWordChar · = true))∗

/-! ### Texts by their characters -/

theorem mem_singleton {v w : List Char} : w ∈ ({v} : Language Char) ↔ w = v := Iff.rfl

/-- A run of characters of a class. -/
theorem mem_run {p : Char → Prop} {w : List Char} : w ∈ (one p)∗ ↔ ∀ c ∈ w, p c := by
  rw [Language.mem_kstar]
  constructor
  · rintro ⟨L, rfl, hL⟩ c hc
    obtain ⟨v, hv, hcv⟩ := List.mem_flatten.mp hc
    obtain ⟨d, hd, rfl⟩ := hL v hv
    rw [List.mem_singleton.mp hcv]
    exact hd
  · intro h
    refine ⟨w.map ([·]), ?_, ?_⟩
    · induction w with
      | nil => rfl
      | cons c w ih =>
        simp only [List.map_cons, List.flatten_cons, List.singleton_append]
        rw [← ih fun d hd => h d (List.mem_cons_of_mem c hd)]
    · intro v hv
      obtain ⟨c, hc, rfl⟩ := List.mem_map.mp hv
      exact ⟨c, h c hc, rfl⟩

/-- A character of one class before a run of another. -/
theorem mem_one_mul_run {p q : Char → Prop} {w : List Char} :
    w ∈ one p * (one q)∗ ↔ ∃ c cs, w = c :: cs ∧ p c ∧ ∀ d ∈ cs, q d := by
  rw [Language.mem_mul]
  constructor
  · rintro ⟨a, ⟨c, hc, rfl⟩, b, hb, rfl⟩
    exact ⟨c, b, rfl, hc, mem_run.mp hb⟩
  · rintro ⟨c, cs, rfl, hc, hcs⟩
    exact ⟨[c], ⟨c, hc, rfl⟩, cs, mem_run.mpr hcs, rfl⟩

theorem mem_blank {w : List Char} :
    w ∈ blank.language ↔ ∃ c ∈ [' ', '\t', '\r'], w = [c] := Iff.rfl

theorem mem_newline {w : List Char} : w ∈ newline.language ↔ w = ['\n'] := Iff.rfl

theorem mem_punctuation {w : List Char} :
    w ∈ punctuation.language ↔ ∃ c ∈ punctuationChars, w = [c] := Iff.rfl

theorem mem_slash {w : List Char} : w ∈ slash.language ↔ w = ['/'] := Iff.rfl

theorem mem_comment {w : List Char} :
    w ∈ comment.language ↔ ∃ body, w = '/' :: '/' :: body ∧ '\n' ∉ body := by
  show w ∈ ({['/', '/']} : Language Char) * (one (· ≠ '\n'))∗ ↔ _
  rw [Language.mem_mul]
  constructor
  · rintro ⟨a, rfl, body, hb, rfl⟩
    exact ⟨body, rfl, fun h => mem_run.mp hb _ h rfl⟩
  · rintro ⟨body, rfl, hb⟩
    refine ⟨['/', '/'], rfl, body, mem_run.mpr ?_, rfl⟩
    rintro c hc rfl
    exact hb hc

theorem mem_operator {w : List Char} :
    w ∈ operator.language ↔ ∃ c ∈ operatorChars, w = [c] ∨ w = [c, '='] := by
  show w ∈ one (· ∈ operatorChars) * (1 + {['=']}) ↔ _
  rw [Language.mem_mul]
  constructor
  · rintro ⟨a, ⟨c, hc, rfl⟩, b, hb | hb, rfl⟩
    · exact ⟨c, hc, Or.inl (by rw [(Language.mem_one b).mp hb]; rfl)⟩
    · exact ⟨c, hc, Or.inr (by rw [mem_singleton.mp hb]; rfl)⟩
  · rintro ⟨c, hc, rfl | rfl⟩
    · exact ⟨[c], ⟨c, hc, rfl⟩, [], Or.inl rfl, rfl⟩
    · exact ⟨[c], ⟨c, hc, rfl⟩, ['='], Or.inr rfl, rfl⟩

theorem mem_string {w : List Char} :
    w ∈ string.language ↔ ∃ body, w = '"' :: (body ++ ['"']) ∧ '"' ∉ body := by
  show w ∈ ({['"']} : Language Char) * ((one (· ≠ '"'))∗ * {['"']}) ↔ _
  rw [Language.mem_mul]
  constructor
  · rintro ⟨a, rfl, b, hb, rfl⟩
    obtain ⟨body, hbody, q, rfl, rfl⟩ := Language.mem_mul.mp hb
    exact ⟨body, rfl, fun h => mem_run.mp hbody _ h rfl⟩
  · rintro ⟨body, rfl, hb⟩
    refine ⟨['"'], rfl, body ++ ['"'], ?_, rfl⟩
    refine Language.append_mem_mul (mem_run.mpr ?_) rfl
    rintro c hc rfl
    exact hb hc

/-- `w` is a digit or more. -/
theorem mem_digits {w : List Char} :
    w ∈ digits ↔ ∃ d ds, w = d :: ds ∧ isDigit d = true ∧ ∀ c ∈ ds, isDigit c = true :=
  mem_one_mul_run

theorem isDigit_of_mem_digits {w : List Char} (h : w ∈ digits) : ∀ c ∈ w, isDigit c = true := by
  obtain ⟨d, ds, rfl, hd, hds⟩ := mem_digits.mp h
  exact List.forall_mem_cons.mpr ⟨hd, hds⟩

theorem mem_number {w : List Char} :
    w ∈ number.language ↔
      ∃ whole ∈ digits, w = whole ∨ ∃ fraction ∈ digits, w = whole ++ '.' :: fraction := by
  show w ∈ digits * (1 + {['.']} * digits) ↔ _
  rw [Language.mem_mul]
  constructor
  · rintro ⟨whole, hw, b, hb | hb, rfl⟩
    · refine ⟨whole, hw, Or.inl ?_⟩
      rw [(Language.mem_one b).mp hb, List.append_nil]
    · obtain ⟨p, rfl, fraction, hf, rfl⟩ := Language.mem_mul.mp hb
      exact ⟨whole, hw, Or.inr ⟨fraction, hf, rfl⟩⟩
  · rintro ⟨whole, hw, rfl | ⟨fraction, hf, rfl⟩⟩
    · exact ⟨w, hw, [], Or.inl rfl, List.append_nil w⟩
    · exact ⟨whole, hw, '.' :: fraction, Or.inr ⟨['.'], rfl, fraction, hf, rfl⟩, rfl⟩

theorem isDigit_of_mem_number {c : Char} {cs : List Char} (h : c :: cs ∈ number.language) :
    isDigit c = true := by
  obtain ⟨whole, hw, h⟩ := mem_number.mp h
  obtain ⟨d, ds, rfl, hd, -⟩ := mem_digits.mp hw
  rcases h with h | ⟨fraction, -, h⟩ <;> rw [(List.cons.inj h).1] <;> exact hd

theorem mem_word {w : List Char} :
    w ∈ word.language ↔
      ∃ c cs, w = c :: cs ∧ isLetter c = true ∧ ∀ d ∈ cs, isWordChar d = true :=
  mem_one_mul_run

end Pattern

end LoxLex
