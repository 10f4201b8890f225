import LoxLex.Diagnostic
import Mathlib.Data.Nat.Digits.Lemmas

/-!
# LoxLex.Proofs.StrayHelp — the help for a character that begins no lexeme

The help shows a character that is printable, and names any other by its code point.  The code point is
spelled here from the digits of a number in base sixteen, and what is spelled can be read again, so no two
characters have the same help.

* `Diagnostic.codePointText_eq`: a code point is spelled as `hexadecimal` spells it.
* `Diagnostic.unexpected_singleton`: a single character gets the diagnostic `Diagnostic.stray`.
* `Diagnostic.strayHelp_injective`: the help tells the character.
-/

namespace LoxLex

namespace Diagnostic

variable {n d : ℕ}

/-! ### Code points in base sixteen -/

/-- The digits of base sixteen. -/
def hexDigits : List Char :=
  ['0', '1', '2', '3', '4', '5', '6', '7', '8', '9', 'A', 'B', 'C', 'D', 'E', 'F']

/-- A number in base sixteen, filled up with zeros to four digits. -/
def hexadecimal (n : ℕ) : List Char :=
  ((Nat.digits 16 n).reverse.leftpad 4 0).map (hexDigits.getD · '0')

theorem toUpper_digitChar (h : d < 16) : d.digitChar.toUpper = hexDigits.getD d '0' := by
  have table : ∀ d < 16, d.digitChar.toUpper = hexDigits.getD d '0' := by decide
  exact table d h

theorem map_toUpper_toDigits (h : 0 < n) :
    (Nat.toDigits 16 n).map Char.toUpper =
      (Nat.digits 16 n).reverse.map (hexDigits.getD · '0') := by
  induction n using Nat.strongRecOn with
  | ind n ih =>
    rw [Nat.toDigits_eq_if (by decide), Nat.digits_def' (by decide) h, List.reverse_cons,
      List.map_append, List.map_singleton]
    split
    · next hlt =>
      rw [Nat.div_eq_of_lt hlt, Nat.mod_eq_of_lt hlt, List.map_singleton, toUpper_digitChar hlt]
      rfl
    · next hge =>
      rw [List.map_append, List.map_singleton, toUpper_digitChar (Nat.mod_lt n (by decide)),
        ih (n / 16) (by omega) (by omega)]

/-- **A code point is spelled in base sixteen**, with capital letters and at least four digits. -/
theorem codePointText_eq (n : ℕ) : codePointText n = String.ofList (hexadecimal n) := by
  rcases Nat.eq_zero_or_pos n with rfl | h
  · decide
  · have hmap := map_toUpper_toDigits h
    have hlength : (Nat.toDigits 16 n).length = (Nat.digits 16 n).reverse.length := by
      simpa only [List.length_map] using congrArg List.length hmap
    unfold codePointText Quoted.hex hexadecimal List.leftpad
    rw [List.map_append, List.map_append, hmap, hlength, List.map_replicate, List.map_replicate]
    rfl

/-- What is spelled is read again digit by digit. -/
theorem ofDigits_hexadecimal (n : ℕ) :
    Nat.ofDigits 16 ((hexadecimal n).map hexDigits.idxOf).reverse = n := by
  have table : ∀ d < 16, hexDigits.idxOf (hexDigits.getD d '0') = d := by decide
  have hread : ∀ d ∈ (Nat.digits 16 n).reverse.leftpad 4 0,
      hexDigits.idxOf (hexDigits.getD d '0') = d := by
    intro d hd
    rcases List.mem_append.mp hd with hd | hd
    · rw [List.eq_of_mem_replicate hd]
      rfl
    · exact table d (Nat.digits_lt_base (by decide) (List.mem_reverse.mp hd))
  have hdigits : (hexadecimal n).map hexDigits.idxOf = (Nat.digits 16 n).reverse.leftpad 4 0 :=
    List.map_map.trans ((List.map_congr_left hread).trans (List.map_id' _))
  rw [hdigits, List.leftpad, List.reverse_append, List.reverse_reverse, List.reverse_replicate,
    Nat.ofDigits_append_replicate_zero, Nat.ofDigits_digits]

theorem hexadecimal_injective : Function.Injective hexadecimal := by
  intro n m h
  rw [← ofDigits_hexadecimal n, h, ofDigits_hexadecimal]

/-! ### The help -/

/-- The help for a single character that begins no lexeme. -/
def strayHelp (c : Char) : String :=
  if Unicode.isPrintable c then
    "The character '" ++ String.ofList [c] ++ "' is not valid in Lox source code."
  else "Non-printable character (Unicode: U+" ++ String.ofList (hexadecimal c.toNat) ++
    ") is not allowed."

/-- The character `c` begins no lexeme. -/
def stray (c : Char) (location : Location) : Diagnostic :=
  error "Unexpected character." location (some "L001") (some (strayHelp c))

/-- A single character can always be named. -/
theorem unexpected_singleton (c : Char) (location : Location) :
    unexpected [c] location = .ok (stray c location) := by
  unfold unexpected unexpectedHelp stray strayHelp
  rw [← codePointText_eq]
  by_cases h : Unicode.isPrintable c = true <;> simp [h, Except.map]

/-- **The help tells the character** that it is for. -/
theorem strayHelp_injective : Function.Injective strayHelp := by
  intro c d h
  have hlist := congrArg String.toList h
  unfold strayHelp at hlist
  split at hlist
  · split at hlist
    · simpa using hlist
    · simp at hlist
  · split at hlist
    · simp at hlist
    · have hspelled : hexadecimal c.toNat = hexadecimal d.toNat := by simpa using hlist
      exact Char.toNat_inj.mp (hexadecimal_injective hspelled)

end Diagnostic

end LoxLex
