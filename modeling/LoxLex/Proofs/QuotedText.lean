import LoxLex.Text.Ascii
import LoxLex.Text.Quoted
import Mathlib.Algebra.Ring.Nat
import Mathlib.Tactic.SplitIfs

/-!
# LoxLex.Proofs.QuotedText — where a quoted text ends, and what it quotes

Between quotes a character stands for itself, or a backslash and a mark stand for it; the mark says how many
hexadecimal digits follow.  `Quoted.unescape?` reads one character, and what stands behind it makes no
difference.

* `Quoted.unescape?_escape`: reading one character undoes its escape.
* `Quoted.encode_append_inj`: a text between quotes says where it ends and which text it is, whatever stands
  behind it.
-/

namespace LoxLex

namespace Quoted

variable {q c d : Char} {cs ds r s : List Char} {width n : ℕ}

/-! ### Hexadecimal code points -/

/-- What a hexadecimal digit counts. -/
def hexDigit (c : Char) : ℕ := if isDigit c then c.toNat - '0'.toNat else c.toNat - 'a'.toNat + 10

/-- The number that hexadecimal digits denote. -/
def hexValue (ds : List Char) : ℕ := ds.foldl (fun n c => 16 * n + hexDigit c) 0

theorem hexDigit_digitChar (h : n < 16) : hexDigit n.digitChar = n := by
  have table : ∀ n < 16, hexDigit n.digitChar = n := by decide
  exact table n h

theorem hexValue_concat (ds : List Char) (c : Char) :
    hexValue (ds ++ [c]) = 16 * hexValue ds + hexDigit c := by
  unfold hexValue
  rw [List.foldl_append]
  rfl

theorem hexValue_toDigits (n : ℕ) : hexValue (Nat.toDigits 16 n) = n := by
  induction n using Nat.strongRecOn with
  | ind n ih =>
    rw [Nat.toDigits_eq_if (by decide)]
    split
    · next h =>
      have hsingle := hexValue_concat [] n.digitChar
      rw [hexDigit_digitChar h] at hsingle
      exact hsingle.trans (Nat.zero_add n)
    · next h =>
      rw [hexValue_concat, hexDigit_digitChar (Nat.mod_lt n (by decide)),
        ih (n / 16) (by omega)]
      omega

/-- Zeros in front make no difference. -/
theorem hexValue_zeros_append (k : ℕ) (ds : List Char) :
    hexValue (List.replicate k '0' ++ ds) = hexValue ds := by
  induction k with
  | zero => rfl
  | succ k ih => exact ih

theorem hexValue_hex (width n : ℕ) : hexValue (hex width n) = n :=
  (hexValue_zeros_append _ _).trans (hexValue_toDigits n)

theorem length_hex (hwidth : 0 < width) (h : n < 16 ^ width) : (hex width n).length = width := by
  have hle := (Nat.length_toDigits_le_iff (by decide : 1 < 16) hwidth).mpr h
  unfold hex
  rw [List.length_append, List.length_replicate]
  omega

/-- Reads a code point of so many digits. -/
def readCodePoint (width : ℕ) (cs : List Char) : Char × List Char :=
  (Char.ofNat (hexValue (cs.take width)), cs.drop width)

theorem readCodePoint_hex (hwidth : 0 < width) (h : c.toNat < 16 ^ width) (rest : List Char) :
    readCodePoint width (hex width c.toNat ++ rest) = (c, rest) := by
  have hlength := length_hex hwidth h
  unfold readCodePoint
  rw [List.take_left' hlength, List.drop_left' hlength, hexValue_hex, Char.ofNat_toNat]

/-! ### One character -/

/-- Reads one character from between quotes. -/
def unescape? : List Char → Option (Char × List Char)
  | '\\' :: 'x' :: rest => some (readCodePoint 2 rest)
  | '\\' :: 'u' :: rest => some (readCodePoint 4 rest)
  | '\\' :: 'U' :: rest => some (readCodePoint 8 rest)
  | '\\' :: 't' :: rest => some ('\t', rest)
  | '\\' :: 'n' :: rest => some ('\n', rest)
  | '\\' :: 'r' :: rest => some ('\r', rest)
  | '\\' :: c :: rest => some (c, rest)
  | c :: rest => some (c, rest)
  | [] => none

/-- The two quotes. -/
def IsQuote (q : Char) : Prop := q = '\'' ∨ q = '"'

theorem unescape?_codePoint (c : Char) (rest : List Char) :
    unescape? (codePoint c.toNat ++ rest) = some (c, rest) := by
  have htop : c.toNat < 16 ^ 8 := c.val.toNat_lt
  unfold codePoint
  split
  · next h => exact congrArg some (readCodePoint_hex (by decide) h rest)
  · split
    · next h => exact congrArg some (readCodePoint_hex (by decide) h rest)
    · exact congrArg some (readCodePoint_hex (by decide) htop rest)

/-- **Reading one character undoes its escape.** -/
theorem unescape?_escape (hq : IsQuote q) (c : Char) (rest : List Char) :
    unescape? (escape q c ++ rest) = some (c, rest) := by
  unfold escape
  split
  · next h =>
    rcases h with rfl | rfl
    · rcases hq with rfl | rfl <;> rfl
    · rfl
  next h =>
  split
  · next ht => rw [ht]; rfl
  split
  · next hn => rw [hn]; rfl
  split
  · next hr => rw [hr]; rfl
  split
  · have hslash : c ≠ '\\' := fun e => h (Or.inr e)
    unfold unescape?
    split <;> simp_all
  · exact unescape?_codePoint c rest

theorem escape_append_inj (hq : IsQuote q) (h : escape q c ++ r = escape q d ++ s) :
    c = d ∧ r = s := by
  have hread := congrArg unescape? h
  rw [unescape?_escape hq, unescape?_escape hq] at hread
  exact Prod.mk.inj (Option.some.inj hread)

/-- A character stands for itself, and then it is not the quote, or it has a backslash in front. -/
theorem escape_cases (q c : Char) :
    (escape q c = [c] ∧ c ≠ q) ∨ ∃ w, escape q c = '\\' :: w := by
  unfold escape codePoint
  split_ifs with hself
  · exact Or.inr ⟨_, rfl⟩
  · exact Or.inr ⟨_, rfl⟩
  · exact Or.inr ⟨_, rfl⟩
  · exact Or.inr ⟨_, rfl⟩
  · exact Or.inl ⟨rfl, fun h => hself (Or.inl h)⟩
  · exact Or.inr ⟨_, rfl⟩
  · exact Or.inr ⟨_, rfl⟩
  · exact Or.inr ⟨_, rfl⟩

/-- No character is written as the quote that closes the text. -/
theorem escape_append_ne (hq : IsQuote q) (c : Char) (r s : List Char) :
    escape q c ++ r ≠ q :: s := by
  have hslash : '\\' ≠ q := by rcases hq with rfl | rfl <;> decide
  rcases escape_cases q c with ⟨h, hne⟩ | ⟨w, h⟩
  · rw [h]
    exact fun e => hne (List.cons.inj e).1
  · rw [h]
    exact fun e => hslash (List.cons.inj e).1

/-! ### The whole text -/

theorem isQuote_quoteFor (cs : List Char) : IsQuote (quoteFor cs) := by
  unfold quoteFor
  split
  · exact Or.inr rfl
  · exact Or.inl rfl

/-- Texts before their closing quotes, told by what they are written as. -/
theorem body_append_inj (hq : IsQuote q)
    (h : cs.flatMap (escape q) ++ q :: r = ds.flatMap (escape q) ++ q :: s) : cs = ds ∧ r = s := by
  induction cs generalizing ds with
  | nil =>
    cases ds with
    | nil => exact ⟨rfl, (List.cons.inj h).2⟩
    | cons d ds =>
      rw [List.flatMap_cons, List.append_assoc] at h
      exact absurd h.symm (escape_append_ne hq d _ _)
  | cons c cs ih =>
    rw [List.flatMap_cons, List.append_assoc] at h
    cases ds with
    | nil => exact absurd h (escape_append_ne hq c _ _)
    | cons d ds =>
      rw [List.flatMap_cons, List.append_assoc] at h
      obtain ⟨rfl, hbehind⟩ := escape_append_inj hq h
      obtain ⟨rfl, hrest⟩ := ih hbehind
      exact ⟨rfl, hrest⟩

/-- **A text between quotes says where it ends and which text it is.** -/
theorem encode_append_inj (h : encode cs ++ r = encode ds ++ s) : cs = ds ∧ r = s := by
  unfold encode at h
  simp only [List.cons_append, List.append_assoc, List.nil_append] at h
  obtain ⟨hquote, hbody⟩ := List.cons.inj h
  rw [← hquote] at hbody
  exact body_append_inj (isQuote_quoteFor cs) hbody

end Quoted

end LoxLex
