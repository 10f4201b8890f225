/-!
# LoxLex.Unicode.Ranges — sets of code points as rising lists of closed ranges

The character properties of the Unicode standard (version 14.0) are data: each is a list of closed
ranges, and a character has the property when its code point lies in one of them.
-/

namespace LoxLex.Unicode

/-- A set of code points: closed ranges `(first, last)`, each wholly below the next. -/
abbrev Ranges := List (Nat × Nat)

/-- Membership. The first range that reaches up to `n` decides, since the ranges rise. -/
def Ranges.contains : Ranges → Nat → Bool
  | [], _ => false
  | (first, last) :: rest, n => if n ≤ last then first ≤ n else Ranges.contains rest n

@[simp] theorem Ranges.contains_nil (n : Nat) : Ranges.contains [] n = false := rfl

theorem Ranges.contains_cons (first last n : Nat) (rest : Ranges) :
    Ranges.contains ((first, last) :: rest) n =
      if n ≤ last then decide (first ≤ n) else Ranges.contains rest n := rfl

/-- A member lies in one of the ranges. -/
theorem Ranges.exists_of_contains {rs : Ranges} {n : Nat} (h : rs.contains n = true) :
    ∃ r ∈ rs, r.1 ≤ n ∧ n ≤ r.2 := by
  induction rs with
  | nil => simp at h
  | cons r rest ih =>
    rw [Ranges.contains_cons] at h
    split at h
    · exact ⟨r, by simp, by simpa using h, by assumption⟩
    · obtain ⟨q, hq, hn⟩ := ih h
      exact ⟨q, by simp [hq], hn⟩

end LoxLex.Unicode
