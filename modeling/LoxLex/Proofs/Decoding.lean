import LoxLex.Text.Utf8
import Mathlib.Algebra.Ring.Nat
import Mathlib.Tactic.SplitIfs

/-!
# LoxLex.Proofs.Decoding — decoding is the inverse of encoding

A character has one sequence of bytes, its shortest, and only scalar values are characters.  So bytes
that encode some text are those with no overlong form, no surrogate and no value above `10FFFF`, and
they encode no other text.

* `continuation_eq_ok_iff`: continuation bytes are the groups of six bits of a value.
* `reads_iff_sequence`: what is read at the head of bytes is the sequence of a scalar value.
* `decode_eq_ok_iff`: bytes decode to a text just when the text encodes to them.
-/

namespace LoxLex.Utf8

/-! ### Continuation bytes -/

/-- The last `k` groups of six bits of a value, each in a continuation byte. -/
def tail : Nat → Nat → List UInt8
  | 0, _ => []
  | k + 1, n => UInt8.ofNat (n / 64 ^ k % 64 + 0x80) :: tail k n

variable {first last b : UInt8} {value k n q : Nat} {bytes rest more : List UInt8}

theorem eq_ofNat_iff {m : Nat} (h : m < 256) : b = UInt8.ofNat m ↔ b.toNat = m := by
  rw [← UInt8.toNat_inj, UInt8.toNat_ofNat_of_lt' h]

theorem continuation_succ : continuation first last value (k + 1) bytes = .ok (n, rest) ↔
    ∃ b more, bytes = b :: more ∧ first ≤ b ∧ b ≤ last ∧
      continuation 0x80 0xBF (value * 64 + (b.toNat - 0x80)) k more = .ok (n, rest) := by
  cases bytes with
  | nil => simp [continuation]
  | cons b bytes =>
    rw [continuation]
    constructor
    · intro h
      split at h
      · next hb =>
        refine ⟨b, bytes, rfl, hb.1, hb.2, ?_⟩
        split at h
        · next hc => rw [hc, h]
        · cases h
      · cases h
    · rintro ⟨b', more, e, hfirst, hlast, hc⟩
      obtain ⟨rfl, rfl⟩ := List.cons.inj e
      rw [if_pos ⟨hfirst, hlast⟩, hc]

/-- A continuation byte holds the last six bits of the value so far. -/
theorem exists_byte_iff (hfirst : 0x80 ≤ first.toNat) (hlast : last.toNat ≤ 0xBF) :
    (∃ b more, bytes = b :: more ∧ first ≤ b ∧ b ≤ last ∧ q = value * 64 + (b.toNat - 0x80) ∧
        more = rest) ↔
      q / 64 = value ∧ first.toNat ≤ q % 64 + 0x80 ∧ q % 64 + 0x80 ≤ last.toNat ∧
        bytes = UInt8.ofNat (q % 64 + 0x80) :: rest := by
  have hbound : q % 64 + 0x80 < 256 := by omega
  constructor
  · rintro ⟨b, more, rfl, hb, hb', hq, rfl⟩
    rw [UInt8.le_iff_toNat_le] at hb hb'
    have hbyte : b = UInt8.ofNat (q % 64 + 0x80) := by
      rw [eq_ofNat_iff hbound]
      omega
    refine ⟨by omega, by omega, by omega, ?_⟩
    rw [← hbyte]
  · rintro ⟨hq, hb, hb', rfl⟩
    have hbyte : (UInt8.ofNat (q % 64 + 0x80)).toNat = q % 64 + 0x80 := (eq_ofNat_iff hbound).mp rfl
    refine ⟨_, rest, rfl, ?_, ?_, ?_, rfl⟩
    · rw [UInt8.le_iff_toNat_le, hbyte]
      exact hb
    · rw [UInt8.le_iff_toNat_le, hbyte]
      exact hb'
    · rw [hbyte]
      omega

theorem continuation_step (hfirst : 0x80 ≤ first.toNat) (hlast : last.toNat ≤ 0xBF)
    (hk : ∀ value more, continuation 0x80 0xBF value k more = .ok (n, rest) ↔
      n / 64 ^ k = value ∧ more = tail k n ++ rest) :
    continuation first last value (k + 1) bytes = .ok (n, rest) ↔
      n / 64 ^ (k + 1) = value ∧ first.toNat ≤ n / 64 ^ k % 64 + 0x80 ∧
        n / 64 ^ k % 64 + 0x80 ≤ last.toNat ∧ bytes = tail (k + 1) n ++ rest := by
  have hdiv : n / 64 ^ (k + 1) = n / 64 ^ k / 64 := by rw [Nat.pow_succ, Nat.div_div_eq_div_mul]
  rw [continuation_succ, hdiv]
  simp only [hk]
  exact exists_byte_iff hfirst hlast

/-- Continuation bytes are read just when they hold the last bits of the value. -/
theorem continuation_iff (k value : Nat) (bytes : List UInt8) :
    continuation 0x80 0xBF value k bytes = .ok (n, rest) ↔
      n / 64 ^ k = value ∧ bytes = tail k n ++ rest := by
  induction k generalizing value bytes with
  | zero => simp [continuation, tail, eq_comm]
  | succ k ih =>
    rw [continuation_step (by decide) (by decide) ih]
    constructor
    · rintro ⟨hn, -, -, hbytes⟩
      exact ⟨hn, hbytes⟩
    · rintro ⟨hn, hbytes⟩
      have h64 : n / 64 ^ k % 64 < 64 := Nat.mod_lt _ (by decide)
      refine ⟨hn, ?_, ?_, hbytes⟩
      · show 0x80 ≤ _
        omega
      · show _ ≤ 0xBF
        omega

/-- The same where the first of them has a range of its own. -/
theorem continuation_first_iff (k : Nat) (hfirst : 0x80 ≤ first.toNat) (hlast : last.toNat ≤ 0xBF) :
    continuation first last value (k + 1) bytes = .ok (n, rest) ↔
      n / 64 ^ (k + 1) = value ∧ first.toNat ≤ n / 64 ^ k % 64 + 0x80 ∧
        n / 64 ^ k % 64 + 0x80 ≤ last.toNat ∧ bytes = tail (k + 1) n ++ rest :=
  continuation_step hfirst hlast (continuation_iff k)

/-! ### Lead bytes -/

/-- The table of lead bytes, by their values. -/
theorem lead?_eq (b : UInt8) : lead? b =
    if b.toNat < 0x80 then some ⟨0, 0x80, 0xBF, b.toNat⟩
    else if b.toNat < 0xC2 then none
    else if b.toNat < 0xE0 then some ⟨1, 0x80, 0xBF, b.toNat - 0xC0⟩
    else if b.toNat = 0xE0 then some ⟨2, 0xA0, 0xBF, 0⟩
    else if b.toNat = 0xED then some ⟨2, 0x80, 0x9F, 0xD⟩
    else if b.toNat < 0xF0 then some ⟨2, 0x80, 0xBF, b.toNat - 0xE0⟩
    else if b.toNat = 0xF0 then some ⟨3, 0x90, 0xBF, 0⟩
    else if b.toNat < 0xF4 then some ⟨3, 0x80, 0xBF, b.toNat - 0xF0⟩
    else if b.toNat = 0xF4 then some ⟨3, 0x80, 0x8F, 4⟩
    else none := by
  unfold lead?
  simp only [UInt8.lt_iff_toNat_lt, ← UInt8.toNat_inj, UInt8.reduceToNat]

theorem lead?_one (h : b.toNat < 0x80) : lead? b = some ⟨0, 0x80, 0xBF, b.toNat⟩ := by
  rw [lead?_eq, if_pos h]

theorem lead?_two (h : 0xC2 ≤ b.toNat) (h' : b.toNat < 0xE0) :
    lead? b = some ⟨1, 0x80, 0xBF, b.toNat - 0xC0⟩ := by
  rw [lead?_eq, if_neg (by omega), if_neg (by omega), if_pos h']

theorem lead?_three (h : 0xE0 ≤ b.toNat) (h' : b.toNat < 0xF0) : lead? b =
    some ⟨2, if b.toNat = 0xE0 then 0xA0 else 0x80, if b.toNat = 0xED then 0x9F else 0xBF,
      b.toNat - 0xE0⟩ := by
  rw [lead?_eq, if_neg (by omega), if_neg (by omega), if_neg (by omega)]
  by_cases hleast : b.toNat = 0xE0
  · rw [hleast]
    rfl
  by_cases hsurrogate : b.toNat = 0xED
  · rw [hsurrogate]
    rfl
  rw [if_neg hleast, if_neg hsurrogate, if_pos h', if_neg hleast, if_neg hsurrogate]

theorem lead?_four (h : 0xF0 ≤ b.toNat) (h' : b.toNat < 0xF5) : lead? b =
    some ⟨3, if b.toNat = 0xF0 then 0x90 else 0x80, if b.toNat = 0xF4 then 0x8F else 0xBF,
      b.toNat - 0xF0⟩ := by
  rw [lead?_eq, if_neg (by omega), if_neg (by omega), if_neg (by omega), if_neg (by omega),
    if_neg (by omega), if_neg (by omega)]
  by_cases hleast : b.toNat = 0xF0
  · rw [hleast]
    rfl
  by_cases hgreatest : b.toNat = 0xF4
  · rw [hgreatest]
    rfl
  rw [if_neg hleast, if_pos (by omega), if_neg hleast, if_neg hgreatest]

theorem lead?_eq_none (h : 0x80 ≤ b.toNat) (h' : b.toNat < 0xC2 ∨ 0xF5 ≤ b.toNat) :
    lead? b = none := by
  rw [lead?_eq, if_neg (by omega)]
  rcases h' with h' | h'
  · rw [if_pos h']
  · rw [if_neg (by omega), if_neg (by omega), if_neg (by omega), if_neg (by omega), if_neg (by omega),
      if_neg (by omega), if_neg (by omega), if_neg (by omega)]

/-! ### One character -/

/-- The bytes of a value. -/
def sequence (n : Nat) : List UInt8 :=
  if n < 0x80 then [UInt8.ofNat n]
  else if n < 0x800 then UInt8.ofNat (n / 64 + 0xC0) :: tail 1 n
  else if n < 0x10000 then UInt8.ofNat (n / 64 ^ 2 + 0xE0) :: tail 2 n
  else UInt8.ofNat (n / 64 ^ 3 + 0xF0) :: tail 3 n

theorem utf8EncodeChar_eq (c : Char) : String.utf8EncodeChar c = sequence c.toNat := by
  have hvalid : c.toNat.isValidChar := c.valid
  have hval : c.val.toNat = c.toNat := rfl
  unfold String.utf8EncodeChar sequence
  simp only [hval]
  split_ifs <;> try omega
  · rfl
  · rw [Nat.mod_eq_of_lt (by omega)]
    simp [tail]
  · rw [Nat.mod_eq_of_lt (by omega)]
    simp [tail]
  · rw [Nat.mod_eq_of_lt (by omega)]
    simp [tail]

theorem ofNat_ne_zero {m : Nat} (h : 0 < m) (h' : m < 256) : UInt8.ofNat m ≠ 0 := by
  intro e
  have hval := congrArg UInt8.toNat e
  rw [UInt8.toNat_ofNat', Nat.mod_eq_of_lt h'] at hval
  exact absurd hval (Nat.ne_of_gt h)

theorem zero_notMem_tail (k n : Nat) : 0 ∉ tail k n := by
  induction k with
  | zero => exact List.not_mem_nil
  | succ k ih =>
    have hdigit : n / 64 ^ k % 64 < 64 := Nat.mod_lt _ (by decide)
    exact List.not_mem_cons_of_ne_of_not_mem (ofNat_ne_zero (by omega) (by omega)).symm ih

theorem zero_notMem_lead {m : Nat} (h : 0 < m) (h' : m < 256) (k n : Nat) :
    0 ∉ UInt8.ofNat m :: tail k n :=
  List.not_mem_cons_of_ne_of_not_mem (ofNat_ne_zero h h').symm (zero_notMem_tail k n)

/-- Only the value zero has a zero among its bytes. -/
theorem zero_mem_sequence_iff (h : n.isValidChar) : 0 ∈ sequence n ↔ n = 0 := by
  have htop : n < 0x110000 := by
    rcases h with h | h <;> omega
  by_cases hn : n = 0
  · subst hn
    decide
  refine iff_of_false ?_ hn
  unfold sequence
  split_ifs
  · rw [List.mem_singleton]
    exact (ofNat_ne_zero (by omega) (by omega)).symm
  · exact zero_notMem_lead (by omega) (by omega) 1 n
  · exact zero_notMem_lead (by omega) (by omega) 2 n
  · exact zero_notMem_lead (by omega) (by omega) 3 n

/-- What stands at the head of bytes is read to a value. -/
def Reads (b : UInt8) (bytes : List UInt8) (n : Nat) (rest : List UInt8) : Prop :=
  ∃ lead, lead? b = some lead ∧
    continuation lead.first lead.last lead.bits lead.count bytes = .ok (n, rest)

theorem reads_iff {lead : Lead} (h : lead? b = some lead) : Reads b bytes n rest ↔
    continuation lead.first lead.last lead.bits lead.count bytes = .ok (n, rest) := by
  unfold Reads
  rw [h]
  simp

/-- A lead byte with the first bits of a value. -/
theorem eq_ofNat_add_iff {mark : Nat} (hb : mark ≤ b.toNat) (hq : q + mark < 256) :
    q = b.toNat - mark ↔ b = UInt8.ofNat (q + mark) := by
  rw [eq_ofNat_iff hq]
  omega

theorem reads_one (h : b.toNat < 0x80) :
    Reads b bytes n rest ↔ n < 0x80 ∧ b = UInt8.ofNat n ∧ bytes = rest := by
  rw [reads_iff (lead?_one h)]
  simp only [continuation, Except.ok.injEq, Prod.mk.injEq]
  constructor
  · rintro ⟨rfl, rfl⟩
    exact ⟨h, (UInt8.ofNat_toNat).symm, rfl⟩
  · rintro ⟨hn, rfl, rfl⟩
    exact ⟨(eq_ofNat_iff (by omega)).mp rfl, rfl⟩

theorem reads_two (h : 0xC2 ≤ b.toNat) (h' : b.toNat < 0xE0) : Reads b bytes n rest ↔
    (0x80 ≤ n ∧ n < 0x800) ∧ n / 64 = b.toNat - 0xC0 ∧ bytes = tail 1 n ++ rest := by
  rw [reads_iff (lead?_two h h')]
  simp only
  rw [continuation_first_iff 0 (by decide) (by decide)]
  simp only [Nat.reduceAdd, Nat.reducePow, UInt8.reduceToNat]
  constructor
  · rintro ⟨hn, -, -, hbytes⟩
    refine ⟨?_, hn, hbytes⟩
    omega
  · rintro ⟨hrange, hn, hbytes⟩
    refine ⟨hn, ?_, ?_, hbytes⟩
    · omega
    · omega

theorem reads_three (h : 0xE0 ≤ b.toNat) (h' : b.toNat < 0xF0) : Reads b bytes n rest ↔
    (0x800 ≤ n ∧ n < 0x10000 ∧ n.isValidChar) ∧ n / 64 ^ 2 = b.toNat - 0xE0 ∧
      bytes = tail 2 n ++ rest := by
  rw [reads_iff (lead?_three h h')]
  simp only
  rw [continuation_first_iff 1 (by split <;> decide) (by split <;> decide)]
  simp only [Nat.reduceAdd, Nat.reducePow, Nat.isValidChar]
  -- The first range keeps out overlong forms, the second surrogates.
  constructor
  · rintro ⟨hn, hfirst, hlast, hbytes⟩
    refine ⟨?_, hn, hbytes⟩
    split_ifs at hfirst hlast <;> simp only [UInt8.reduceToNat] at hfirst hlast <;> omega
  · rintro ⟨hrange, hn, hbytes⟩
    refine ⟨hn, ?_, ?_, hbytes⟩
    · split_ifs <;> simp only [UInt8.reduceToNat] <;> omega
    · split_ifs <;> simp only [UInt8.reduceToNat] <;> omega

theorem reads_four (h : 0xF0 ≤ b.toNat) (h' : b.toNat < 0xF5) : Reads b bytes n rest ↔
    (0x10000 ≤ n ∧ n.isValidChar) ∧ n / 64 ^ 3 = b.toNat - 0xF0 ∧ bytes = tail 3 n ++ rest := by
  rw [reads_iff (lead?_four h h')]
  simp only
  rw [continuation_first_iff 2 (by split <;> decide) (by split <;> decide)]
  simp only [Nat.reduceAdd, Nat.reducePow, Nat.isValidChar]
  -- The first range keeps out overlong forms, the second what is too great.
  constructor
  · rintro ⟨hn, hfirst, hlast, hbytes⟩
    refine ⟨?_, hn, hbytes⟩
    split_ifs at hfirst hlast <;> simp only [UInt8.reduceToNat] at hfirst hlast <;> omega
  · rintro ⟨hrange, hn, hbytes⟩
    refine ⟨hn, ?_, ?_, hbytes⟩
    · split_ifs <;> simp only [UInt8.reduceToNat] <;> omega
    · split_ifs <;> simp only [UInt8.reduceToNat] <;> omega

theorem not_reads (h : lead? b = none) : ¬ Reads b bytes n rest := by
  rintro ⟨lead, hlead, -⟩
  rw [h] at hlead
  cases hlead

/-- **What is read at the head of bytes is the sequence of a scalar value**, and every such sequence is
read. -/
theorem reads_iff_sequence :
    Reads b bytes n rest ↔ n.isValidChar ∧ b :: bytes = sequence n ++ rest := by
  constructor
  · intro h
    rcases Nat.lt_or_ge b.toNat 0x80 with hone | hone
    · obtain ⟨hn, rfl, rfl⟩ := (reads_one hone).mp h
      refine ⟨Or.inl (by omega), ?_⟩
      rw [sequence, if_pos hn]
      rfl
    rcases Nat.lt_or_ge b.toNat 0xC2 with htwo | htwo
    · exact absurd h (not_reads (lead?_eq_none hone (Or.inl htwo)))
    rcases Nat.lt_or_ge b.toNat 0xE0 with hthree | hthree
    · obtain ⟨hn, hbits, rfl⟩ := (reads_two htwo hthree).mp h
      rw [eq_ofNat_add_iff (by omega) (by omega)] at hbits
      refine ⟨Or.inl (by omega), ?_⟩
      rw [sequence, if_neg (by omega), if_pos (by omega), ← hbits]
      rfl
    rcases Nat.lt_or_ge b.toNat 0xF0 with hfour | hfour
    · obtain ⟨⟨hn, hn', hvalid⟩, hbits, rfl⟩ := (reads_three hthree hfour).mp h
      rw [eq_ofNat_add_iff (by omega) (by omega)] at hbits
      refine ⟨hvalid, ?_⟩
      rw [sequence, if_neg (by omega), if_neg (by omega), if_pos hn', ← hbits]
      rfl
    rcases Nat.lt_or_ge b.toNat 0xF5 with hend | hend
    · obtain ⟨⟨hn, hvalid⟩, hbits, rfl⟩ := (reads_four hfour hend).mp h
      rw [eq_ofNat_add_iff (by omega) (by omega)] at hbits
      refine ⟨hvalid, ?_⟩
      rw [sequence, if_neg (by omega), if_neg (by omega), if_neg (by omega), ← hbits]
      rfl
    · exact absurd h (not_reads (lead?_eq_none hone (Or.inr hend)))
  · rintro ⟨hvalid, hbytes⟩
    unfold sequence at hbytes
    unfold Nat.isValidChar at hvalid
    split_ifs at hbytes with hone htwo hthree
    · obtain ⟨hb, rfl⟩ := List.cons.inj hbytes
      have hlead := (eq_ofNat_iff (by omega)).mp hb
      exact (reads_one (by omega)).mpr ⟨hone, hb, rfl⟩
    · obtain ⟨hb, rfl⟩ := List.cons.inj hbytes
      have hlead := (eq_ofNat_iff (by omega)).mp hb
      exact (reads_two (by omega) (by omega)).mpr ⟨by omega, by omega, rfl⟩
    · obtain ⟨hb, rfl⟩ := List.cons.inj hbytes
      have hlead := (eq_ofNat_iff (by omega)).mp hb
      exact (reads_three (by omega) (by omega)).mpr ⟨by omega, by omega, rfl⟩
    · obtain ⟨hb, rfl⟩ := List.cons.inj hbytes
      have hlead := (eq_ofNat_iff (by omega)).mp hb
      exact (reads_four (by omega) (by omega)).mpr ⟨by omega, by omega, rfl⟩

/-! ### All of the bytes -/

variable {start : Nat} {cs : List Char}

theorem decodeFrom_cons : decodeFrom start (b :: bytes) = .ok cs ↔
    ∃ lead n rest ds, lead? b = some lead ∧
      continuation lead.first lead.last lead.bits lead.count bytes = .ok (n, rest) ∧
      decodeFrom (start + lead.count + 1) rest = .ok ds ∧ cs = Char.ofNat n :: ds := by
  rw [decodeFrom]
  constructor
  · intro h
    split at h
    · cases h
    · next lead hlead =>
      split at h
      · cases h
      · next n rest hc =>
        split at h
        · next ds hds => exact ⟨lead, n, rest, ds, hlead, hc, hds, (Except.ok.inj h).symm⟩
        · cases h
  · rintro ⟨lead, n, rest, ds, hlead, hc, hds, rfl⟩
    rw [hlead]
    dsimp only
    split
    · next hc' =>
      rw [hc] at hc'
      cases hc'
    · next hc' =>
      rw [hc] at hc'
      obtain ⟨rfl, rfl⟩ := Prod.mk.inj (Except.ok.inj hc')
      rw [hds]

/-- A sequence that is read leaves fewer bytes. -/
theorem Reads.length_lt (h : Reads b bytes n rest) : rest.length < (b :: bytes).length := by
  obtain ⟨lead, -, hc⟩ := h
  exact Nat.lt_succ_of_le (continuation_length hc)

theorem toNat_ofNat (h : n.isValidChar) : (Char.ofNat n).toNat = n := by
  unfold Char.ofNat
  rw [dif_pos h]
  rfl

theorem encode_cons (c : Char) (cs : List Char) :
    encode (c :: cs) = sequence c.toNat ++ encode cs := by
  unfold encode
  rw [List.flatMap_cons, utf8EncodeChar_eq]

theorem encode_eq_nil_iff : encode cs = [] ↔ cs = [] := by
  constructor
  · intro h
    cases cs with
    | nil => rfl
    | cons c cs =>
      unfold encode at h
      rw [List.flatMap_cons, List.append_eq_nil_iff] at h
      exact absurd h.1 String.utf8EncodeChar_ne_nil
  · rintro rfl
    rfl

/-- Only a NUL has a zero among its bytes. -/
theorem zero_mem_encode_iff : 0 ∈ encode cs ↔ '\x00' ∈ cs := by
  have hzero : ∀ c : Char, 0 ∈ String.utf8EncodeChar c ↔ c = '\x00' := by
    intro c
    rw [utf8EncodeChar_eq]
    exact (zero_mem_sequence_iff c.valid).trans (Char.toNat_inj (d := '\x00'))
  unfold encode
  rw [List.mem_flatMap]
  constructor
  · rintro ⟨c, hc, h⟩
    rwa [← (hzero c).mp h]
  · exact fun h => ⟨_, h, (hzero _).mpr rfl⟩

theorem decodeFrom_eq_ok_iff (start : Nat) (bytes : List UInt8) (cs : List Char) :
    decodeFrom start bytes = .ok cs ↔ bytes = encode cs := by
  induction hlen : bytes.length using Nat.strongRecOn generalizing bytes start cs with
  | ind len ih =>
    cases bytes with
    | nil => rw [decodeFrom, Except.ok.injEq, eq_comm, @eq_comm _ [], encode_eq_nil_iff]
    | cons b bytes =>
      -- The bytes behind the first sequence decode as they would alone.
      have hrest : ∀ n rest, Reads b bytes n rest → ∀ start ds,
          decodeFrom start rest = .ok ds ↔ rest = encode ds := fun n rest h start ds =>
        ih rest.length (hlen ▸ h.length_lt) start rest ds rfl
      rw [decodeFrom_cons]
      constructor
      · rintro ⟨lead, n, rest, ds, hlead, hc, hds, rfl⟩
        have hreads : Reads b bytes n rest := ⟨lead, hlead, hc⟩
        obtain ⟨hvalid, e⟩ := reads_iff_sequence.mp hreads
        rw [hrest n rest hreads] at hds
        rw [e, encode_cons, toNat_ofNat hvalid, hds]
      · intro h
        cases cs with
        | nil => cases h
        | cons c ds =>
          rw [encode_cons] at h
          obtain ⟨lead, hlead, hc⟩ := reads_iff_sequence.mpr ⟨c.valid, h⟩
          refine ⟨lead, c.toNat, encode ds, ds, hlead, hc, ?_, ?_⟩
          · exact (hrest _ _ ⟨lead, hlead, hc⟩ _ ds).mpr rfl
          · rw [Char.ofNat_toNat]

/-- **Bytes decode to a text just when the text encodes to them.** -/
theorem decode_eq_ok_iff (bytes : List UInt8) (cs : List Char) :
    decode bytes = .ok cs ↔ bytes = encode cs :=
  decodeFrom_eq_ok_iff 0 bytes cs

theorem encode_injective {cs ds : List Char} (h : encode cs = encode ds) : cs = ds := by
  have hcs := (decode_eq_ok_iff (encode cs) cs).mpr rfl
  rw [(decode_eq_ok_iff (encode cs) ds).mpr h] at hcs
  exact (Except.ok.inj hcs).symm

/-- **Every other list of bytes is ill-formed.** -/
theorem isValidUTF8_iff (bytes : List UInt8) :
    bytes.toByteArray.IsValidUTF8 ↔ ∃ cs, bytes = encode cs := by
  constructor
  · rintro ⟨cs, h⟩
    exact ⟨cs, List.toByteArray_inj.mp h⟩
  · rintro ⟨cs, rfl⟩
    exact ⟨cs, rfl⟩

end LoxLex.Utf8
