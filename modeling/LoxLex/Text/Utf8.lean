/-!
# LoxLex.Text.Utf8 — strict decoding of bytes

A well-formed sequence is a lead byte and up to three continuation bytes; the second byte of some
leads lies in a narrower range, which keeps out overlong forms, surrogates and values above
`10FFFF`. The first ill-formed sequence is a fault. It covers the longest beginning that could
have been continued, or a single byte if there is none.
-/

namespace LoxLex.Utf8

/-- What is wrong with a byte sequence. -/
inductive Reason where
  | invalidStart
  | invalidContinuation
  | unexpectedEnd
deriving DecidableEq

/-- The first ill-formed sequence: its first byte, where it starts, and how many bytes it has. -/
structure Fault where
  byte : UInt8
  start : Nat
  length : Nat
  reason : Reason
deriving DecidableEq

def Reason.text : Reason → String
  | .invalidStart => "invalid start byte"
  | .invalidContinuation => "invalid continuation byte"
  | .unexpectedEnd => "unexpected end of data"

/-- A byte as two hexadecimal digits. -/
def hexByte (b : UInt8) : String :=
  String.ofList ((if b < 16 then ['0'] else []) ++ Nat.toDigits 16 b.toNat)

/-- One sentence about a fault. A lone byte is shown, a longer sequence only placed. -/
def Fault.message (f : Fault) : String :=
  let place :=
    if f.length = 1 then "byte 0x" ++ hexByte f.byte ++ " in position " ++ toString f.start
    else "bytes in position " ++ toString f.start ++ "-" ++ toString (f.start + f.length - 1)
  "'utf-8' codec can't decode " ++ place ++ ": " ++ f.reason.text

/-- What a lead byte asks for: how many continuation bytes, the range of the first of them, and the
bits that the lead itself gives. -/
structure Lead where
  count : Nat
  first : UInt8
  last : UInt8
  bits : Nat

/-- The lead bytes. -/
def lead? (b : UInt8) : Option Lead :=
  if b < 0x80 then some ⟨0, 0x80, 0xBF, b.toNat⟩
  else if b < 0xC2 then none
  else if b < 0xE0 then some ⟨1, 0x80, 0xBF, b.toNat - 0xC0⟩
  else if b = 0xE0 then some ⟨2, 0xA0, 0xBF, 0⟩
  else if b = 0xED then some ⟨2, 0x80, 0x9F, 0xD⟩
  else if b < 0xF0 then some ⟨2, 0x80, 0xBF, b.toNat - 0xE0⟩
  else if b = 0xF0 then some ⟨3, 0x90, 0xBF, 0⟩
  else if b < 0xF4 then some ⟨3, 0x80, 0xBF, b.toNat - 0xF0⟩
  else if b = 0xF4 then some ⟨3, 0x80, 0x8F, 4⟩
  else none

/-- Reads `count` continuation bytes, the next of them in the range `first` to `last`. The answer is
the value and the rest, or the number of bytes that fitted and what stopped the reading. -/
def continuation (first last : UInt8) (value : Nat) :
    Nat → List UInt8 → Except (Nat × Reason) (Nat × List UInt8)
  | 0, rest => .ok (value, rest)
  | _ + 1, [] => .error (0, .unexpectedEnd)
  | count + 1, b :: rest =>
    if first ≤ b ∧ b ≤ last then
      match continuation 0x80 0xBF (value * 64 + (b.toNat - 0x80)) count rest with
      | .ok answer => .ok answer
      | .error (fitted, reason) => .error (fitted + 1, reason)
    else .error (0, .invalidContinuation)

theorem continuation_length {first last : UInt8} {value count n : Nat} {bytes rest : List UInt8}
    (h : continuation first last value count bytes = .ok (n, rest)) :
    rest.length ≤ bytes.length := by
  induction count generalizing first last value bytes with
  | zero =>
    simp only [continuation, Except.ok.injEq, Prod.mk.injEq] at h
    simp [h.2]
  | succ count ih =>
    cases bytes with
    | nil => simp [continuation] at h
    | cons b bytes =>
      simp only [continuation] at h
      split at h
      · split at h
        · rename_i heq
          cases h
          exact Nat.le_succ_of_le (ih heq)
        · cases h
      · cases h

/-- Decodes bytes that stand at position `start` of the whole. -/
def decodeFrom (start : Nat) : List UInt8 → Except Fault (List Char)
  | [] => .ok []
  | b :: bytes =>
    match lead? b with
    | none => .error ⟨b, start, 1, .invalidStart⟩
    | some lead =>
      match h : continuation lead.first lead.last lead.bits lead.count bytes with
      | .error (fitted, reason) => .error ⟨b, start, fitted + 1, reason⟩
      | .ok (value, rest) =>
        match decodeFrom (start + lead.count + 1) rest with
        | .ok cs => .ok (Char.ofNat value :: cs)
        | .error fault => .error fault
termination_by bytes => bytes.length
decreasing_by
  have := continuation_length h
  simp only [List.length_cons]
  omega

/-- The bytes of a text. -/
def encode (cs : List Char) : List UInt8 := cs.flatMap String.utf8EncodeChar

/-- The text that a list of bytes encodes, or the first ill-formed sequence. -/
def decode (bytes : List UInt8) : Except Fault (List Char) := decodeFrom 0 bytes

end LoxLex.Utf8
