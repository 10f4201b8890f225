import LoxLex.Text.Quoted
import LoxLex.Text.Utf8
import LoxLex.Unicode.Case

/-!
# LoxLex.Text.Loose — texts that may hold surrogates

A `String` is a text of characters, and every such text has bytes. A text that names a file may also
hold surrogates, code points that are no characters. There the surrogates `DC80` to `DCFF` stand for
the bytes `80` to `FF`, so that the name of any file can be given as a text. In what is written to a
file no surrogate has bytes, and the first of them is a fault.
-/

namespace LoxLex

/-- A code point that is half of a pair, and by itself no character. -/
structure Surrogate where
  value : Nat
  isHalf : 0xD800 ≤ value ∧ value ≤ 0xDFFF
deriving DecidableEq

/-- The byte that a surrogate stands for in the name of a file. -/
def Surrogate.byte? (s : Surrogate) : Option UInt8 :=
  if 0xDC80 ≤ s.value ∧ s.value ≤ 0xDCFF then some (UInt8.ofNat (s.value - 0xDC00)) else none

/-- A text of characters, or one that goes on with a surrogate and more. -/
inductive LooseText where
  | text (s : String)
  | surrogate (before : String) (half : Surrogate) (more : LooseText)
deriving DecidableEq

/-- Surrogates that have no bytes: the first of them, where it stands, and how many stand together. -/
structure EncodeFault where
  half : Surrogate
  start : Nat
  length : Nat
deriving DecidableEq

/-- One sentence about a fault. A lone surrogate is shown, more of them are only placed. -/
def EncodeFault.message (f : EncodeFault) : String :=
  let place :=
    if f.length = 1 then "character '" ++ String.ofList (Quoted.codePoint f.half.value) ++
      "' in position " ++ toString f.start
    else "characters in position " ++ toString f.start ++ "-" ++ toString (f.start + f.length - 1)
  "'utf-8' codec can't encode " ++ place ++ ": surrogates not allowed"

namespace LooseText

instance : Coe String LooseText := ⟨.text⟩

/-- One text behind the other. -/
def append : LooseText → LooseText → LooseText
  | .text s, .text t => .text (s ++ t)
  | .text s, .surrogate before half more => .surrogate (s ++ before) half more
  | .surrogate before half more, t => .surrogate before half (more.append t)

instance : Append LooseText := ⟨append⟩

theorem text_append_text (s t : String) : text s ++ text t = text (s ++ t) := rfl

/-- Is the first code point this character? -/
def beginsWith (c : Char) : LooseText → Bool
  | .text s => s.toList.head? == some c
  | .surrogate before _ _ => before.toList.head? == some c

/-- Is the last code point this character? -/
def endsWith (c : Char) : LooseText → Bool
  | .text s => s.toList.getLast? == some c
  | .surrogate _ _ more => more.endsWith c

/-- Lower case. A surrogate has none, and no word goes on behind it. -/
def lower : LooseText → LooseText
  | .text s => .text (Unicode.lower s)
  | .surrogate before half more => .surrogate (Unicode.lower before) half more.lower

/-- The characters of a text. -/
def chars : LooseText → List Char
  | .text s => s.toList
  | .surrogate before _ more => before.toList ++ more.chars

/-- A text as it stands between the quotes `q`. -/
def escape (q : Char) : LooseText → List Char
  | .text s => s.toList.flatMap (Quoted.escape q)
  | .surrogate before half more =>
    before.toList.flatMap (Quoted.escape q) ++ Quoted.codePoint half.value ++ more.escape q

/-- A text between quotes. -/
def quoted (t : LooseText) : String :=
  let q := Quoted.quoteFor t.chars
  String.ofList (q :: t.escape q ++ [q])

/-- How many surrogates a text begins with. -/
def leading : LooseText → Nat
  | .text _ => 0
  | .surrogate before _ more => if before = "" then more.leading + 1 else 0

/-- The text as one of characters, or the first surrogates in it. It stands at a position of a whole
that is to be encoded. -/
def characters (position : Nat) : LooseText → Except EncodeFault String
  | .text s => .ok s
  | .surrogate before half more => .error ⟨half, position + before.length, more.leading + 1⟩

/-- The bytes of a text that names a file, or the first surrogates in it that have none. It stands at
a position of the whole name. -/
def encodeName (position : Nat) : LooseText → Except EncodeFault (List UInt8)
  | .text s => .ok (Utf8.encode s.toList)
  | .surrogate before half more =>
    let place := position + before.length
    match half.byte? with
    | none => .error ⟨half, place, more.leading + 1⟩
    | some b =>
      (more.encodeName (place + 1)).map fun bytes => Utf8.encode before.toList ++ b :: bytes

end LooseText

end LoxLex
