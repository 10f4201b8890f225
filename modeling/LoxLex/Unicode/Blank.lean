import LoxLex.Unicode.Ranges

/-!
# LoxLex.Unicode.Blank — white space

The characters at which text is trimmed and split into words: those of bidirectional class `WS`,
`B` or `S`, and the separators `Zs`, `Zl` and `Zp`.
-/

namespace LoxLex.Unicode

/-- The code points of white space. -/
def blankRanges : Ranges :=
  [(0x9, 0xd), (0x1c, 0x20), (0x85, 0x85), (0xa0, 0xa0), (0x1680, 0x1680), (0x2000, 0x200a),
   (0x2028, 0x2029), (0x202f, 0x202f), (0x205f, 0x205f), (0x3000, 0x3000)]

/-- Is `c` white space? -/
def isBlank (c : Char) : Bool := blankRanges.contains c.toNat

end LoxLex.Unicode
