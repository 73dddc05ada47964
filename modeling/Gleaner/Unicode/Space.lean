import Gleaner.Unicode.Table

/-! # White space

The characters with the Unicode property White_Space. The zero-width space U+200B, the byte
order mark U+FEFF and the vowel separator U+180E do not have it. -/

namespace Gleaner.Unicode

/-- The code points with the property White_Space. -/
def whiteSpaceTable : CodeTable :=
  [(0x9, 0xd), (0x20, 0x20), (0x85, 0x85), (0xa0, 0xa0), (0x1680, 0x1680), (0x2000, 0x200a),
   (0x2028, 0x2029), (0x202f, 0x202f), (0x205f, 0x205f), (0x3000, 0x3000)]

/-- Whether a character is white space. -/
def isWhiteSpace (c : Char) : Bool := whiteSpaceTable.covers c.toNat

end Gleaner.Unicode
