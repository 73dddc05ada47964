import Gleaner.Unicode.Letter
import Gleaner.Unicode.Number

/-! # Word characters

A word is made of letters, marks, decimal digits, connecting punctuation such as the low line,
and the two joiners. -/

namespace Gleaner.Unicode

/-- The code points of the general category Pc and those with the property Join_Control. -/
def connectorTable : CodeTable :=
  [(0x5f, 0x5f), (0x200c, 0x200d), (0x203f, 0x2040), (0x2054, 0x2054), (0xfe33, 0xfe34),
   (0xfe4d, 0xfe4f), (0xff3f, 0xff3f)]

/-- Whether a character can be part of a word. -/
def isWord (c : Char) : Bool :=
  isAlphabetic c || isMark c || isDecimalDigit c || connectorTable.covers c.toNat

end Gleaner.Unicode
