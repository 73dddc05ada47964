import Gleaner.Unicode.CaseMap
import Gleaner.Unicode.Cased

/-! # Lower case

The full lower case form of a text. It works character by character but for two cases: `İ`
becomes two characters, and `Σ` has two lower case forms, of which `ς` stands at the end of a
word. -/

namespace Gleaner.Text

open Gleaner.Unicode

/-- The lower case form of a character outside any word. -/
def lowerChar (c : Char) : List Char :=
  if c = 'İ' then ['i', '\u0307'] else [Char.ofNat (moveCode lowerRanges c.toNat)]

/-- Whether the first character that counts for case is a cased one. -/
def startsCased (cs : List Char) : Bool :=
  (cs.dropWhile isCaseIgnorable).head?.any isCased

/-- The lower case form of `c` between the characters `before` it, nearest first, and the
characters `after` it. -/
def lowerBetween (before : List Char) (c : Char) (after : List Char) : List Char :=
  if c = 'Σ' then
    if startsCased before && !startsCased after then ['ς'] else ['σ']
  else lowerChar c

/-- The lower case form of a text that continues the characters `before`, nearest first. -/
def lowerAfter (before : List Char) : List Char → List Char
  | [] => []
  | c :: after => lowerBetween before c after ++ lowerAfter (c :: before) after

/-- The lower case form of a text. -/
def lower (text : String) : List Char := lowerAfter [] text.toList

end Gleaner.Text
