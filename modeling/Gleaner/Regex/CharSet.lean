import Gleaner.Unicode.CaseMap
import Gleaner.Unicode.Latest
import Gleaner.Unicode.Space
import Gleaner.Unicode.Word

/-! # Sets of characters

What one character of a text is compared with: classes in brackets, the dot, the abbreviations
for digits, space and words, and single characters. -/

namespace Gleaner.Regex

open Gleaner.Unicode

/-- The properties of characters that have an abbreviation. -/
inductive Property where
  | digit
  | space
  | word

/-- Whether a character has a property. The latest characters have none. -/
def Property.holds (p : Property) (c : Char) : Bool :=
  !isLatest c &&
    match p with
    | digit => isDecimalDigit c
    | space => isWhiteSpace c
    | word => isWord c

/-- A set of characters. -/
inductive CharSet where
  | empty
  /-- All characters from the first to the last. -/
  | range (first last : Char)
  | property (p : Property)
  | union (a b : CharSet)
  | inter (a b : CharSet)
  | diff (a b : CharSet)
  | symmDiff (a b : CharSet)
  | compl (a : CharSet)
  /-- All characters that differ at most in case from a member. -/
  | foldCase (a : CharSet)

namespace CharSet

/-- Whether a set holds a character. -/
def contains : CharSet → Char → Bool
  | empty, _ => false
  | range first last, c => first ≤ c && c ≤ last
  | property p, c => p.holds c
  | union a b, c => a.contains c || b.contains c
  | inter a b, c => a.contains c && b.contains c
  | diff a b, c => a.contains c && !b.contains c
  | symmDiff a b, c => a.contains c != b.contains c
  | compl a, c => !a.contains c
  | foldCase a, c => (caseVariants c.toNat).any fun code => a.contains (Char.ofNat code)

/-- The set of one character. -/
def single (c : Char) : CharSet := range c c

/-- The union of ranges. -/
def ranges (bounds : List (Char × Char)) : CharSet :=
  bounds.foldr (fun (first, last) set => union (range first last) set) empty

/-- The set itself, or with case folded. -/
def foldIf (ignoreCase : Bool) (set : CharSet) : CharSet :=
  if ignoreCase then foldCase set else set

/-- The set of one character and, if case is ignored, of all that differ from it only in case. -/
def letter (ignoreCase : Bool) (c : Char) : CharSet :=
  if ignoreCase then
    ranges ((caseVariants c.toNat).map fun code => (Char.ofNat code, Char.ofNat code))
  else single c

/-- The set itself, or its complement. -/
def complIf (negated : Bool) (set : CharSet) : CharSet :=
  if negated then compl set else set

/-- The named classes, all of ASCII characters. -/
def named : List (List Char × CharSet) :=
  [(['a', 'l', 'n', 'u', 'm'], ranges [('0', '9'), ('A', 'Z'), ('a', 'z')]),
    (['a', 'l', 'p', 'h', 'a'], ranges [('A', 'Z'), ('a', 'z')]),
    (['a', 's', 'c', 'i', 'i'], ranges [('\x00', '\x7f')]),
    (['b', 'l', 'a', 'n', 'k'], ranges [('\t', '\t'), (' ', ' ')]),
    (['c', 'n', 't', 'r', 'l'], ranges [('\x00', '\x1f'), ('\x7f', '\x7f')]),
    (['d', 'i', 'g', 'i', 't'], ranges [('0', '9')]),
    (['g', 'r', 'a', 'p', 'h'], ranges [('!', '~')]),
    (['l', 'o', 'w', 'e', 'r'], ranges [('a', 'z')]),
    (['p', 'r', 'i', 'n', 't'], ranges [(' ', '~')]),
    (['p', 'u', 'n', 'c', 't'], ranges [('!', '/'), (':', '@'), ('[', '\x60'), ('\x7b', '~')]),
    (['s', 'p', 'a', 'c', 'e'], ranges [('\t', '\r'), (' ', ' ')]),
    (['u', 'p', 'p', 'e', 'r'], ranges [('A', 'Z')]),
    (['w', 'o', 'r', 'd'], ranges [('0', '9'), ('A', 'Z'), ('_', '_'), ('a', 'z')]),
    (['x', 'd', 'i', 'g', 'i', 't'], ranges [('0', '9'), ('A', 'F'), ('a', 'f')])]

end CharSet

end Gleaner.Regex
