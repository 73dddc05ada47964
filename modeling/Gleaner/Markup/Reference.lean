import Gleaner.Text.Digit

/-! # Character references

Characters that markup writes by name or by number, such as `&lt;` and `&#60;`. An ampersand
that starts none of them stands for itself. -/

namespace Gleaner.Markup

open Gleaner.Text

/-- The references by name, each with the rest of its text after the ampersand. -/
def namedReferences : List (List Char × Char) :=
  [(['a', 'm', 'p', ';'], '&'), (['l', 't', ';'], '<'), (['g', 't', ';'], '>'),
    (['q', 'u', 'o', 't', ';'], '"'), (['n', 'b', 's', 'p', ';'], '\u00a0'),
    (['c', 'o', 'p', 'y', ';'], '\u00a9'), (['e', 'a', 'c', 'u', 't', 'e', ';'], '\u00e9'),
    (['l', 'a', 'q', 'u', 'o', ';'], '\u00ab'), (['r', 'a', 'q', 'u', 'o', ';'], '\u00bb')]

/-- The characters that the numbers 128 to 159 stand for, as in the code page Windows-1252. -/
def legacyCodes : List (Nat × Nat) :=
  [(0x80, 0x20ac), (0x82, 0x201a), (0x83, 0x192), (0x84, 0x201e), (0x85, 0x2026),
    (0x86, 0x2020), (0x87, 0x2021), (0x88, 0x2c6), (0x89, 0x2030), (0x8a, 0x160),
    (0x8b, 0x2039), (0x8c, 0x152), (0x8e, 0x17d), (0x91, 0x2018), (0x92, 0x2019),
    (0x93, 0x201c), (0x94, 0x201d), (0x95, 0x2022), (0x96, 0x2013), (0x97, 0x2014),
    (0x98, 0x2dc), (0x99, 0x2122), (0x9a, 0x161), (0x9b, 0x203a), (0x9c, 0x153),
    (0x9e, 0x17e), (0x9f, 0x178)]

/-- The character that a number refers to; zero and numbers that are no character give the
replacement character. -/
def referredChar (code : Nat) : Char :=
  if code = 0 ∨ ¬ code.isValidChar then '\ufffd'
  else Char.ofNat ((legacyCodes.lookup code).getD code)

/-- Reads digits up to a semicolon: the number, and how many characters were read. -/
def readNumber (base value read : Nat) : List Char → Option (Nat × Nat)
  | [] => none
  | c :: rest =>
    match digitValue? base c with
    | some digit => readNumber base (value * base + digit) (read + 1) rest
    | none => if c = ';' ∧ 0 < read then some (value, read + 1) else none

/-- The character of a reference and the length of its text after the ampersand. -/
def reference? : List Char → Option (Char × Nat)
  | '#' :: 'x' :: rest => numbered 16 2 rest
  | '#' :: 'X' :: rest => numbered 16 2 rest
  | '#' :: rest => numbered 10 1 rest
  | rest =>
    (namedReferences.find? (·.1.isPrefixOf rest)).map fun entry => (entry.2, entry.1.length)
where
  numbered (base marks : Nat) (rest : List Char) : Option (Char × Nat) :=
    (readNumber base 0 0 rest).map fun (code, read) => (referredChar code, marks + read)

/-- Puts the characters themselves in place of their references. The first `skip` characters
belong to a reference that has been replaced already. -/
def resolveAfter : Nat → List Char → List Char
  | _, [] => []
  | skip + 1, _ :: rest => resolveAfter skip rest
  | 0, '&' :: rest =>
    match reference? rest with
    | some (c, length) => c :: resolveAfter length rest
    | none => '&' :: resolveAfter 0 rest
  | 0, c :: rest => c :: resolveAfter 0 rest

/-- Puts the characters themselves in place of their references. -/
def resolve (text : List Char) : List Char := resolveAfter 0 text

end Gleaner.Markup
