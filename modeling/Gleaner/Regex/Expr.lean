import Gleaner.Regex.CharSet

/-! # Regular expressions

An expression describes runs of a text: where they may start and where they then may end. -/

namespace Gleaner.Regex

/-- A condition on a position, by the characters on both sides of it. -/
inductive Assertion where
  | textStart
  | textEnd
  | lineStart
  | lineEnd
  /-- Line ends of both characters, a carriage return and a line feed being one end. -/
  | anyLineStart
  | anyLineEnd
  | wordBoundary
  | notWordBoundary
  | wordStart
  | wordEnd
  /-- No word character before. -/
  | wordStartHalf
  /-- No word character after. -/
  | wordEndHalf

/-- Whether there is a character, and it is part of a word. -/
def isWordAt (c : Option Char) : Bool := c.any Property.word.holds

/-- Whether a condition holds between two characters, each missing at an end of the text. -/
def Assertion.holds (before after : Option Char) : Assertion → Bool
  | textStart => before.isNone
  | textEnd => after.isNone
  | lineStart => before.isNone || before = some '\n'
  | lineEnd => after.isNone || after = some '\n'
  | anyLineStart =>
    before.isNone || before = some '\n' || (before = some '\r' && after ≠ some '\n')
  | anyLineEnd =>
    after.isNone || after = some '\r' || (after = some '\n' && before ≠ some '\r')
  | wordBoundary => isWordAt before != isWordAt after
  | notWordBoundary => isWordAt before == isWordAt after
  | wordStart => !isWordAt before && isWordAt after
  | wordEnd => isWordAt before && !isWordAt after
  | wordStartHalf => !isWordAt before
  | wordEndHalf => !isWordAt after

/-- A regular expression. -/
inductive Expr where
  | empty
  /-- One character of a set. -/
  | chars (set : CharSet)
  | look (assertion : Assertion)
  | seq (first second : Expr)
  | alt (first second : Expr)
  /-- At least `least` times, and after that at most `more` times if that is given. -/
  | times (e : Expr) (least : Nat) (more : Option Nat)

end Gleaner.Regex
