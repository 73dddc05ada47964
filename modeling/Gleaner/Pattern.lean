import Gleaner.BuildError
import Gleaner.Regex.Search
import Gleaner.Text.Lowercase
import Gleaner.Text.Occurs

/-! # Patterns

Tests of a single text, usually the value of an attribute. A regular expression is either looked
for anywhere or has to match the whole text; for the latter its pattern is put between anchors
and compiled again. What compiles patterns is a parameter; in runs it is the searcher. -/

namespace Gleaner

/-- A test of a text. -/
inductive Pattern where
  | always
  | equals (value : String)
  | equalsIgnoreCase (value : String)
  | contains (value : String)
  | containsIgnoreCase (value : String)
  /-- An expression that has been anchored at both ends. -/
  | regexMatch (regex : Regex)
  /-- An expression that may match anywhere. -/
  | regexFind (regex : Regex)

namespace Pattern

/-- A pattern between the anchors of a whole text, in a group of its own. -/
def anchored (pattern : String) : String := "\\A(?:" ++ pattern ++ ")\\z"

/-- Looks for a compiled pattern anywhere. -/
def find (regex : Regex) : Pattern := regexFind regex

section

variable [Regex.Engine]

/-- Compiles a pattern that has to match the whole text. -/
def ofWholePattern (pattern : String) : Except BuildError Pattern :=
  match Regex.compile? (anchored pattern) with
  | some regex => .ok (regexMatch regex)
  | none => .error (.invalidRegex pattern)

/-- Compiles a pattern that may match anywhere. -/
def ofPattern (pattern : String) : Except BuildError Pattern :=
  match Regex.compile? pattern with
  | some regex => .ok (regexFind regex)
  | none => .error (.invalidRegex pattern)

/-- Anchors a compiled pattern at both ends, by its text. -/
def fullMatch (regex : Regex) : Except BuildError Pattern := ofWholePattern regex.pattern

end

/-- Whether a text passes the test. -/
def accepts (pattern : Pattern) (text : String) : Bool :=
  match pattern with
  | always => true
  | equals value => text = value
  | equalsIgnoreCase value => Text.lower text = Text.lower value
  | contains value => Text.occursIn value.toList text.toList
  | containsIgnoreCase value => Text.occursIn (Text.lower value) (Text.lower text)
  | regexMatch regex => regex.isMatch text
  | regexFind regex => regex.isMatch text

/-- How a compiled pattern reads: by its text. -/
def displayRegex (regex : Regex) : Display := .applied "Regex" [.quote regex.pattern]

/-- How a pattern reads. -/
def display : Pattern → Display
  | always => .atom "Always"
  | equals value => .applied "Equals" [.quote value]
  | equalsIgnoreCase value => .applied "EqualsIgnoreCase" [.quote value]
  | contains value => .applied "Contains" [.quote value]
  | containsIgnoreCase value => .applied "ContainsIgnoreCase" [.quote value]
  | regexMatch regex => .applied "RegexMatch" [displayRegex regex]
  | regexFind regex => .applied "RegexFind" [displayRegex regex]

end Pattern

end Gleaner
