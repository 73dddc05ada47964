/-! # Compiled patterns

What is used of regular expressions: a pattern is compiled, and a compiled pattern says whether a
text has a match. What patterns mean, and which are accepted, is the affair of the engine that
compiles them, which is a parameter. -/

namespace Gleaner

/-- A compiled pattern. -/
structure Regex where
  /-- The text that it was compiled from. Ignoring case from the start is not part of it. -/
  pattern : String
  /-- Whether a text has a match anywhere. -/
  isMatch : String → Bool

namespace Regex

/-- What compiles patterns. -/
class Engine where
  /-- Compiles a pattern, with case ignored from the start or not, unless it is refused. -/
  compileWith? (ignoreCase : Bool) (pattern : String) : Option Regex

export Engine (compileWith?)

/-- Compiles a pattern in which case counts until a flag says otherwise. -/
def compile? [Engine] (pattern : String) : Option Regex := compileWith? false pattern

end Regex

end Gleaner
