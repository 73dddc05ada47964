import Gleaner.Regex.Basic
import Gleaner.Regex.Reader.Pattern
import Gleaner.Regex.Walk

/-! # Compiling by reading

An engine. A pattern is read to an expression, and a text is searched by walks over it. Classes of
characters by the names of their properties are not read, nor is the flag that gives up Unicode. -/

namespace Gleaner.Regex

/-- Compiles what reads as an expression, to a search for it. -/
instance searcher : Engine where
  compileWith? ignoreCase pattern :=
    (Reader.expr? ignoreCase pattern.toList).map fun e =>
      ⟨pattern, fun text => e.occursIn text.toList⟩

end Gleaner.Regex
