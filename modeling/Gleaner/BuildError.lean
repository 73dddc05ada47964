import Gleaner.Display

/-! # Mistakes in programs

What is found wrong with a program while it is built, before any document is touched. -/

namespace Gleaner

/-- A mistake in a program. -/
inductive BuildError where
  /-- A pattern is not a regular expression. -/
  | invalidRegex (pattern : String)
  /-- A step or predicate has no condition at all. -/
  | emptyMatchables (tag : String)
  /-- A nest has no step before it whose node it could go into. -/
  | nestWithoutStep (group : Option String)

/-- The message for a mistake. That for a pattern ends where the reason would follow. -/
def BuildError.message : BuildError → String
  | invalidRegex pattern => "Invalid regex '" ++ pattern ++ "': "
  | emptyMatchables tag => "Element <" ++ tag ++ "> was declared with an empty matchable list"
  | nestWithoutStep group =>
    "nest() in group " ++ (Display.optional .quote group).render ++
      " has no preceding step to descend into"

end Gleaner
