/-! # Nesting

How deep the parts of a pattern lie inside each other, in the way it is written. The depth is no
part of what a pattern means: brackets and groups that change nothing count, too. -/

namespace Gleaner.Regex

/-- What a part of a pattern stands for, with the depth to which things nest in it. -/
structure Nested (α : Type) where
  value : α
  depth : Nat

namespace Nested

variable {α β : Type}

/-- A part without parts of its own. -/
def leaf (value : α) : Nested α := ⟨value, 0⟩

/-- The same depth around another value. -/
def map (f : α → β) (part : Nested α) : Nested β := ⟨f part.value, part.depth⟩

/-- What is one level around a part. -/
def around (f : α → β) (part : Nested α) : Nested β := ⟨f part.value, part.depth + 1⟩

/-- The depth of parts side by side. Two or more make a level, and one by itself does not. -/
def depthBeside : List (Nested α) → Nat
  | [] => 0
  | [part] => part.depth
  | part :: others => others.foldl (fun depth other => max depth other.depth) part.depth + 1

end Nested

end Gleaner.Regex
