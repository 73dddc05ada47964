/-!
# Code point tables

A property of characters is given by the code points that have it, as an ascending list of
disjoint ranges. The tables of this library state version 17 of the Unicode character database.
-/

namespace Gleaner.Unicode

/-- Ascending, disjoint ranges of code points, each with its first and its last member. -/
abbrev CodeTable := List (Nat × Nat)

namespace CodeTable

/-- Whether a range of the table holds `code`; the search ends at the first range above it. -/
def covers : CodeTable → Nat → Bool
  | [], _ => false
  | (first, last) :: rest, code =>
    if code < first then false else if code ≤ last then true else covers rest code

end CodeTable

end Gleaner.Unicode
