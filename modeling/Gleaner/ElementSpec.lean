import Gleaner.Extraction
import Gleaner.Markup.Writer
import Gleaner.Matchable

/-! # Element specs

What a step looks for: the name of a tag, further conditions on the element, the values to read
from it, and what to do with them. Results go into a collector, whose type `γ` is the user's. -/

namespace Gleaner

/-- What a step looks for, and what it does with the element that it finds. -/
structure ElementSpec (γ : Type) where
  tag : String
  matchables : List Matchable
  extractions : List Extraction
  /-- Puts an element and its values into the collector. -/
  onMatch : Option (Node → Values → γ → γ)

namespace ElementSpec

variable {γ : Type}

/-- A spec that reads nothing and leaves the collector alone. -/
def plain (tag : String) (matchables : List Matchable) : ElementSpec γ :=
  ⟨tag, matchables, [], none⟩

/-- Whether two names agree up to the case of ASCII letters. -/
def sameName (a b : String) : Bool := a.toList.map Char.toLower = b.toList.map Char.toLower

/-- Whether a node has the name and meets all conditions. -/
def accepts (spec : ElementSpec γ) (node : Node) : Bool :=
  node.tagName?.any (sameName · spec.tag) && Matchable.allAccept spec.matchables node

/-- The collector after a node was found. -/
def collect (spec : ElementSpec γ) (node : Node) (collector : γ) : γ :=
  match spec.onMatch with
  | none => collector
  | some onMatch => onMatch node (Extraction.valuesOf node spec.extractions) collector

/-- Why requests for text find none; without something to do with them no values are read. -/
def textFaults (spec : ElementSpec γ) (node : Node) : List TextFault :=
  if spec.onMatch.isSome then Extraction.textFaults node spec.extractions else []

/-- How a spec reads. -/
def display (spec : ElementSpec γ) : Display :=
  .record "ElementSpec"
    [("tag_name", .quote spec.tag),
      ("matchables", .items (spec.matchables.map Matchable.display)),
      ("extractions", .items (spec.extractions.map Extraction.display)),
      ("has_extractor", .flag spec.onMatch.isSome)]

end ElementSpec

end Gleaner
