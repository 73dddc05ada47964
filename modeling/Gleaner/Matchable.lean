import Gleaner.Markup.Node
import Gleaner.Pattern

/-! # Conditions on nodes

What a step or a predicate demands of a node: of the value of an attribute, or of the element as
a whole. A list of conditions holds when all its members do, so the empty list always holds. -/

namespace Gleaner

/-- A condition on an element as a whole. -/
inductive TagMatcher where
  | noAttributes
  | anyAttribute
  | hasAttribute (name : String)
  | hasAnyOfAttributes (names : List String)
  /-- A condition of the user's own. -/
  | custom (predicate : Node → Bool)

namespace TagMatcher

/-- Whether a node is an element that meets the condition. -/
def accepts (matcher : TagMatcher) (node : Node) : Bool :=
  node.isElement &&
    match matcher with
    | noAttributes => !node.hasAttributes
    | anyAttribute => node.hasAttributes
    | hasAttribute name => (node.attribute? name).isSome
    | hasAnyOfAttributes names => names.any fun name => (node.attribute? name).isSome
    | custom predicate => predicate node

/-- How a condition reads. -/
def display : TagMatcher → Display
  | noAttributes => .atom "NoAttributes"
  | anyAttribute => .atom "AnyAttribute"
  | hasAttribute name => .applied "HasAttribute" [.quote name]
  | hasAnyOfAttributes names => .applied "HasAnyOfAttributes" [.items (names.map .quote)]
  | custom _ => .atom "Custom(..)"

end TagMatcher

/-- A condition on a node. -/
inductive Matchable where
  /-- Holds for every node, text included. -/
  | any
  /-- The value of an attribute passes a test; a missing attribute counts as empty. -/
  | attr (key : String) (pattern : Pattern)
  | tag (matcher : TagMatcher)

namespace Matchable

/-- The test of the attribute `id`. -/
def id (pattern : Pattern) : Matchable := attr "id" pattern

/-- The test of the attribute `class`. -/
def className (pattern : Pattern) : Matchable := attr "class" pattern

/-- The test of the attribute `style`. -/
def style (pattern : Pattern) : Matchable := attr "style" pattern

/-- Whether a node meets a condition. -/
def accepts (matchable : Matchable) (node : Node) : Bool :=
  match matchable with
  | any => true
  | attr key pattern => pattern.accepts ((node.attribute? key).getD "")
  | tag matcher => matcher.accepts node

/-- Whether a node meets all conditions of a list. -/
def allAccept (matchables : List Matchable) (node : Node) : Bool :=
  matchables.all (·.accepts node)

/-- How a condition reads. -/
def display : Matchable → Display
  | any => .atom "Any"
  | attr key pattern => .record "Attr" [("key", .quote key), ("matcher", pattern.display)]
  | tag matcher => .applied "Tag" [matcher.display]

end Matchable

end Gleaner
