import Gleaner.Dictionary
import Gleaner.Text.Blank

/-! # Document trees

A node of a parsed document and the view that programs have of it. Programs see elements and
text that is not blank; comments, doctypes, processing instructions and blank text are there,
but are never handed out as children. -/

namespace Gleaner

/-- The vocabulary that the name of an element is taken from. -/
inductive Namespace where
  | html
  | svg
  | math
  | other (uri : String)

/-- The name of an element. Programs see only the name inside the namespace; the namespace counts
where markup is written. -/
structure ElementName where
  space : Namespace
  name : String

/-- A name by itself is that of an element of a page. -/
instance : Coe String ElementName := ⟨fun name => ⟨.html, name⟩⟩

/-- A node with everything below it. -/
inductive Node where
  /-- A document, or the content of a template, which is a document of its own. -/
  | root (children : List Node)
  | element (name : ElementName) (attributes : Dictionary) (children : List Node)
  | text (content : String)
  | comment (content : String)
  | doctype (name : String)
  /-- A processing instruction. -/
  | instruction (target data : String)

namespace Node

instance : Inhabited Node := ⟨text ""⟩

/-- Whether a node is an element. -/
def isElement : Node → Bool
  | element .. => true
  | _ => false

/-- Whether a node is text. -/
def isText : Node → Bool
  | text _ => true
  | _ => false

/-- The name of an element, without its namespace. -/
def tagName? : Node → Option String
  | element name _ _ => some name.name
  | _ => none

/-- The content of a text node. -/
def text? : Node → Option String
  | text content => some content
  | _ => none

/-- The attributes of an element; other nodes have none. -/
def attributes : Node → Dictionary
  | element _ attributes _ => attributes
  | _ => .empty

/-- The value of an attribute. -/
def attribute? (node : Node) (name : String) : Option String := node.attributes.get? name

/-- Whether a node has any attribute. -/
def hasAttributes (node : Node) : Bool := !node.attributes.isEmpty

/-- Whether a node is text made of white space only. -/
def isBlank : Node → Bool
  | text content => Text.isBlank content
  | _ => false

/-- Whether programs see a node: elements, and text that is not blank. -/
def isVisible (node : Node) : Bool := node.isElement || (node.isText && !node.isBlank)

/-- All nodes directly below a node. -/
def allChildren : Node → List Node
  | root children => children
  | element _ _ children => children
  | _ => []

/-- The visible nodes directly below a node, in document order. -/
def children (node : Node) : List Node := node.allChildren.filter isVisible

mutual

/-- All text of a node and below it, blank text included. -/
def allText : Node → String
  | root children => allTextOf children
  | element _ _ children => allTextOf children
  | text content => content
  | _ => ""

/-- All text of nodes and below them, one after the other. -/
def allTextOf : List Node → String
  | [] => ""
  | node :: rest => node.allText ++ allTextOf rest

end

/-- The text of a text node, or all text below an element; a document has none itself. -/
def textContent : Node → String
  | root _ => ""
  | node => node.allText

mutual

/-- A node and all nodes below it in document order, each with its depth. -/
def descendants (depth : Nat) : Node → List (Nat × Node)
  | root children => (depth, root children) :: descendantsOf (depth + 1) children
  | element name attributes children =>
    (depth, element name attributes children) :: descendantsOf (depth + 1) children
  | node => [(depth, node)]

/-- The nodes of a list and all nodes below them in document order, each with its depth. -/
def descendantsOf (depth : Nat) : List Node → List (Nat × Node)
  | [] => []
  | node :: rest => node.descendants depth ++ descendantsOf depth rest

end

mutual

/-- A node, if it is visible, and all nodes that are reached from it through visible children,
in document order, each with its depth. -/
def visibleDescendants (depth : Nat) : Node → List (Nat × Node)
  | root _ => []
  | element name attributes children =>
    (depth, element name attributes children) :: visibleDescendantsOf (depth + 1) children
  | node => if node.isVisible then [(depth, node)] else []

/-- The nodes that are reached through visible nodes from the visible members of a list. -/
def visibleDescendantsOf (depth : Nat) : List Node → List (Nat × Node)
  | [] => []
  | node :: rest => node.visibleDescendants depth ++ visibleDescendantsOf depth rest

end

end Node

end Gleaner
