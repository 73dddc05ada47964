import Gleaner.Display
import Gleaner.Markup.Serialize

/-! # Reading values from nodes

What is read from a node that a step has found. Nothing here can fail a run: an attribute that
is missing is missing from the values, and text that cannot be told is left out, with the reason
at hand for the log. -/

namespace Gleaner

/-- A request for something to be read from a node. -/
inductive Extraction where
  /-- The value of an attribute. -/
  | attr (key : String)
  /-- The value of the first attribute that is there. -/
  | anyAttr (keys : List String)
  /-- The text of a text node, or of the only child of an element. -/
  | text
  /-- The markup of all visible children, each on a line of its own. -/
  | html

/-- How a request reads. -/
def Extraction.display : Extraction → Display
  | attr key => .applied "Attr" [.quote key]
  | anyAttr keys => .applied "AnyAttr" [.items (keys.map .quote)]
  | text => .atom "Text"
  | html => .atom "Html"

/-- Why a node has no text of its own. -/
inductive TextFault where
  /-- The only child is an element. -/
  | elementChild (tag child : String)
  | noChildren (tag : String)
  | manyChildren (tag : String) (children : Nat)

/-- What was read from a node. -/
structure Values where
  attrs : Dictionary
  text : Option String
  html : Option String

namespace Values

/-- Nothing was read. -/
def empty : Values := ⟨.empty, none, none⟩

/-- The value of an attribute, if it was asked for and there. -/
def attr? (values : Values) (key : String) : Option String := values.attrs.get? key

/-- The value of the first of some attributes that was read. -/
def anyAttr? (values : Values) (keys : List String) : Option String :=
  keys.findSome? values.attr?

/-- Whether nothing was read. -/
def isEmpty (values : Values) : Bool :=
  values.attrs.isEmpty && values.text.isNone && values.html.isNone

end Values

namespace Node

/-- The text of a text node, or of the only visible child of an element. -/
def ownText (node : Node) : Except TextFault String :=
  match node.text? with
  | some content => .ok content
  | none =>
    let tag := node.tagName?.getD ""
    match node.children with
    | [] => .error (.noChildren tag)
    | [child] =>
      match child.text? with
      | some content => .ok content
      | none => .error (.elementChild tag (child.tagName?.getD ""))
    | children => .error (.manyChildren tag children.length)

/-- The text of a node where it can be told. -/
def ownText? (node : Node) : Option String := node.ownText.toOption

/-- The markup of the visible children, each on a line of its own, unless there are none. -/
def innerHtml? [Serializer] (node : Node) : Option String :=
  match node.children with
  | [] => none
  | children => some ("\n".intercalate (children.map Node.html))

/-- The first of some attributes that a node has, with its value. -/
def firstAttribute? (node : Node) (keys : List String) : Option (String × String) :=
  keys.findSome? fun key => (node.attribute? key).map (key, ·)

end Node

namespace Extraction

/-- Adds to the values of a node what a request asks for. -/
def apply [Serializer] (node : Node) (values : Values) : Extraction → Values
  | attr key =>
    match node.attribute? key with
    | some value => { values with attrs := values.attrs.insert key value }
    | none => values
  | anyAttr keys =>
    match node.firstAttribute? keys with
    | some (key, value) => { values with attrs := values.attrs.insert key value }
    | none => values
  | text => { values with text := node.ownText? }
  | html => { values with html := node.innerHtml? }

/-- The values of a node for a list of requests. -/
def valuesOf [Serializer] (node : Node) (extractions : List Extraction) : Values :=
  extractions.foldl (apply node) .empty

/-- The reasons why requests for text find none, one for each such request. -/
def textFaults (node : Node) (extractions : List Extraction) : List TextFault :=
  extractions.filterMap fun
    | text => match node.ownText with
      | .ok _ => none
      | .error fault => some fault
    | _ => none

end Extraction

end Gleaner
