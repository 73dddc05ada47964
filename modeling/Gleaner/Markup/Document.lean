import Gleaner.Markup.Token
import Gleaner.Markup.Writer

/-! # Documents

The tree of a page or of a fragment of one. A page always has the elements `html`, `head` and
`body`: where the source leaves their tags out, they are supplied before the first content that
needs them. A fragment is content of a body, held by an `html` element of its own. What a
template holds is a document inside it, which programs do not see.

Sources are read for runs, and what is read is a part of the language. No end tags are supplied
inside the body, and every element counts as one of the page, whatever stands around it. -/

namespace Gleaner

/-- A parsed document: the nodes below its root. -/
structure Document where
  nodes : List Node
  isFragment : Bool

namespace Document

open Gleaner.Markup

/-- Elements without content that belong into the head. -/
def voidHeadNames : List String := ["meta", "link", "base", "basefont", "bgsound"]

/-- Elements with content that is no markup that belong into the head. -/
def opaqueHeadNames : List String := ["title", "script", "style", "noscript", "noframes"]

/-- End tags that count although nothing has opened their elements yet. -/
def earlyEndNames : List String := ["head", "body", "html", "br"]

/-- The elements that every page has. -/
def pageNames : List String := ["html", "head", "body"]

/-- Elements that only occur inside a table. -/
def tablePartNames : List String :=
  ["caption", "col", "colgroup", "tbody", "td", "tfoot", "th", "thead", "tr"]

/-- An element that is not closed yet, its children last first. -/
structure OpenElement where
  name : String
  attributes : SourceAttributes
  children : List Node

/-- The element with the children it has so far. -/
def OpenElement.toNode (e : OpenElement) : Node :=
  let children := e.children.reverse
  let children := if e.name = "template" then [.root children] else children
  .element e.name (.ofList e.attributes) children

/-- The part of a page that is being read. -/
inductive Part where
  | beforeHtml
  | beforeHead
  | inHead
  | afterHead
  | inBody
  | afterBody
  | afterHtml

/-- A document under construction. Lists of nodes are kept last first. -/
structure Draft where
  part : Part
  /-- Nodes of the root before the `html` element. -/
  above : List Node
  /-- The open elements, innermost first. -/
  stack : List OpenElement
  /-- Comments after the body. -/
  afterBody : List Node
  /-- Comments after the `html` element. -/
  afterHtml : List Node

namespace Draft

/-- Adds a node to the innermost open element. -/
def add (d : Draft) (node : Node) : Draft :=
  match d.stack with
  | [] => d
  | top :: rest => { d with stack := { top with children := node :: top.children } :: rest }

/-- Adds text to the innermost open element, where it continues text that is last there. Null
characters are left out. -/
def addText (d : Draft) (content : List Char) : Draft :=
  match d.stack with
  | [] => d
  | top :: rest =>
    let content := content.filter (· ≠ '\x00')
    let text := String.ofList content
    let children :=
      match top.children with
      | .text before :: others => .text (before ++ text) :: others
      | others => if content.isEmpty then others else .text text :: others
    { d with stack := { top with children } :: rest }

/-- Adds attributes to the open elements of the given name, as far as they do not have them. -/
def addAttributes (d : Draft) (name : String) (attributes : SourceAttributes) : Draft :=
  let extend (e : OpenElement) : OpenElement :=
    if e.name = name then { e with attributes := attributes.foldl addAttribute e.attributes }
    else e
  { d with stack := d.stack.map extend }

/-- Opens an element inside the innermost open one. -/
def push (d : Draft) (name : String) (attributes : SourceAttributes) : Draft :=
  { d with stack := ⟨name, attributes, []⟩ :: d.stack }

/-- Adds a node to the head after its end. -/
def addToHead (d : Draft) (node : Node) : Draft :=
  let extend : Node → Node
    | .element ⟨.html, "head"⟩ attributes children =>
      .element "head" attributes (children ++ [node])
    | other => other
  { d with stack := d.stack.map fun e => { e with children := e.children.map extend } }

/-- Closes the innermost open element; the outermost stays open. What is closed between head and
body belongs into the head. -/
def pop (d : Draft) : Draft :=
  match d.part, d.stack with
  | .afterHead, [top, html] => { d with stack := [html] }.addToHead top.toNode
  | _, top :: parent :: rest =>
    { d with stack := { parent with children := top.toNode :: parent.children } :: rest }
  | _, _ => d

/-- Closes a number of elements. -/
def popMany : Nat → Draft → Draft
  | 0, d => d
  | count + 1, d => popMany count d.pop

/-- Closes elements up to the innermost one of the given name; without one, none. -/
def close (d : Draft) (name : String) : Draft :=
  match d.stack.findIdx? (·.name = name) with
  | none => d
  | some inside => d.popMany (inside + 1)

/-- An element whose content is text. -/
def opaqueNode (name : String) (attributes : SourceAttributes) (content : List Char) : Node :=
  let children := if content.isEmpty then [] else [.text (String.ofList content)]
  .element name (.ofList attributes) children

/-- Adds an element whose content is text. -/
def addOpaque (d : Draft) (name : String) (attributes : SourceAttributes)
    (content : List Char) : Draft :=
  d.add (opaqueNode name attributes content)

/-- Adds an element without content, or opens one. -/
def addElement (d : Draft) (name : String) (attributes : SourceAttributes) : Draft :=
  if voidNames.contains name then d.add (.element name (.ofList attributes) [])
  else d.push name attributes

/-- Supplies the `html` element. -/
def startHtml (d : Draft) (attributes : SourceAttributes) : Draft :=
  { d.push "html" attributes with part := .beforeHead }

/-- Supplies the `head` element. -/
def startHead (d : Draft) (attributes : SourceAttributes) : Draft :=
  { d.push "head" attributes with part := .inHead }

/-- Ends the head with all that is open in it. -/
def endHead (d : Draft) : Draft := { d.close "head" with part := .afterHead }

/-- Supplies the `body` element. -/
def startBody (d : Draft) (attributes : SourceAttributes) : Draft :=
  { (d.popMany (d.stack.length - 1)).push "body" attributes with part := .inBody }

/-- Whether an element is open. -/
def isOpen (d : Draft) (name : String) : Bool := d.stack.any (·.name = name)

/-- Whether a part of a table may begin here: in a table, or in a template that holds no other
content before its first part of a table. -/
def allowsTablePart (d : Draft) : Bool :=
  let isInner := fun e : OpenElement => e.name ≠ "table" ∧ e.name ≠ "template"
  match d.stack.takeWhile isInner, d.stack.dropWhile isInner with
  | _, [] => false
  | inner, holder :: _ =>
    let names := holder.children.reverse.filterMap Node.tagName? ++
      (inner.getLast?.map (·.name)).toList
    let isNeutral := fun name =>
      name ≠ "noscript" && (voidHeadNames ++ opaqueHeadNames ++ ["template"]).contains name
    holder.name = "table" || ((names.dropWhile isNeutral).head?.all tablePartNames.contains)

/-- Whether a start tag counts for nothing in the body, such as that of a form inside another
one, unless a template holds both. -/
def ignoresTag (d : Draft) (name : String) : Bool :=
  ["head", "frame", "frameset"].contains name ||
    tablePartNames.contains name && !d.allowsTablePart ||
    name = "form" && d.isOpen "form" && !d.isOpen "template"

/-- The name of the element that a tag opens: an image, outside of drawings, is an `img`. -/
def nameFor (d : Draft) (name : String) : String :=
  if name = "image" ∧ !d.isOpen "svg" then "img" else name

/-- Reads a token of the body. The end tag of a line break is one, too, and that of a paragraph
which is not open makes an empty one. -/
def readBody (d : Draft) : Token → Draft
  | .text content => d.addText content
  | .openTag "html" attributes => d.addAttributes "html" attributes
  | .openTag "body" attributes => d.addAttributes "body" attributes
  | .openTag name attributes =>
    if d.ignoresTag name then d else d.addElement (d.nameFor name) attributes
  | .closeTag "body" => { d with part := .afterBody }
  | .closeTag "html" => { d with part := .afterHtml }
  | .closeTag "br" => d.addElement "br" []
  | .closeTag "p" => if d.isOpen "p" then d.close "p" else d.addOpaque "p" [] []
  | .closeTag name => d.close name
  | .opaqueElement name attributes content => d.addOpaque name attributes content
  | .comment content => d.add (.comment (String.ofList content))
  | .doctype _ => d

/-- Reads a token between head and body. Text has no white space in front. -/
def readAfterHead (d : Draft) : Token → Draft
  | .comment content => d.add (.comment (String.ofList content))
  | .doctype _ => d
  | .openTag "html" attributes => d.addAttributes "html" attributes
  | .openTag "head" _ => d
  | .openTag "body" attributes => d.startBody attributes
  | .openTag "template" attributes => d.push "template" attributes
  | .openTag name attributes =>
    if voidHeadNames.contains name then d.addToHead (.element name (.ofList attributes) [])
    else (d.startBody []).readBody (.openTag name attributes)
  | .opaqueElement name attributes content =>
    if name ≠ "noscript" ∧ opaqueHeadNames.contains name then
      d.addToHead (opaqueNode name attributes content)
    else (d.startBody []).readBody (.opaqueElement name attributes content)
  | .closeTag name =>
    if name ≠ "head" ∧ earlyEndNames.contains name then
      (d.startBody []).readBody (.closeTag name)
    else d
  | token => (d.startBody []).readBody token

/-- Reads a token of the head. Text has no white space in front. -/
def readHead (d : Draft) : Token → Draft
  | .comment content => d.add (.comment (String.ofList content))
  | .doctype _ => d
  | .openTag "html" attributes => d.addAttributes "html" attributes
  | .openTag "head" _ => d
  | .openTag "template" attributes => d.push "template" attributes
  | .openTag name attributes =>
    if voidHeadNames.contains name then d.addElement name attributes
    else d.endHead.readAfterHead (.openTag name attributes)
  | .opaqueElement name attributes content =>
    if opaqueHeadNames.contains name then d.addOpaque name attributes content
    else d.endHead.readAfterHead (.opaqueElement name attributes content)
  | .closeTag "head" => d.endHead
  | .closeTag name =>
    if earlyEndNames.contains name then d.endHead.readAfterHead (.closeTag name) else d
  | .text content => d.endHead.readAfterHead (.text content)

/-- Reads a token between the start of `html` and the head. Text has no white space in front. -/
def readBeforeHead (d : Draft) : Token → Draft
  | .comment content => d.add (.comment (String.ofList content))
  | .doctype _ => d
  | .openTag "html" attributes => d.addAttributes "html" attributes
  | .openTag "head" attributes => d.startHead attributes
  | .closeTag name =>
    if earlyEndNames.contains name then (d.startHead []).readHead (.closeTag name) else d
  | token => (d.startHead []).readHead token

/-- Whether a doctype has been read. -/
def hasDoctype (d : Draft) : Bool :=
  d.above.any fun
    | .doctype _ => true
    | _ => false

/-- Reads a token before `html`; only the first doctype counts. Text has no white space in
front. -/
def readBeforeHtml (d : Draft) : Token → Draft
  | .comment content => { d with above := .comment (String.ofList content) :: d.above }
  | .doctype name => if d.hasDoctype then d else { d with above := .doctype name :: d.above }
  | .openTag "html" attributes => d.startHtml attributes
  | .closeTag name =>
    if earlyEndNames.contains name then (d.startHtml []).readBeforeHead (.closeTag name) else d
  | token => (d.startHtml []).readBeforeHead token

/-- Reads a token after the body; content goes back into it. -/
def readAfterBody (d : Draft) : Token → Draft
  | .comment content =>
    match d.part with
    | .afterHtml => { d with afterHtml := .comment (String.ofList content) :: d.afterHtml }
    | _ => { d with afterBody := .comment (String.ofList content) :: d.afterBody }
  | .doctype _ => d
  | .openTag "html" attributes => d.addAttributes "html" attributes
  | .closeTag "html" => { d with part := .afterHtml }
  | token => { d with part := .inBody }.readBody token

/-- Reads a token whose white space in front, if it is text, has been dealt with. -/
def readTrimmed (d : Draft) (token : Token) : Draft :=
  match d.part with
  | .beforeHtml => d.readBeforeHtml token
  | .beforeHead => d.readBeforeHead token
  | .inHead => d.readHead token
  | .afterHead => d.readAfterHead token
  | .inBody => d.readBody token
  | .afterBody => d.readAfterBody token
  | .afterHtml => d.readAfterBody token

/-- What white space adds where no text is expected: nothing before the head. -/
def addSpace (d : Draft) (content : List Char) : Draft :=
  match d.part with
  | .beforeHtml => d
  | .beforeHead => d
  | _ => d.addText content

/-- Reads a token of a page outside templates. -/
def readPage (d : Draft) : Token → Draft
  | .text content =>
    match d.part with
    | .inBody => d.readBody (.text content)
    | _ =>
      let d := d.addSpace (content.takeWhile isSpace)
      let rest := content.dropWhile isSpace
      if rest.isEmpty then d else d.readTrimmed (.text rest)
  | token => d.readTrimmed token

/-- Reads a token inside a template, where the tags of the page itself count for nothing. -/
def readTemplate (d : Draft) : Token → Draft
  | .openTag name attributes =>
    if pageNames.contains name then d else d.readBody (.openTag name attributes)
  | .closeTag name => if pageNames.contains name then d else d.readBody (.closeTag name)
  | token => d.readBody token

/-- Reads a token of a page. -/
def read (d : Draft) (token : Token) : Draft :=
  if d.isOpen "template" then d.readTemplate token else d.readPage token

/-- Supplies what is missing at the end of a page. -/
def complete (d : Draft) : Draft :=
  let d := match d.part with | .beforeHtml => d.startHtml [] | _ => d
  let d := match d.part with | .beforeHead => d.startHead [] | _ => d
  let d := match d.part with | .inHead => d.endHead | _ => d
  match d.part with | .afterHead => d.startBody [] | _ => d

/-- Closes all elements: the nodes below the root. -/
def nodes (d : Draft) : List Node :=
  match (d.popMany d.stack.length).stack with
  | [] => d.above.reverse
  | html :: _ =>
    let html := { html with children := d.afterBody ++ html.children }
    d.above.reverse ++ html.toNode :: d.afterHtml.reverse

end Draft

/-- The tree of a page. -/
def parse (source : String) : Document :=
  let start : Draft := ⟨.beforeHtml, [], [], [], []⟩
  ⟨((tokens source).foldl Draft.read start).complete.nodes, false⟩

/-- The tree of a fragment. -/
def parseFragment (source : String) : Document :=
  let start : Draft := ⟨.inBody, [], [⟨"html", [], []⟩], [], []⟩
  ⟨((tokens source).foldl Draft.readBody start).nodes, true⟩

/-- The root of a document. -/
def root (document : Document) : Node := .root document.nodes

/-- The sibling list that a run starts from: the visible nodes of the top level, where that of
a fragment lies inside its `html` element. -/
def rootNodes (document : Document) : List Node :=
  if document.isFragment then
    match document.nodes.find? Node.isElement with
    | some html => html.children
    | none => []
  else document.root.children

/-- The markup of a whole document. -/
def html (document : Document) : String := writeAll false false document.nodes

end Document

end Gleaner
