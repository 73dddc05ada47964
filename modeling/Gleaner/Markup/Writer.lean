import Gleaner.Markup.Serialize

/-! # Writing markup

A serializer. Text is written with escapes except inside the elements of a page whose content is
raw; elements of other namespaces have no raw content, whatever their names. -/

namespace Gleaner.Markup

/-- Elements without content or end tag. -/
def voidNames : List String :=
  ["area", "base", "basefont", "bgsound", "br", "col", "embed", "frame", "hr", "img", "input",
    "keygen", "link", "meta", "param", "source", "track", "wbr"]

/-- Elements whose text is written as it is. -/
def rawTextNames : List String :=
  ["style", "script", "xmp", "iframe", "noembed", "noframes", "plaintext"]

/-- Whether a name is one of some elements of a page. -/
def isAmong (names : List String) : ElementName → Bool
  | ⟨.html, name⟩ => names.contains name
  | _ => false

/-- Whether an element has neither content nor end tag. -/
def isVoid (name : ElementName) : Bool := isAmong voidNames name

/-- Whether the text of an element is written as it is. -/
def isRaw (name : ElementName) : Bool := isAmong rawTextNames name

/-- How a character of an attribute value is written between double quotes. -/
def escapeValueChar (c : Char) : List Char :=
  if c = '&' then ['&', 'a', 'm', 'p', ';']
  else if c = '"' then ['&', 'q', 'u', 'o', 't', ';']
  else if c = '\u00a0' then ['&', 'n', 'b', 's', 'p', ';']
  else [c]

/-- An attribute value with the characters escaped that would end it. -/
def escapeValue (value : String) : String :=
  String.ofList (value.toList.flatMap escapeValueChar)

/-- An attribute after the blank that parts it from what is before. -/
def writeAttribute (entry : String × String) : String :=
  " " ++ entry.1 ++ "=\"" ++ escapeValue entry.2 ++ "\""

/-- The start tag of an element. -/
def startTag (name : String) (attributes : Dictionary) : String :=
  "<" ++ name ++ String.join (attributes.entries.map writeAttribute) ++ ">"

/-- The end tag of an element. -/
def endTag (name : String) : String := "</" ++ name ++ ">"

mutual

/-- A node as it is written under a parent whose text is raw or not. Below an element that has no
content, other elements lose their tags, and what is between the tags is written all the same. -/
def write (rawText tagless : Bool) : Node → String
  | .root children => writeAll rawText tagless children
  | .element name attributes children =>
    let content := writeAll (isRaw name) (tagless || isVoid name) children
    if tagless then content
    else if isVoid name then startTag name.name attributes ++ content
    else startTag name.name attributes ++ content ++ endTag name.name
  | .text content => if rawText then content else escapeText content
  | .comment content => "<!--" ++ content ++ "-->"
  | .doctype name => "<!DOCTYPE " ++ name ++ ">"
  | .instruction _ _ => ""

/-- Siblings as they are written, one after the other. -/
def writeAll (rawText tagless : Bool) : List Node → String
  | [] => ""
  | node :: rest => write rawText tagless node ++ writeAll rawText tagless rest

end

/-- Writes an element with its tags, wherever it stands. -/
instance writer : Serializer := ⟨write false false⟩

end Gleaner.Markup
