import Gleaner.Markup.Node

/-! # The markup of nodes

Elements are written by a serializer, which is a parameter: how it writes the children of an element
is its own affair. A text node that stands alone is written here, and always escaped, while how a
serializer writes a text child can depend on the parent. -/

namespace Gleaner

/-- What writes elements as markup. -/
class Serializer where
  /-- The markup of an element with everything below it. -/
  write : Node → String

namespace Markup

/-- How a character of text is written. -/
def escapeChar (c : Char) : List Char :=
  if c = '&' then ['&', 'a', 'm', 'p', ';']
  else if c = '<' then ['&', 'l', 't', ';']
  else if c = '>' then ['&', 'g', 't', ';']
  else if c = '\u00a0' then ['&', 'n', 'b', 's', 'p', ';']
  else [c]

/-- Text with the characters escaped that markup would take for its own. -/
def escapeText (text : String) : String := String.ofList (text.toList.flatMap escapeChar)

end Markup

/-- The markup of an element or of a text node that stands alone; other nodes have none. -/
def Node.html [Serializer] : Node → String
  | text content => Markup.escapeText content
  | element name attributes children => Serializer.write (element name attributes children)
  | _ => ""

end Gleaner
