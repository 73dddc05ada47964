import Gleaner.Markup.Attribute

/-! # Content that is no markup

Some elements hold text up to their own end tag, whatever tags and comments it looks like. A
script may be hidden in a comment, for readers that do not know the element, and the comment may
hold another script with tags of its own: its end tag then does not end the outer one. -/

namespace Gleaner.Markup

/-- A text without the byte order mark that it may begin with. -/
def dropByteOrderMark : List Char → List Char
  | '\ufeff' :: rest => rest
  | cs => cs

/-- Elements whose content is text up to their end tag, without references. -/
def rawContentNames : List String :=
  ["script", "style", "noscript", "xmp", "iframe", "noembed", "noframes"]

/-- Elements whose content is text up to their end tag, with references. -/
def plainContentNames : List String := ["title", "textarea"]

/-- Elements in which a line feed directly after the start tag does not count. -/
def preformattedNames : List String := ["pre", "listing", "textarea"]

/-- A text without the line feed that it may begin with. -/
def dropLineFeed : List Char → List Char
  | '\n' :: rest => rest
  | cs => cs

/-- Whether the name of a tag begins here and is `name`. -/
def startsName (name cs : List Char) : Bool :=
  (cs.take name.length).map Char.toLower = name &&
    (cs.drop name.length).head?.any (!isTagNameChar ·)

/-- Whether the start tag of the element `name` begins here. -/
def startsStartTag (name : List Char) : List Char → Bool
  | '<' :: rest => startsName name rest
  | _ => false

/-- Whether the end tag of the element `name` begins here. -/
def startsEndTag (name : List Char) : List Char → Bool
  | '<' :: '/' :: rest => startsName name rest
  | _ => false

/-- What follows the end tag of the element `name`, which begins here. -/
def afterEndTag (name cs : List Char) : List Char := afterTag (cs.drop (name.length + 2))

/-- Splits off the content of an element that ends only with its own end tag, which is left
out. -/
def splitContent (name : List Char) : List Char → List Char × List Char
  | [] => ([], [])
  | c :: rest =>
    if startsEndTag name (c :: rest) then ([], afterEndTag name (c :: rest))
    else
      let (content, after) := splitContent name rest
      (c :: content, after)

/-- The name of the element that holds a script. -/
def scriptName : List Char := ['s', 'c', 'r', 'i', 'p', 't']

/-- The kinds of places in a script. -/
inductive ScriptPlace where
  /-- Outside comments. -/
  | bare
  /-- In a comment. -/
  | hidden
  /-- In a script inside a comment. -/
  | inner

/-- The kind of the next place, by what begins at this one. -/
def ScriptPlace.next : ScriptPlace → List Char → ScriptPlace
  | bare, cs => if ['<', '!', '-', '-'].isPrefixOf cs then hidden else bare
  | hidden, cs =>
    if ['-', '-', '>'].isPrefixOf cs then bare
    else if startsStartTag scriptName cs then inner
    else hidden
  | inner, cs =>
    if ['-', '-', '>'].isPrefixOf cs then bare
    else if startsEndTag scriptName cs then hidden
    else inner

/-- Whether an end tag at such a place ends the script. -/
def ScriptPlace.mayEnd : ScriptPlace → Bool
  | inner => false
  | _ => true

/-- Splits off the content of a script from some place in it. A byte order mark directly after
the end tag does not count. -/
def splitScript (place : ScriptPlace) : List Char → List Char × List Char
  | [] => ([], [])
  | c :: rest =>
    if place.mayEnd && startsEndTag scriptName (c :: rest) then
      ([], dropByteOrderMark (afterEndTag scriptName (c :: rest)))
    else
      let (content, after) := splitScript (place.next (c :: rest)) rest
      (c :: content, after)

/-- Splits off the content of an element that holds no markup. -/
def splitOpaque (name : String) (cs : List Char) : List Char × List Char :=
  if name.toList = scriptName then splitScript .bare cs else splitContent name.toList cs

end Gleaner.Markup
