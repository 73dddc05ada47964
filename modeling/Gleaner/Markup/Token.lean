import Gleaner.Markup.Content

/-! # Tokens of markup

Markup is a run of tags, comments, doctypes and text. References are resolved in text. An element
whose content is no markup is one token together with its content. -/

namespace Gleaner.Markup

/-- A piece of markup. -/
inductive Token where
  | text (content : List Char)
  | openTag (name : String) (attributes : SourceAttributes)
  | closeTag (name : String)
  /-- An element with content that is no markup. -/
  | opaqueElement (name : String) (attributes : SourceAttributes) (content : List Char)
  | comment (content : List Char)
  | doctype (name : String)

/-- Line ends of all kinds as line feeds. -/
def normalizeLines : List Char → List Char
  | '\r' :: '\n' :: rest => '\n' :: normalizeLines rest
  | '\r' :: rest => '\n' :: normalizeLines rest
  | c :: rest => c :: normalizeLines rest
  | [] => []

/-- Whether markup other than text begins here. -/
def startsMarkup : List Char → Bool
  | '<' :: c :: _ => c.isAlpha || c = '/' || c = '!'
  | _ => false

/-- Splits off the text before the next markup. -/
def splitText : List Char → List Char × List Char
  | [] => ([], [])
  | c :: rest =>
    if startsMarkup (c :: rest) then ([], c :: rest)
    else
      let (text, after) := splitText rest
      (c :: text, after)

/-- Reads a start tag after its angle bracket, with the content of an element that holds no
markup. A tag that does not end is dropped with all that follows. After `plaintext` there is no
markup any more. -/
def readStartTag (cs : List Char) : Option Token × List Char :=
  let name := nameOf (cs.takeWhile isTagNameChar)
  match readAttributes cs.length [] (cs.dropWhile isTagNameChar) with
  | none => (none, [])
  | some (attributes, rest) =>
    if rawContentNames.contains name then
      let (content, after) := splitOpaque name rest
      (some (.opaqueElement name attributes (content.map replaceNull)), after)
    else if plainContentNames.contains name then
      let (content, after) := splitOpaque name rest
      let content := resolve (content.map replaceNull)
      let content := if preformattedNames.contains name then dropLineFeed content else content
      (some (.opaqueElement name attributes content), after)
    else if name = "plaintext" then
      (some (.opaqueElement name attributes (rest.map replaceNull)), [])
    else (some (.openTag name attributes), rest)

/-- Splits off the content of a comment of which some has been read, and which an exclamation
mark may end, too. Hyphens at the end of the source do not count. -/
def splitCommentRest : List Char → List Char × List Char
  | [] => ([], [])
  | '-' :: '-' :: '>' :: rest => ([], rest)
  | '-' :: '-' :: '!' :: '>' :: rest => ([], rest)
  | ['-', '-', '!'] => ([], [])
  | ['-', '-'] => ([], [])
  | ['-'] => ([], [])
  | c :: rest =>
    let (content, after) := splitCommentRest rest
    (c :: content, after)

/-- Splits off the content of a comment, which may end as soon as it begins. -/
def splitComment : List Char → List Char × List Char
  | '>' :: rest => ([], rest)
  | '-' :: '>' :: rest => ([], rest)
  | cs => splitCommentRest cs

/-- Reads the first token. A tag that does not end yields none. An end tag without a name is an
empty text: it adds nothing, but a line feed after it is not the first of an element. -/
def readToken : List Char → Option Token × List Char
  | '<' :: '/' :: c :: rest =>
    if c.isAlpha then
      (some (.closeTag (nameOf ((c :: rest).takeWhile isTagNameChar))),
        afterTag ((c :: rest).dropWhile isTagNameChar))
    else if c = '>' then (some (.text []), rest)
    else readComment (splitAt ['>'] (c :: rest))
  | '<' :: '!' :: '-' :: '-' :: rest => readComment (splitComment rest)
  | '<' :: '!' :: rest =>
    let (content, after) := splitAt ['>'] rest
    if ['d', 'o', 'c', 't', 'y', 'p', 'e'].isPrefixOf (content.map Char.toLower) then
      (some (.doctype (nameOf (((content.drop 7).dropWhile isSpace).takeWhile isTagNameChar))),
        after)
    else readComment (content, after)
  | '<' :: c :: rest =>
    if c.isAlpha then readStartTag (c :: rest) else readText '<' (c :: rest)
  | c :: rest => readText c rest
  | [] => (none, [])
where
  /-- The comment with the given content. -/
  readComment (split : List Char × List Char) : Option Token × List Char :=
    (some (.comment (split.1.map replaceNull)), split.2)
  /-- Reads text that begins with `c`, whatever that is. -/
  readText (c : Char) (rest : List Char) : Option Token × List Char :=
    let (text, after) := splitText rest
    (some (.text (resolve (c :: text))), after)

/-- Reads tokens until none is left; `budget` is at least the number of characters. -/
def readTokens : Nat → List Char → List Token
  | _, [] => []
  | 0, _ => []
  | budget + 1, cs =>
    let (token, rest) := readToken cs
    token.toList ++ readTokens budget rest

/-- Drops the line feeds that do not count after start tags. -/
def dropFirstLineFeeds : List Token → List Token
  | .openTag name attributes :: .text content :: rest =>
    let content := if preformattedNames.contains name then dropLineFeed content else content
    .openTag name attributes :: .text content :: dropFirstLineFeeds rest
  | token :: rest => token :: dropFirstLineFeeds rest
  | [] => []

/-- The tokens of a source text. -/
def tokens (source : String) : List Token :=
  let cs := normalizeLines (dropByteOrderMark source.toList)
  dropFirstLineFeeds (readTokens cs.length cs)

end Gleaner.Markup
