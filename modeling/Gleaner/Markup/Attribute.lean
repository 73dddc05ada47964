import Gleaner.Markup.Reference

/-! # Names and attributes

What stands between the angle brackets of a tag. Names do not depend on the case of ASCII letters
and are kept in lower case; references are resolved in values. -/

namespace Gleaner.Markup

/-- Attributes in the order of the source. -/
abbrev SourceAttributes := List (String × String)

/-- The white space of markup. A carriage return can only come from a reference, since line ends
are line feeds by then. -/
def isSpace (c : Char) : Bool := c = ' ' || c = '\t' || c = '\n' || c = '\x0c' || c = '\r'

/-- The replacement character in place of the null character, which is allowed nowhere. -/
def replaceNull (c : Char) : Char := if c = '\x00' then '\ufffd' else c

/-- Whether a character may be part of a tag's name. -/
def isTagNameChar (c : Char) : Bool := !isSpace c && c ≠ '/' && c ≠ '>'

/-- Whether a character may be part of an attribute's name, the first one apart. -/
def isAttributeNameChar (c : Char) : Bool := isTagNameChar c && c ≠ '='

/-- A name in lower case. -/
def nameOf (cs : List Char) : String := String.ofList (cs.map (Char.toLower ∘ replaceNull))

/-- Splits at the first place where `mark` stands, which is left out; without one, all is before
it. -/
def splitAt (mark : List Char) : List Char → List Char × List Char
  | [] => ([], [])
  | c :: rest =>
    if mark.isPrefixOf (c :: rest) then ([], (c :: rest).drop mark.length)
    else
      let (before, after) := splitAt mark rest
      (c :: before, after)

/-- Reads the value of an attribute after its equals sign. -/
def readValue : List Char → List Char × List Char
  | '"' :: rest => splitAt ['"'] rest
  | '\'' :: rest => splitAt ['\''] rest
  | cs =>
    let plain := fun c => !isSpace c && c ≠ '>'
    (cs.takeWhile plain, cs.dropWhile plain)

/-- Reads an attribute that begins with `first`: its name, its value if it has one, and what is
after it. -/
def readAttribute (first : Char) (cs : List Char) : (String × String) × List Char :=
  let name := nameOf (first :: cs.takeWhile isAttributeNameChar)
  match (cs.dropWhile isAttributeNameChar).dropWhile isSpace with
  | '=' :: rest =>
    let (value, after) := readValue (rest.dropWhile isSpace)
    ((name, String.ofList (resolve (value.map replaceNull))), after)
  | after => ((name, ""), after)

/-- Adds an attribute, unless there is one of its name. -/
def addAttribute (attributes : SourceAttributes) (entry : String × String) : SourceAttributes :=
  if attributes.any (·.1 = entry.1) then attributes else attributes ++ [entry]

/-- Reads attributes up to the end of a tag, in the order of the source and each name once: of
two attributes with one name the first counts. Gives nothing if the tag does not end. `budget`
is at least the number of characters. -/
def readAttributes (budget : Nat) (seen : SourceAttributes) (cs : List Char) :
    Option (SourceAttributes × List Char) :=
  match budget, cs.dropWhile fun c => isSpace c || c = '/' with
  | _, [] => none
  | _, '>' :: rest => some (seen, rest)
  | 0, _ => none
  | budget + 1, c :: rest =>
    let (entry, after) := readAttribute c rest
    readAttributes budget (addAttribute seen entry) after

/-- What follows a tag whose name has been read; nothing, if the tag does not end. -/
def afterTag (cs : List Char) : List Char :=
  match readAttributes cs.length [] cs with
  | some (_, rest) => rest
  | none => []

end Gleaner.Markup
