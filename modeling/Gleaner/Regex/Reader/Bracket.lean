import Gleaner.Regex.Nested
import Gleaner.Regex.Reader.Escape

/-! # Reading a class in brackets

A class between square brackets, read one character at a time. Classes nest, and the operators
`&&`, `--` and `~~` combine what stands on both sides of them, from left to right. Where case is
ignored, each item folds as it is added, and so do all sets that are made of them. -/

namespace Gleaner.Regex.Reader

open Gleaner.Unicode

/-- An operator between two parts of a class. -/
inductive SetOperator where
  | inter
  | diff
  | symmDiff

/-- The set that an operator makes of two. -/
def SetOperator.apply : SetOperator → CharSet → CharSet → CharSet
  | inter => .inter
  | diff => .diff
  | symmDiff => .symmDiff

/-- An open bracket. -/
structure Bracket where
  negated : Bool
  /-- What is to the left of the last operator. -/
  left : Option (SetOperator × Nested CharSet)
  /-- The items since then, last first. -/
  items : List (Nested CharSet)

/-- Something that may be the first end of a range. -/
inductive ClassItem where
  | char (c : Char)
  | set (s : CharSet)

/-- The set of an item by itself. -/
def ClassItem.toSet (ignoreCase : Bool) : ClassItem → CharSet
  | char c => .letter ignoreCase c
  | set s => s.foldIf ignoreCase

/-- What stands between a hyphen and the character that may end a range. -/
inductive Gap where
  | nothing
  | blanks
  /-- A comment has begun, and held nothing but white space so far. It may be over, too. -/
  | comment

/-- How far the innermost open bracket has been read. -/
inductive BracketMode where
  /-- After the bracket, where a caret negates. -/
  | start
  /-- Before the first item that is not a hyphen; `fresh` if there was no hyphen either. -/
  | lead (fresh : Bool)
  /-- Where an item may begin. -/
  | ready
  /-- After an item that a hyphen may turn into a range. -/
  | item (i : ClassItem)
  /-- After an item and a hyphen, while it is open whether they begin a range. -/
  | dash (i : ClassItem) (gap : Gap)
  /-- After an item and a hyphen that begin a range. -/
  | rangeEnd (i : ClassItem)
  /-- After a character which, written twice, is an operator. -/
  | half (mark : Char) (operator : SetOperator)
  /-- After a bracket and characters that may become a named class, last first. -/
  | name (read : List Char)
  /-- Inside an escape, which ends a range if that has begun. -/
  | escape (e : Escape) (rangeFrom : Option Char)

/-- A class that is being read: the innermost open bracket and those around it. -/
structure ClassState where
  innermost : Bracket
  outer : List Bracket
  mode : BracketMode

/-- A bracket that has just been opened. -/
def Bracket.opened : Bracket := ⟨false, none, []⟩

/-- Adds a set to the items. -/
def Bracket.add (b : Bracket) (set : Nested CharSet) : Bracket :=
  { b with items := set :: b.items }

/-- The union of the items. -/
def Bracket.union (b : Bracket) : Nested CharSet :=
  ⟨b.items.foldr (fun item set => .union set item.value) .empty, Nested.depthBeside b.items⟩

/-- What an open bracket holds, its last operator applied. -/
def Bracket.combined (b : Bracket) : Nested CharSet :=
  match b.left with
  | none => b.union
  | some (operator, left) =>
    let right := b.union
    ⟨operator.apply left.value right.value, max left.depth right.depth + 1⟩

/-- The set of a complete bracket. -/
def Bracket.toSet (b : Bracket) : Nested CharSet := b.combined.around (.complIf b.negated)

/-- The named classes with all that is written after their bracket, negated or not. -/
def namedClasses : List (List Char × Bool × CharSet) :=
  CharSet.named.flatMap fun (name, set) =>
    [(':' :: name ++ [':', ']'], false, set), (':' :: '^' :: name ++ [':', ']'], true, set)]

namespace ClassState

/-- The state after the first bracket. -/
def opened : ClassState := ⟨.opened, [], .start⟩

/-- Adds a set to the items of the innermost bracket. -/
def add (s : ClassState) (set : CharSet) (mode : BracketMode) : ClassState :=
  { s with innermost := s.innermost.add (.leaf set), mode }

/-- Begins the right side of an operator. -/
def operate (s : ClassState) (operator : SetOperator) : ClassState :=
  let left := some (operator, s.innermost.combined)
  { s with innermost := { s.innermost with left, items := [] }, mode := .ready }

/-- Opens a bracket inside the innermost one. -/
def nest (s : ClassState) : ClassState := ⟨.opened, s.innermost :: s.outer, .start⟩

/-- Closes the innermost bracket; the class goes on or is complete. -/
def close (s : ClassState) : ClassState ⊕ Nested CharSet :=
  let set := s.innermost.toSet
  match s.outer with
  | [] => .inr set
  | parent :: outer => .inl ⟨parent.add set, outer, .ready⟩

/-- Reads a character where an item may begin. -/
def readReady (s : ClassState) : Char → ClassState ⊕ Nested CharSet
  | '[' => .inl { s with mode := .name [] }
  | ']' => s.close
  | '&' => .inl { s with mode := .half '&' .inter }
  | '-' => .inl { s with mode := .half '-' .diff }
  | '~' => .inl { s with mode := .half '~' .symmDiff }
  | '\\' => .inl { s with mode := .escape .start none }
  | c => .inl { s with mode := .item (.char c) }

/-- Adds an item that begins no range. -/
def addItem (ignoreCase : Bool) (s : ClassState) (i : ClassItem) (mode : BracketMode) :
    ClassState :=
  s.add (i.toSet ignoreCase) mode

/-- Reads a character after an item. -/
def readItem (ignoreCase : Bool) (s : ClassState) (i : ClassItem) (c : Char) :
    ClassState ⊕ Nested CharSet :=
  if c = '-' then .inl { s with mode := .dash i .nothing }
  else (s.addItem ignoreCase i .ready).readReady c

/-- Reads a character after a bracket, its caret and hyphens. -/
def readLead (s : ClassState) (fresh : Bool) (c : Char) : ClassState ⊕ Nested CharSet :=
  if c = '-' then .inl (s.add (.single '-') (.lead false))
  else if c = ']' ∧ fresh then .inl (s.add (.single ']') .ready)
  else readReady s c

/-- Adds the range between two ends, if they are characters in order. -/
def addRange (ignoreCase : Bool) (s : ClassState) : ClassItem → Char → Option ClassState
  | .char first, last =>
    if first ≤ last then some (s.add ((CharSet.range first last).foldIf ignoreCase) .ready)
    else none
  | .set _, _ => none

/-- Reads the character at the end of a range. -/
def readRangeEnd (ignoreCase : Bool) (s : ClassState) (i : ClassItem) :
    Char → Option (ClassState ⊕ Nested CharSet)
  | '\\' =>
    match i with
    | .char first => some (.inl { s with mode := .escape .start (some first) })
    | .set _ => none
  | c => (s.addRange ignoreCase i c).map .inl

/-- Reads a character after an item and a hyphen. Before the end of the class and before another
hyphen they begin no range. -/
def readDash (ignoreCase : Bool) (s : ClassState) (i : ClassItem) (gap : Gap) :
    Char → Option (ClassState ⊕ Nested CharSet)
  | ']' => some ((s.addItem ignoreCase i .ready).add (.single '-') .ready).close
  | '-' =>
    match gap with
    | .nothing => some (.inl ((s.addItem ignoreCase i .ready).operate .diff))
    | _ => some (.inl (s.addItem ignoreCase i (.dash (.char '-') .nothing)))
  | c => s.readRangeEnd ignoreCase i c

/-- Takes up what an escape stands for. -/
def endEscape (ignoreCase : Bool) (s : ClassState) (rangeFrom : Option Char) :
    EscapeValue → Option ClassState
  | .char c =>
    match rangeFrom with
    | none => some { s with mode := .item (.char c) }
    | some first => s.addRange ignoreCase (.char first) c
  | .set set =>
    match rangeFrom with
    | none => some { s with mode := .item (.set set) }
    | some _ => none
  | .look _ => none

/-- Reads the next character of a class outside a name. -/
def readPlain (ignoreCase : Bool) (s : ClassState) (c : Char) :
    Option (ClassState ⊕ Nested CharSet) :=
  match s.mode with
  | .start =>
    if c = '^' then
      some (.inl { s with innermost := { s.innermost with negated := true }, mode := .lead true })
    else some (s.readLead true c)
  | .lead fresh => some (s.readLead fresh c)
  | .ready => some (s.readReady c)
  | .item i => some (s.readItem ignoreCase i c)
  | .dash i gap => s.readDash ignoreCase i gap c
  | .rangeEnd i => s.readRangeEnd ignoreCase i c
  | .half mark operator =>
    if c = mark then some (.inl (s.operate operator))
    else some (s.readItem ignoreCase (.char mark) c)
  | .escape e rangeFrom =>
    (e.read c).bind fun
      | .inl e => some (.inl { s with mode := .escape e rangeFrom })
      | .inr value => (s.endEscape ignoreCase rangeFrom value).map .inl
  | .name _ => none

/-- Takes a bracket whose name does not come about as the beginning of a nested class, with the
characters read since as its first items. -/
def abandonName (ignoreCase : Bool) (s : ClassState) : Option ClassState :=
  match s.mode with
  | .name read =>
    read.reverse.foldlM (fun s c => (s.readPlain ignoreCase c).bind (·.getLeft?)) s.nest
  | _ => some s

/-- Reads the next character of a class; the class goes on or is complete. -/
def read (ignoreCase : Bool) (s : ClassState) (c : Char) : Option (ClassState ⊕ Nested CharSet) :=
  match s.mode with
  | .name read =>
    let text := (c :: read).reverse
    match namedClasses.find? (·.1 = text) with
    | some (_, negated, set) =>
      some (.inl (s.add ((set.foldIf ignoreCase).complIf negated) .ready))
    | none =>
      if namedClasses.any (text.isPrefixOf ·.1) then
        some (.inl { s with mode := .name (c :: read) })
      else (s.abandonName ignoreCase).bind (·.readPlain ignoreCase c)
  | _ => s.readPlain ignoreCase c

/-- The state after a skipped character that follows an item and a hyphen. Whether they begin a
range shows at the first character after the white space; if that is a number sign, it shows at
the first later character that is not white space, even if that is part of the comment. -/
def skipDash (ignoreCase : Bool) (s : ClassState) (i : ClassItem) (gap : Gap) (c : Char) :
    ClassState :=
  match gap with
  | .comment =>
    if isWhiteSpace c then s
    else if c = ']' ∨ c = '-' then s.addItem ignoreCase i (.item (.char '-'))
    else { s with mode := .rangeEnd i }
  | _ => { s with mode := .dash i (if c = '#' then .comment else .blanks) }

/-- The state after a character that is skipped, being white space or part of a comment, unless
it counts here. -/
def skip (ignoreCase : Bool) (s : ClassState) (c : Char) : Option ClassState :=
  match s.mode with
  | .dash i gap => some (s.skipDash ignoreCase i gap c)
  | .half mark _ => some { s with mode := .item (.char mark) }
  | .name _ => s.abandonName ignoreCase
  | .escape e _ => if e.skipsBlank then some s else none
  | _ => some s

end ClassState

end Gleaner.Regex.Reader
