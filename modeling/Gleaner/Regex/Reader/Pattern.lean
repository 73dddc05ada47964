import Gleaner.Regex.Reader.Bracket

/-! # Reading a pattern

A pattern is read one character at a time, from left to right and without going back, so what
has been read of a text is a state, and a text is read by reading its parts one after the other.
The state holds the open groups and the flags that are on. Laziness and the swap of greediness
are accepted and forgotten, since they never change whether a pattern matches. A pattern in which
groups, repetitions, branches and classes nest too deep is refused at its end. -/

namespace Gleaner.Regex.Reader

open Gleaner.Text Gleaner.Unicode

/-- The flags that change what a pattern means or how it is read. -/
structure Flags where
  ignoreCase : Bool
  multiLine : Bool
  dotAll : Bool
  /-- Lines may end in a carriage return as well. -/
  anyLineEnd : Bool
  /-- White space and comments are skipped. -/
  verbose : Bool

/-- No flag is on. -/
def Flags.none : Flags := ⟨false, false, false, false, false⟩

/-- What has been read of a group, or of the whole pattern, at its own level. -/
structure Level where
  /-- The complete branches, last first. -/
  branches : List (Nested Expr)
  /-- The items of the current branch, last first. -/
  items : List (Nested Expr)
  /-- Whether a repetition may follow. -/
  repeatable : Bool

/-- A level at its start. -/
def Level.start : Level := ⟨[], [], false⟩

/-- The items of the current branch one after the other. -/
def Level.branch (l : Level) : Nested Expr :=
  ⟨l.items.foldl (fun rest item => .seq item.value rest) .empty, Nested.depthBeside l.items⟩

/-- The expression of a level. -/
def Level.toExpr (l : Level) : Nested Expr :=
  ⟨l.branches.foldl (fun rest branch => .alt branch.value rest) l.branch.value,
    Nested.depthBeside (l.branch :: l.branches)⟩

/-- How far a repetition count between braces has been read. -/
inductive Count where
  /-- Before the first digit. -/
  | start
  | least (n : Nat)
  /-- After white space that ended the first number. -/
  | leastEnd (n : Nat)
  /-- Directly after the comma. -/
  | comma (least : Nat)
  /-- After white space that follows the comma. -/
  | mostStart (least : Nat)
  | most (least n : Nat)
  /-- After white space that ended the second number. -/
  | mostEnd (least n : Nat)

/-- Flags between a parenthesis and a colon or parenthesis, as far as they have been read. -/
structure FlagList where
  /-- The letters and the minus sign, last first. -/
  read : List Char
  /-- The flags that result. -/
  flags : Flags

/-- Where in a pattern the reader is. -/
inductive Mode where
  /-- Where an item, an operator or a parenthesis may stand. -/
  | item
  /-- After a repetition that a question mark makes lazy, if it follows at once. -/
  | lazyMark
  /-- After a counted repetition, which a question mark makes lazy. -/
  | countLazyMark
  | count (c : Count)
  | escape (e : Escape)
  | bracket (s : ClassState)
  /-- After the condition `\b`, which a name between braces may make another one. -/
  | boundary
  /-- After the brace of such a name, or of a count. -/
  | boundaryOpen
  /-- Inside such a name, last character first. -/
  | boundaryName (read : List Char)
  /-- After an opening parenthesis. -/
  | groupOpen
  /-- After an opening parenthesis and a question mark. -/
  | groupMark
  /-- After the letter that announces a name. -/
  | groupLetter
  /-- After the angle bracket before a name. -/
  | groupAngle
  /-- Inside the name of a group, last character first. -/
  | groupName (read : List Char)
  | groupFlags (l : FlagList)

/-- A pattern of which some characters have been read. -/
structure State where
  mode : Mode
  /-- Inside a comment, up to the end of the line. -/
  inComment : Bool
  flags : Flags
  level : Level
  /-- The levels around the innermost open group, each with the flags it goes on with. -/
  outer : List (Flags × Level)
  /-- The names given to groups. -/
  names : List (List Char)

namespace State

/-- Before the first character. -/
def start (ignoreCase : Bool) : State :=
  ⟨.item, false, { Flags.none with ignoreCase }, .start, [], []⟩

/-- Adds an item to the current branch. -/
def push (s : State) (e : Nested Expr) : State :=
  { s with
    mode := .item
    level := { s.level with items := e :: s.level.items, repeatable := true } }

/-- Adds one character of a set. -/
def pushSet (s : State) (set : CharSet) : State := s.push (.leaf (.chars set))

/-- Adds a condition. -/
def pushLook (s : State) (a : Assertion) : State := s.push (.leaf (.look a))

/-- Adds a character that stands for itself. -/
def pushChar (s : State) (c : Char) : State :=
  s.pushSet (.letter s.flags.ignoreCase c)

/-- What the dot stands for. -/
def dot (f : Flags) : CharSet :=
  if f.dotAll then .compl .empty
  else if f.anyLineEnd then .compl (.union (.single '\n') (.single '\r'))
  else .compl (.single '\n')

/-- What the caret stands for. -/
def caret (f : Flags) : Assertion :=
  if !f.multiLine then .textStart else if f.anyLineEnd then .anyLineStart else .lineStart

/-- What the dollar sign stands for. -/
def dollar (f : Flags) : Assertion :=
  if !f.multiLine then .textEnd else if f.anyLineEnd then .anyLineEnd else .lineEnd

/-- Repeats the last item, if there is one. -/
def repeatLast (s : State) (least : Nat) (more : Option Nat) (mode : Mode) : Option State :=
  match s.level.repeatable, s.level.items with
  | true, e :: items =>
    let repeated := e.around (.times · least more)
    some { s with level := { s.level with items := repeated :: items }, mode }
  | _, _ => none

/-- The largest count that may be written. -/
def maxCount : Nat := 0xffffffff

/-- Repeats the last item as often as a complete count says, if that is possible. -/
def repeatCounted (s : State) (least : Nat) (most : Option Nat) : Option State :=
  if least ≤ maxCount ∧ most.all (fun n => decide (least ≤ n ∧ n ≤ maxCount)) then
    s.repeatLast least (most.map (· - least)) .countLazyMark
  else none

/-- Begins a group. -/
def openGroup (s : State) (flags : Flags) : State :=
  { s with mode := .item, flags, level := .start, outer := (s.flags, s.level) :: s.outer }

/-- Ends the innermost group, if one is open. -/
def closeGroup (s : State) : Option State :=
  match s.outer with
  | [] => none
  | (flags, level) :: outer =>
    some ({ s with flags, level, outer }.push (s.level.toExpr.around id))

/-- Begins the next branch. -/
def alternate (s : State) : State :=
  { s with
    mode := .item
    level := ⟨s.level.branch :: s.level.branches, [], false⟩ }

/-- Reads a character where an item may stand. -/
def readItem (s : State) : Char → Option State
  | '(' => some { s with mode := .groupOpen }
  | ')' => s.closeGroup
  | '|' => some s.alternate
  | '[' => some { s with mode := .bracket .opened }
  | '?' => s.repeatLast 0 (some 1) .lazyMark
  | '*' => s.repeatLast 0 none .lazyMark
  | '+' => s.repeatLast 1 none .lazyMark
  | '\x7b' => if s.level.repeatable then some { s with mode := .count .start } else none
  | '\\' => some { s with mode := .escape .start }
  | '.' => some (s.pushSet (dot s.flags))
  | '^' => some (s.pushLook (caret s.flags))
  | '$' => some (s.pushLook (dollar s.flags))
  | c => some (s.pushChar c)

/-- Reads a character of a repetition count. -/
def readCount (s : State) (count : Count) (c : Char) : Option State :=
  let stay := fun count : Count => some { s with mode := .count count }
  match count, digitValue? 10 c with
  | .start, some d => stay (.least d)
  | .least n, some d => stay (.least (n * 10 + d))
  | .comma least, some d => stay (.most least d)
  | .mostStart least, some d => stay (.most least d)
  | .most least n, some d => stay (.most least (n * 10 + d))
  | _, some _ => none
  | .start, none => if isWhiteSpace c then stay .start else none
  | .least n, none =>
    if isWhiteSpace c then stay (.leastEnd n) else endLeast n
  | .leastEnd n, none =>
    if isWhiteSpace c then stay (.leastEnd n) else endLeast n
  | .comma least, none =>
    if isWhiteSpace c then stay (.mostStart least)
    else if c = '\x7d' then s.repeatCounted least none
    else none
  | .mostStart least, none => if isWhiteSpace c then stay (.mostStart least) else none
  | .most least n, none =>
    if isWhiteSpace c then stay (.mostEnd least n) else endMost least n
  | .mostEnd least n, none =>
    if isWhiteSpace c then stay (.mostEnd least n) else endMost least n
where
  /-- Reads what may follow the first number. -/
  endLeast (n : Nat) : Option State :=
    if c = ',' then some { s with mode := .count (.comma n) }
    else if c = '\x7d' then s.repeatCounted n (some n)
    else none
  /-- Reads what may follow the second number. -/
  endMost (least n : Nat) : Option State :=
    if c = '\x7d' then s.repeatCounted least (some n) else none

/-- Takes up what an escape stands for. -/
def endEscape (s : State) : EscapeValue → State
  | .char c => s.pushChar c
  | .set set => s.pushSet set
  | .look .wordBoundary => { s.pushLook .wordBoundary with mode := .boundary }
  | .look a => s.pushLook a

/-- Whether a character may be part of the name of a condition. -/
def isBoundaryNameChar (c : Char) : Bool := c.isAlpha || c = '-'

/-- The condition of a name. -/
def boundaryOf? (name : List Char) : Option Assertion :=
  if name = ['s', 't', 'a', 'r', 't'] then some .wordStart
  else if name = ['e', 'n', 'd'] then some .wordEnd
  else if name = ['s', 't', 'a', 'r', 't', '-', 'h', 'a', 'l', 'f'] then some .wordStartHalf
  else if name = ['e', 'n', 'd', '-', 'h', 'a', 'l', 'f'] then some .wordEndHalf
  else none

/-- Ends the name of a condition, which takes the place of the condition before it. -/
def endBoundaryName (s : State) (name : List Char) : Option State :=
  (boundaryOf? name).map fun a =>
    { s with level := { s.level with items := s.level.items.drop 1 } }.pushLook a

/-- Whether a character may be part of the name of a group. -/
def isGroupNameChar (first : Bool) (c : Char) : Bool :=
  c = '_' || isAlphabetic c ||
    (!first && (c = '.' || c = '[' || c = ']' || isNumeric c))

/-- Reads a character of the name of a group. -/
def readGroupName (s : State) (read : List Char) (c : Char) : Option State :=
  if c = '>' then
    if read.isEmpty || s.names.contains read then none
    else some ({ s with names := read :: s.names }.openGroup s.flags)
  else if isGroupNameChar read.isEmpty c then some { s with mode := .groupName (c :: read) }
  else none

/-- Turns a flag on or off; flags without effect here stay as they are. -/
def setFlag (f : Flags) (on : Bool) : Char → Option Flags
  | 'i' => some { f with ignoreCase := on }
  | 'm' => some { f with multiLine := on }
  | 's' => some { f with dotAll := on }
  | 'R' => some { f with anyLineEnd := on }
  | 'x' => some { f with verbose := on }
  | 'U' => some f
  | 'u' => if on then some f else none
  | _ => none

/-- Reads a character of a list of flags. A list before a parenthesis holds from there on, must
not be empty, and is an item that matches the empty text; a list before a colon holds in the
group that it opens. -/
def readFlags (s : State) (l : FlagList) (c : Char) : Option State :=
  if c = ':' then
    if l.read.head? = some '-' then none else some (s.openGroup l.flags)
  else if c = ')' then
    if l.read.isEmpty || l.read.head? = some '-' then none
    else
      some { s with
        mode := .item
        flags := l.flags
        level := { s.level with items := .leaf .empty :: s.level.items, repeatable := false } }
  else if l.read.contains c then none
  else if c = '-' then some { s with mode := .groupFlags { l with read := c :: l.read } }
  else
    (setFlag l.flags (!l.read.contains '-') c).map fun flags =>
      { s with mode := .groupFlags ⟨c :: l.read, flags⟩ }

/-- Reads a character that is neither skipped nor part of a comment. -/
def read (s : State) (c : Char) : Option State :=
  match s.mode with
  | .item => s.readItem c
  | .lazyMark => if c = '?' then some { s with mode := .item } else s.readItem c
  | .countLazyMark => if c = '?' then some { s with mode := .item } else s.readItem c
  | .count count => s.readCount count c
  | .escape e =>
    (e.read c).map fun
      | .inl e => { s with mode := .escape e }
      | .inr value => s.endEscape value
  | .bracket b =>
    (b.read s.flags.ignoreCase c).map fun
      | .inl b => { s with mode := .bracket b }
      | .inr set => s.push (set.map .chars)
  | .boundary => if c = '\x7b' then some { s with mode := .boundaryOpen } else s.readItem c
  | .boundaryOpen =>
    if isBoundaryNameChar c then some { s with mode := .boundaryName [c] }
    else s.readCount .start c
  | .boundaryName read =>
    if isBoundaryNameChar c then some { s with mode := .boundaryName (c :: read) }
    else if c = '\x7d' then s.endBoundaryName read.reverse
    else none
  | .groupOpen =>
    if c = '?' then some { s with mode := .groupMark } else (s.openGroup s.flags).readItem c
  | .groupMark =>
    if c = 'P' then some { s with mode := .groupLetter }
    else if c = '<' then some { s with mode := .groupAngle }
    else s.readFlags ⟨[], s.flags⟩ c
  | .groupLetter => if c = '<' then some { s with mode := .groupName [] } else none
  | .groupAngle => s.readGroupName [] c
  | .groupName read => s.readGroupName read c
  | .groupFlags l => s.readFlags l c

/-- The mode after a character that is skipped, being white space or part of a comment, unless
it counts here. -/
def skip (s : State) (c : Char) : Option Mode :=
  match s.mode with
  | .item => some .item
  | .lazyMark => some .item
  | .countLazyMark => some .countLazyMark
  | .count count => some (.count count)
  | .escape e => if e.skipsBlank then some (.escape e) else none
  | .bracket b => (b.skip s.flags.ignoreCase c).map .bracket
  | .boundary => some .item
  | .boundaryOpen => some .boundaryOpen
  | .boundaryName read => some (.boundaryName read)
  | .groupOpen => some .groupOpen
  | _ => none

/-- Reads the next character. Where the pattern is verbose, white space is skipped, and a number
sign begins a comment that ends with the line. -/
def step (s : State) (c : Char) : Option State :=
  if s.inComment then some { s with mode := (s.skip c).getD s.mode, inComment := c ≠ '\n' }
  else if s.flags.verbose && (isWhiteSpace c || c = '#') then
    match s.skip c with
    | some mode => some { s with mode, inComment := c = '#' }
    | none => s.read c
  else s.read c

/-- Whether a pattern may end here: nothing is left open. -/
def mayEnd (s : State) : Bool :=
  s.outer.isEmpty &&
    match s.mode with
    | .item => true
    | .lazyMark => true
    | .countLazyMark => true
    | .boundary => true
    | _ => false

/-- How deep the parts of a pattern may nest. -/
def maxDepth : Nat := 250

/-- The expression of a complete pattern. -/
def finish (s : State) : Option Expr :=
  let whole := s.level.toExpr
  if s.mayEnd ∧ whole.depth ≤ maxDepth then some whole.value else none

end State

/-- Reads characters one after the other. -/
def readAll (s : State) (cs : List Char) : Option State := cs.foldlM State.step s

/-- The expression that a pattern describes, if it is well formed. -/
def expr? (ignoreCase : Bool) (pattern : List Char) : Option Expr :=
  (readAll (.start ignoreCase) pattern).bind State.finish

end Gleaner.Regex.Reader
