import Gleaner.Machine.Traversal

/-! # Reports of a run

What a run reports, and how much it matters. Reports are a view of the run: the next instruction
and the position before it determine what is reported, and nothing depends on it. -/

namespace Gleaner

/-- How much a report matters, from the least on. -/
inductive Level where
  | trace
  | debug
  | warn
deriving DecidableEq

namespace Level

/-- The name of a level. -/
def name : Level → String
  | trace => "TRACE"
  | debug => "DEBUG"
  | warn => "WARN"

/-- The place of a level in the order. -/
def rank : Level → Nat
  | trace => 0
  | debug => 1
  | warn => 2

end Level

/-- A report. -/
inductive Event where
  /-- A run begins. -/
  | begins (program : Option String) (commands nodes : Nat)
  /-- An instruction is carried out, in debug mode. -/
  | command (pc index depth : Nat) (shown : String)
  /-- A scope is entered. -/
  | entered (name : Option String) (nodes : Nat)
  /-- A step has found nothing. -/
  | missed (tag : String) (index remaining : Nat)
  /-- A sibling that a step has passed over in vain. -/
  | unmatched (index : Nat) (html : String)
  /-- A loop has been repeated as often as the limit allows. -/
  | spent (id iterations : Nat)
  /-- An iteration has used up no sibling. -/
  | idle (id iterations : Nat)
  /-- A breakpoint is passed, in debug mode. -/
  | breakpoint (pc index remaining depth : Nat) (matched : Option String)
  /-- A run has ended without a fault. -/
  | ends (stats : Stats)
  /-- Text was asked for and cannot be told. -/
  | textFault (fault : TextFault)

/-- The value of a field of a report. -/
inductive FieldValue where
  | number (n : Nat)
  | text (s : String)

namespace Event

/-- How much a report matters. -/
def level : Event → Level
  | command .. => .trace
  | entered .. => .trace
  | textFault _ => .warn
  | _ => .debug

/-- What a report says. -/
def message : Event → String
  | begins .. => "executing commands"
  | command .. => "command"
  | entered .. => "push state"
  | missed .. => "step missed"
  | unmatched .. => "unmatched sibling"
  | spent .. => "loop reached its iteration ceiling"
  | idle .. => "loop consumed nothing, finishing"
  | breakpoint .. => "breakpoint"
  | ends _ => "execution finished"
  | textFault (.elementChild ..) => "text extraction expected a text child, found an element"
  | textFault (.noChildren _) => "text extraction on a node without children"
  | textFault (.manyChildren ..) => "text extraction expected exactly one child"

/-- What a report is about, by name. -/
def fields : Event → List (String × FieldValue)
  | begins program commands nodes =>
    [("group", .text (program.getD "<root>")), ("commands", .number commands),
      ("nodes", .number nodes)]
  | command pc index depth shown =>
    [("pc", .number pc), ("index", .number index), ("depth", .number depth),
      ("command", .text shown)]
  | entered name nodes => [("group", .text (name.getD "<nested>")), ("nodes", .number nodes)]
  | missed tag index remaining =>
    [("tag", .text tag), ("index", .number index), ("remaining", .number remaining)]
  | unmatched index html => [("index", .number index), ("node", .text html)]
  | spent id iterations => [("loop_id", .number id), ("iterations", .number iterations)]
  | idle id iterations => [("loop_id", .number id), ("iterations", .number iterations)]
  | breakpoint pc index remaining depth matched =>
    [("pc", .number pc), ("index", .number index), ("remaining", .number remaining),
      ("depth", .number depth), ("last_matched", .text (matched.getD "<none>"))]
  | ends stats =>
    [("matched", .number stats.stepsMatched), ("missed", .number stats.stepsMissed),
      ("loop_iterations", .number stats.loopIterations)]
  | textFault (.elementChild tag child) => [("tag", .text tag), ("child", .text child)]
  | textFault (.noChildren tag) => [("tag", .text tag)]
  | textFault (.manyChildren tag children) =>
    [("tag", .text tag), ("children", .number children)]

/-- Whether a report matters at least as much as a level says. -/
def reaches (event : Event) (level : Level) : Bool := decide (level.rank ≤ event.level.rank)

end Event

namespace Traversal

variable {γ : Type}

/-- What is reported about a step. -/
def stepEvents (t : Traversal) (config : Config) (spec : ElementSpec γ) : List Event :=
  match t.frame.find? spec with
  | some (node, _) => (spec.textFaults node).map .textFault
  | none =>
    .missed spec.tag t.frame.index t.frame.remaining ::
      if config.dumpNodesOnMiss then
        t.frame.rest.map fun (node, index) => .unmatched index node.html
      else []

/-- What is reported about the beginning of a loop. -/
def beginLoopEvents (t : Traversal) (limit : Option Nat) (id : Nat) : List Event :=
  let (entry, _) := t.resume id
  if entry.isSpent limit then [.spent id entry.iterations] else []

/-- What is reported about the end of an iteration. -/
def endLoopEvents (t : Traversal) (id : Nat) : List Event :=
  match t.loops with
  | [] => []
  | entry :: _ =>
    if entry.id = id ∧ t.frame.index = entry.start then [.idle id (entry.iterations + 1)] else []

/-- What is reported about an instruction itself. -/
def commandEvents (t : Traversal) (config : Config) : Command γ → List Event
  | .step spec => t.stepEvents config spec
  | .stepIf predicate spec =>
    if t.frame.nextMeets predicate then t.stepEvents config spec else []
  | .push name => [.entered name t.frame.below.siblings.length]
  | .beginLoop id _ => t.beginLoopEvents config.maxLoopIterations id
  | .endLoop id => t.endLoopEvents id
  | .breakpoint =>
    if config.debugMode then
      [.breakpoint t.pc t.frame.index t.frame.remaining t.saved.length
        (t.frame.matched.bind Node.tagName?)]
    else []
  | _ => []

/-- What is reported when an instruction is carried out. -/
def events (t : Traversal) (config : Config) (command : Command γ) : List Event :=
  let reports := t.commandEvents config command
  if config.debugMode then
    .command t.pc t.frame.index t.saved.length command.display.render :: reports
  else reports

end Traversal

end Gleaner
