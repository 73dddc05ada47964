import Gleaner.Machine.Frame
import Gleaner.Machine.Settings
import Gleaner.Program.Command

/-! # The course of a run

How a run moves through a program and a document. The collector plays no part in this, nor does
what is reported: `Traversal.step` depends on the instructions, the position among the siblings,
the open scopes and loops, and the limit for loops. -/

namespace Gleaner

/-- The markers of loops and conditions that need another one. -/
inductive Marker where
  | beginLoop
  | endLoop
  | beginCondition
  | elseCondition

/-- The name of a marker in messages. -/
def Marker.name : Marker → String
  | beginLoop => "BeginLoop"
  | endLoop => "EndLoop"
  | beginCondition => "BeginCondition"
  | elseCondition => "ConditionElse"

/-- How a program turns out not to be well formed. -/
inductive Fault where
  /-- A scope is left that was not entered. -/
  | popWithoutPush (pc : Nat)
  /-- The program ends inside scopes. -/
  | unclosedScopes (count : Nat)
  /-- A marker does not find the other one. -/
  | noCounterpart (marker : Marker) (id pc : Nat)

/-- The message for a fault. -/
def Fault.message (fault : Fault) : String :=
  "Malformed program: " ++
    match fault with
    | popWithoutPush pc => "PopState at " ++ toString pc ++ " without matching PushState"
    | unclosedScopes count => toString count ++ " PushState without matching PopState"
    | noCounterpart marker id pc =>
      marker.name ++ " " ++ toString id ++ " at " ++ toString pc ++ " has no counterpart"

/-- The position of the last member of a list that meets a test. -/
def lastIndex? {α : Type} (test : α → Bool) : List α → Option Nat
  | [] => none
  | x :: rest =>
    match lastIndex? test rest with
    | some i => some (i + 1)
    | none => if test x then some 0 else none

namespace Command

variable {γ : Type}

/-- Whether an instruction ends the loop of a number. -/
def isEndLoop (id : Nat) : Command γ → Bool
  | endLoop other => other = id
  | _ => false

/-- Whether an instruction begins the loop of a number. -/
def isBeginLoop (id : Nat) : Command γ → Bool
  | beginLoop other _ => other = id
  | _ => false

/-- Whether an instruction ends the condition of a number. -/
def isEndCondition (id : Nat) : Command γ → Bool
  | endCondition other => other = id
  | _ => false

/-- Whether an instruction ends the first body of the condition of a number. -/
def isBranchEnd (id : Nat) : Command γ → Bool
  | elseCondition other => other = id
  | endCondition other => other = id
  | _ => false

/-- The position of the first instruction from `start` on that meets a test. -/
def findForward (commands : List (Command γ)) (start : Nat) (test : Command γ → Bool) :
    Option Nat :=
  ((commands.drop start).findIdx? test).map (start + ·)

/-- The position of the last instruction before `stop` that meets a test. -/
def findBackward (commands : List (Command γ)) (stop : Nat) (test : Command γ → Bool) :
    Option Nat :=
  lastIndex? test (commands.take stop)

end Command

/-- A loop that has been entered. -/
structure LoopEntry where
  id : Nat
  /-- How often its body has been completed. -/
  iterations : Nat
  /-- The cursor at the start of the present iteration. -/
  start : Nat

/-- Whether a loop has been repeated as often as the limit allows. -/
def LoopEntry.isSpent (entry : LoopEntry) (limit : Option Nat) : Bool :=
  limit.any fun most => decide (most ≤ entry.iterations)

/-- Where a run is. -/
structure Traversal where
  pc : Nat
  frame : Frame
  /-- The frames of the scopes around, innermost first. -/
  saved : List Frame
  /-- The loops that have been entered, innermost first. -/
  loops : List LoopEntry
  stats : Stats

/-- What one instruction leads to. -/
inductive Outcome where
  | running (t : Traversal)
  | finished (t : Traversal)
  | broken (fault : Fault) (t : Traversal)

namespace Traversal

variable {γ : Type}

/-- The start of a run over a list of siblings. -/
def start (siblings : List Node) : Traversal := ⟨0, .start siblings, [], [], .zero⟩

/-- Goes on to the next instruction. -/
def advance (t : Traversal) : Traversal := { t with pc := t.pc + 1 }

/-- Goes on to an instruction by its position. -/
def jump (t : Traversal) (pc : Nat) : Traversal := { t with pc }

/-- Counts an instruction. -/
def countCommand (t : Traversal) : Traversal :=
  { t with stats := { t.stats with commandsExecuted := t.stats.commandsExecuted + 1 } }

/-- Goes on to the next sibling that meets a spec, if there is one. -/
def take (t : Traversal) (spec : ElementSpec γ) : Traversal :=
  match t.frame.find? spec with
  | some (node, position) =>
    { t with
      frame := t.frame.found node position
      stats := { t.stats with stepsMatched := t.stats.stepsMatched + 1 } }
  | none =>
    { t with
      frame := t.frame.missed
      stats := { t.stats with stepsMissed := t.stats.stepsMissed + 1 } }

/-- Forgets the node that was found last. -/
def forget (t : Traversal) : Traversal := { t with frame := t.frame.missed }

/-- Goes down to the children of the node that was found last. -/
def enter (t : Traversal) : Traversal :=
  { t with frame := t.frame.below, saved := t.frame :: t.saved }

/-- The innermost loop, if it has the given number, or else a new one, and the loops around. -/
def resume (t : Traversal) (id : Nat) : LoopEntry × List LoopEntry :=
  let fresh : LoopEntry := ⟨id, 0, t.frame.index⟩
  match t.loops with
  | [] => (fresh, [])
  | top :: around => if top.id = id then (top, around) else (fresh, top :: around)

/-- Goes on behind an instruction that is looked for from here, or reports that a marker has no
counterpart. -/
def skipPast (t : Traversal) (commands : List (Command γ)) (test : Command γ → Bool)
    (marker : Marker) (id : Nat) : Except Fault Traversal :=
  match Command.findForward commands (t.pc + 1) test with
  | some target => .ok (t.jump (target + 1))
  | none => .error (.noCounterpart marker id t.pc)

/-- Begins or resumes a loop: its body comes next, or what follows it. -/
def beginLoop (t : Traversal) (limit : Option Nat) (commands : List (Command γ)) (id : Nat)
    (predicate : List Matchable) : Except Fault Traversal :=
  let (entry, around) := t.resume id
  if !entry.isSpent limit && t.frame.nextMeets predicate then
    .ok { t.advance with
      loops := entry :: around
      stats := { t.stats with loopIterations := t.stats.loopIterations + 1 } }
  else
    { t with loops := around }.skipPast commands (Command.isEndLoop id) .beginLoop id

/-- Ends an iteration: back to the beginning of the loop, unless no sibling was used up. -/
def endLoop (t : Traversal) (commands : List (Command γ)) (id : Nat) :
    Except Fault Traversal :=
  match t.loops with
  | [] => .error (.noCounterpart .endLoop id t.pc)
  | entry :: around =>
    if entry.id ≠ id then .error (.noCounterpart .endLoop id t.pc)
    else if t.frame.index = entry.start then .ok { t.advance with loops := around }
    else
      match Command.findBackward commands t.pc (Command.isBeginLoop id) with
      | none => .error (.noCounterpart .endLoop id t.pc)
      | some target =>
        let entry := { entry with iterations := entry.iterations + 1, start := t.frame.index }
        .ok { t.jump target with loops := entry :: around }

/-- Carries out an instruction. -/
def execute (t : Traversal) (limit : Option Nat) (commands : List (Command γ)) :
    Command γ → Except Fault Traversal
  | .step spec => .ok (t.take spec).advance
  | .stepIf predicate spec =>
    .ok (if t.frame.nextMeets predicate then t.take spec else t.forget).advance
  | .push _ => .ok t.enter.advance
  | .pop =>
    match t.saved with
    | [] => .error (.popWithoutPush t.pc)
    | frame :: saved => .ok { t.advance with frame, saved }
  | .beginLoop id predicate => t.beginLoop limit commands id predicate
  | .endLoop id => t.endLoop commands id
  | .beginCondition id predicate =>
    if t.frame.nextMeets predicate then .ok t.advance
    else t.forget.skipPast commands (Command.isBranchEnd id) .beginCondition id
  | .elseCondition id => t.skipPast commands (Command.isEndCondition id) .elseCondition id
  | .endCondition _ => .ok t.advance
  | .peek _ => .ok t.advance
  | .breakpoint => .ok t.advance

/-- Carries out the next instruction, or ends the run behind the last one. -/
def step (t : Traversal) (limit : Option Nat) (commands : List (Command γ)) : Outcome :=
  match commands[t.pc]? with
  | some command =>
    match t.countCommand.execute limit commands command with
    | .ok next => .running next
    | .error fault => .broken fault t.countCommand
  | none =>
    if t.saved.isEmpty then .finished t else .broken (.unclosedScopes t.saved.length) t

end Traversal

end Gleaner
