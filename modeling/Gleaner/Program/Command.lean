import Gleaner.ElementSpec

/-! # Programs

A program is a flat list of instructions. Scopes, loops and conditions are marked by instructions
at their ends, and the markers of a loop or condition find each other by a number. Nothing makes
a list of instructions well formed in itself: one that is not can be run all the same. -/

namespace Gleaner

/-- An instruction. -/
inductive Command (γ : Type) where
  /-- Finds the next sibling that meets a spec. -/
  | step (spec : ElementSpec γ)
  /-- The same, if the next sibling meets the predicate. -/
  | stepIf (predicate : List Matchable) (spec : ElementSpec γ)
  /-- Goes down to the children of the node found last. -/
  | push (name : Option String)
  /-- Goes back up. -/
  | pop
  | beginLoop (id : Nat) (predicate : List Matchable)
  | endLoop (id : Nat)
  | beginCondition (id : Nat) (predicate : List Matchable)
  | elseCondition (id : Nat)
  | endCondition (id : Nat)
  /-- Changes the collector alone. -/
  | peek (f : γ → γ)
  /-- Does nothing but report where the run is. -/
  | breakpoint

/-- Conditions as they read in a list. -/
def Matchable.displayAll (matchables : List Matchable) : Display :=
  .items (matchables.map Matchable.display)

/-- How an instruction reads. -/
def Command.display {γ : Type} : Command γ → Display
  | step spec => .applied "Step" [spec.display]
  | stepIf predicate spec =>
    .record "ConditionalStep"
      [("predicate", Matchable.displayAll predicate), ("element", spec.display)]
  | push name => .record "PushState" [("group_name", .optional .quote name)]
  | pop => .atom "PopState"
  | beginLoop id predicate =>
    .record "BeginLoop" [("loop_id", .number id), ("predicate", Matchable.displayAll predicate)]
  | endLoop id => .record "EndLoop" [("loop_id", .number id)]
  | beginCondition id predicate =>
    .record "BeginCondition"
      [("condition_id", .number id), ("predicate", Matchable.displayAll predicate)]
  | elseCondition id => .record "ConditionElse" [("condition_id", .number id)]
  | endCondition id => .record "EndCondition" [("condition_id", .number id)]
  | peek _ => .atom "PeekCollector(..)"
  | breakpoint => .atom "Breakpoint"

/-- A named list of instructions. -/
structure Program (γ : Type) where
  name : Option String
  commands : List (Command γ)

/-- How a program reads. -/
def Program.display {γ : Type} (program : Program γ) : Display :=
  .record "CommandGroup"
    [("group_name", .optional .quote program.name),
      ("commands", .items (program.commands.map Command.display))]

end Gleaner
