import Gleaner.Machine.Event

/-! # Runs

A run moves through a program and a document, changes the collector on its way and reports what
it does. It ends behind the last instruction, or with a fault where the program is not well
formed; a program that is not may also go on for ever. -/

namespace Gleaner

/-- What an instruction does to the collector, by the frame that it finds. -/
def Command.effect {γ : Type} (frame : Frame) : Command γ → γ → γ
  | step spec => taken spec
  | stepIf predicate spec => if frame.nextMeets predicate then taken spec else id
  | peek f => f
  | _ => id
where
  /-- What a step does to the collector. -/
  taken (spec : ElementSpec γ) (collector : γ) : γ :=
    match frame.find? spec with
    | some (node, _) => spec.collect node collector
    | none => collector

/-- A run in progress. -/
structure Run (γ : Type) where
  traversal : Traversal
  collector : γ
  /-- What has been reported, last first. -/
  log : List Event

/-- How far a run has come. -/
inductive Progress (γ : Type) where
  | running (run : Run γ)
  | finished (run : Run γ)
  | broken (fault : Fault) (run : Run γ)

namespace Run

variable {γ : Type}

/-- The start of a run over a list of siblings. -/
def start (program : Program γ) (siblings : List Node) (collector : γ) : Run γ :=
  ⟨.start siblings, collector,
    [.begins program.name program.commands.length siblings.length]⟩

/-- Carries out the next instruction, or ends the run behind the last one. -/
def step (config : Config) (program : Program γ) (run : Run γ) : Progress γ :=
  let t := run.traversal
  let command := program.commands[t.pc]?
  let collector := (command.elim id (·.effect t.frame)) run.collector
  let log := (command.elim [] (t.events config)).reverse ++ run.log
  match t.step config.maxLoopIterations program.commands with
  | .running t => .running ⟨t, collector, log⟩
  | .finished t => .finished ⟨t, collector, .ends t.stats :: log⟩
  | .broken fault t => .broken fault ⟨t, collector, log⟩

/-- Carries out at most `count` instructions. -/
def advance (config : Config) (program : Program γ) : Nat → Run γ → Progress γ
  | 0, run => .running run
  | count + 1, run =>
    match run.step config program with
    | .running run => advance config program count run
    | ended => ended

/-- What was reported, in order, at a level or above. -/
def reports (run : Run γ) (level : Level) : List Event :=
  (run.log.filter (·.reaches level)).reverse

end Run

end Gleaner
