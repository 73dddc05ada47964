import Gleaner.Display

/-! # Settings and counters of a run -/

namespace Gleaner

/-- What can be set for a run. -/
structure Config where
  /-- Report every instruction, and breakpoints. -/
  debugMode : Bool
  /-- How often a loop that has been entered repeats at most. -/
  maxLoopIterations : Option Nat
  /-- Report the siblings that a step has passed over in vain. -/
  dumpNodesOnMiss : Bool
deriving DecidableEq

namespace Config

/-- Nothing more than needed is reported, and loops are not limited. -/
def default : Config := ⟨false, none, false⟩

/-- How settings read. -/
def display (config : Config) : Display :=
  .record "ExecutorConfig"
    [("debug_mode", .flag config.debugMode),
      ("max_loop_iterations", .optional .number config.maxLoopIterations),
      ("dump_nodes_on_miss", .flag config.dumpNodesOnMiss)]

end Config

/-- What has been counted in a run. -/
structure Stats where
  commandsExecuted : Nat
  stepsMatched : Nat
  stepsMissed : Nat
  loopIterations : Nat
deriving DecidableEq

namespace Stats

/-- The counters at the start of a run. -/
def zero : Stats := ⟨0, 0, 0, 0⟩

/-- How counters read. -/
def display (stats : Stats) : Display :=
  .record "ExecutionStats"
    [("commands_executed", .number stats.commandsExecuted),
      ("steps_matched", .number stats.stepsMatched),
      ("steps_missed", .number stats.stepsMissed),
      ("loop_iterations", .number stats.loopIterations)]

end Stats

end Gleaner
