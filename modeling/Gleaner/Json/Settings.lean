import Gleaner.Extraction
import Gleaner.Json.Record
import Gleaner.Machine.Settings

/-! # Settings, counters and values as JSON

Of the settings any may be left out, of the counters none. Values that were read from a node have
to have their attributes; an object may leave out the rest, an array may not. -/

namespace Gleaner.Json

/-- A field whose value is put into the record by `put`. -/
def field {σ α : Type} (key : String) (required : Bool) (read : Reader α) (put : α → σ → σ) :
    Field σ :=
  ⟨key, fun cs => (read cs).map fun (value, rest) => (put value, rest), required⟩

/-- How settings are written. -/
def configShape : Shape Config where
  fields :=
    [field "debug_mode" false readFlag fun value c => { c with debugMode := value },
      field "max_loop_iterations" false (readOptional readWord64) fun value c =>
        { c with maxLoopIterations := value },
      field "dump_nodes_on_miss" false readFlag fun value c => { c with dumpNodesOnMiss := value }]
  blank := .default
  shortArrays := true

/-- How counters are written. -/
def statsShape : Shape Stats where
  fields :=
    [field "commands_executed" true readWord64 fun value s => { s with commandsExecuted := value },
      field "steps_matched" true readWord64 fun value s => { s with stepsMatched := value },
      field "steps_missed" true readWord64 fun value s => { s with stepsMissed := value },
      field "loop_iterations" true readWord64 fun value s => { s with loopIterations := value }]
  blank := .zero
  shortArrays := false

/-- How values are written. -/
def valuesShape : Shape Values where
  fields :=
    [field "attrs" true (readObjectOf readText) fun value v =>
        { v with attrs := .ofList value },
      field "text" false (readOptional readText) fun value v => { v with text := value },
      field "html" false (readOptional readText) fun value v => { v with html := value }]
  blank := .empty
  shortArrays := false

end Gleaner.Json
