import Gleaner.Proofs.Machine.Alike
import Gleaner.Proofs.Machine.Hit

/-! # What a run asks of its user

The user of a program gives it functions: what steps do with the nodes that they find, and what
peeks do. The shape of a program is what is left without them, but for where there is one. The
shape alone determines the course of a run and with it the invocations: of which instruction, with
which node and which values. The collector does nothing but take them in, one after the other. -/

namespace Gleaner

variable {γ δ : Type}

/-- A call of a function of the user's, by the position of its instruction. -/
inductive Invocation where
  /-- For a node that a step has found, with the values read from it. -/
  | matched (pc : Nat) (node : Node) (values : Values)
  | peeked (pc : Nat)

/-! ## Shapes -/

/-- A spec without what it does with the element that it finds. -/
def ElementSpec.shape (spec : ElementSpec γ) : ElementSpec Unit :=
  ⟨spec.tag, spec.matchables, spec.extractions, spec.onMatch.map fun _ _ _ => id⟩

/-- A hit without what is done with it. -/
def Hit.shape (hit : Hit γ) : Hit Unit := ⟨hit.spec.shape, hit.node, hit.position⟩

namespace Command

/-- An instruction without the function of the user's in it. -/
def shape : Command γ → Command Unit
  | step spec => step spec.shape
  | stepIf predicate spec => stepIf predicate spec.shape
  | push name => push name
  | pop => pop
  | beginLoop id predicate => beginLoop id predicate
  | endLoop id => endLoop id
  | beginCondition id predicate => beginCondition id predicate
  | elseCondition id => elseCondition id
  | endCondition id => endCondition id
  | peek _ => peek id
  | breakpoint => breakpoint

/-- What an instruction does with the node that it finds. -/
def onMatch? : Command γ → Option (Node → Values → γ → γ)
  | step spec | stepIf _ spec => spec.onMatch
  | _ => none

section

variable (id : Nat) (command : Command γ)

theorem isEndLoop_shape : command.shape.isEndLoop id = command.isEndLoop id := by
  cases command <;> rfl

theorem isBeginLoop_shape : command.shape.isBeginLoop id = command.isBeginLoop id := by
  cases command <;> rfl

theorem isBranchEnd_shape : command.shape.isBranchEnd id = command.isBranchEnd id := by
  cases command <;> rfl

theorem isEndCondition_shape : command.shape.isEndCondition id = command.isEndCondition id := by
  cases command <;> rfl

end

theorem onPeek?_shape (command : Command γ) :
    command.shape.onPeek?.isSome = command.onPeek?.isSome := by
  cases command <;> rfl

theorem hit?_shape (frame : Frame) (command : Command γ) :
    command.shape.hit? frame = (command.hit? frame).map Hit.shape := by
  have finds : ∀ spec : ElementSpec γ, frame.hit? spec.shape = (frame.hit? spec).map Hit.shape := by
    intro spec
    have same : frame.find? spec.shape = frame.find? spec := rfl
    simp only [Frame.hit?, same, Option.map_map]
    rfl
  cases command with
  | step spec => exact finds spec
  | stepIf predicate spec =>
    simp only [shape, hit?]
    split
    · exact finds spec
    · rfl
  | _ => rfl

theorem onMatch?_of_hit? {frame : Frame} {command : Command γ} {hit : Hit γ}
    (found : command.hit? frame = some hit) : command.onMatch? = hit.spec.onMatch := by
  have given : command.onMatch? = command.sought?.bind ElementSpec.onMatch := by
    cases command <;> rfl
  rw [given, sought?_of_hit? found, Option.bind_some]

end Command

namespace Traversal

variable {limit : Option Nat} {commands : List (Command γ)} {t : Traversal}

theorem skipPast_shape (t : Traversal) (commands : List (Command γ)) {test : Command γ → Bool}
    {test' : Command Unit → Bool} (same : ∀ command, test' (Command.shape command) = test command)
    (marker : Marker) (id : Nat) :
    t.skipPast (commands.map Command.shape) test' marker id =
      t.skipPast commands test marker id := by
  simp only [skipPast, Command.findForward_map same]

theorem execute_shape (t : Traversal) (limit : Option Nat) (commands : List (Command γ))
    (command : Command γ) :
    t.execute limit (commands.map Command.shape) command.shape =
      t.execute limit commands command := by
  cases command with
  | beginLoop id predicate =>
    simp only [Command.shape, execute, beginLoop,
      skipPast_shape _ _ (Command.isEndLoop_shape _)]
  | endLoop id =>
    simp only [Command.shape, execute, endLoop,
      Command.findBackward_map (Command.isBeginLoop_shape _)]
  | beginCondition id predicate =>
    simp only [Command.shape, execute, skipPast_shape _ _ (Command.isBranchEnd_shape _)]
  | elseCondition id =>
    simp only [Command.shape, execute, skipPast_shape _ _ (Command.isEndCondition_shape _)]
  | _ => rfl

/-- The shape of a program leads to the same place as the program itself. -/
theorem step_shape (t : Traversal) (limit : Option Nat) (commands : List (Command γ)) :
    t.step limit (commands.map Command.shape) = t.step limit commands := by
  simp only [step, List.getElem?_map]
  cases commands[t.pc]? with
  | none => rfl
  | some command => simp only [Option.map_some, execute_shape]

/-! ## Invocations -/

/-- What the next instruction asks of the user, if it is carried out. -/
def invocation? (commands : List (Command γ)) (t : Traversal) : Option Invocation :=
  commands[t.pc]?.bind fun command =>
    match command.hit? t.frame with
    | some hit =>
      if hit.spec.onMatch.isSome then
        some (.matched t.pc hit.node (Extraction.valuesOf hit.node hit.spec.extractions))
      else none
    | none => if command.onPeek?.isSome then some (.peeked t.pc) else none

theorem invocation?_shape (commands : List (Command γ)) (t : Traversal) :
    t.invocation? (commands.map Command.shape) = t.invocation? commands := by
  simp only [invocation?, List.getElem?_map]
  cases commands[t.pc]? with
  | none => rfl
  | some command =>
    simp only [Option.map_some, Option.bind_some, Command.hit?_shape, Command.onPeek?_shape]
    cases command.hit? t.frame with
    | none => rfl
    | some hit => simp [Hit.shape, ElementSpec.shape]

end Traversal

/-- The collector after an invocation: the function at that instruction is called. -/
def Invocation.perform (commands : List (Command γ)) (collector : γ) : Invocation → γ
  | matched pc node values =>
    (commands[pc]?.bind Command.onMatch?).elim collector fun onMatch =>
      onMatch node values collector
  | peeked pc => (commands[pc]?.bind Command.onPeek?).elim collector fun onPeek => onPeek collector

/-- The invocations of a run over a list of siblings, up to some number of instructions. -/
def Program.invocations (program : Program γ) (config : Config) (siblings : List Node)
    (count : Nat) : List Invocation :=
  (Traversal.start siblings).along (Traversal.invocation? program.commands)
    config.maxLoopIterations program.commands count

/-- An instruction changes the collector by its invocation and not otherwise. -/
theorem Command.effect_eq_perform {commands : List (Command γ)} {t : Traversal}
    {command : Command γ} (here : commands[t.pc]? = some command) (collector : γ) :
    command.effect t.frame collector =
      (t.invocation? commands).toList.foldl (Invocation.perform commands) collector := by
  simp only [effect_eq, Traversal.invocation?, here, Option.bind_some]
  cases found : command.hit? t.frame with
  | some hit =>
    have onMatch := onMatch?_of_hit? found
    cases given : hit.spec.onMatch with
    | none => simp [ElementSpec.collect, given]
    | some f =>
      rw [given] at onMatch
      simp [ElementSpec.collect, given, Invocation.perform, here, onMatch]
  | none =>
    cases given : command.onPeek? with
    | none => simp
    | some f => simp [Invocation.perform, here, given]

/-- An instruction that fails has no effect. -/
theorem Command.effect_of_error {limit : Option Nat} {commands : List (Command γ)} {t : Traversal}
    {command : Command γ} {fault : Fault}
    (error : t.execute limit commands command = .error fault) (frame : Frame) (collector : γ) :
    command.effect frame collector = collector := by
  cases command with
  | step _ | stepIf _ _ | peek _ => simp [Traversal.execute] at error
  | _ => rfl

namespace Run

variable {config : Config} {program : Program γ}

/-- A step that goes on performs its invocation; one that ends the run leaves the collector. -/
theorem step_collector (config : Config) (program : Program γ) (run : Run γ) :
    (run.step config program).run.collector =
      match run.traversal.step config.maxLoopIterations program.commands with
      | .running _ => (run.traversal.invocation? program.commands).toList.foldl
          (Invocation.perform program.commands) run.collector
      | _ => run.collector := by
  simp only [step, Traversal.step]
  cases here : program.commands[run.traversal.pc]? with
  | none => cases run.traversal.saved.isEmpty <;> rfl
  | some command =>
    dsimp only [Option.elim_some]
    cases executed : run.traversal.countCommand.execute config.maxLoopIterations program.commands
      command with
    | ok next => exact Command.effect_eq_perform here run.collector
    | error fault => exact Command.effect_of_error executed run.traversal.frame run.collector

/-- The collector of a run is that of its start with all invocations performed in order. -/
theorem advance_collector (run : Run γ) (count : Nat) :
    (run.advance config program count).run.collector =
      (run.traversal.along (Traversal.invocation? program.commands) config.maxLoopIterations
        program.commands count).foldl (Invocation.perform program.commands) run.collector := by
  induction count generalizing run with
  | zero => rfl
  | succ count ih =>
    have first := step_collector config program run
    cases stepped : run.step config program with
    | running next =>
      have moved := traversal_step stepped
      rw [stepped, moved] at first
      have first' : next.collector = (run.traversal.invocation? program.commands).toList.foldl
        (Invocation.perform program.commands) run.collector := first
      rw [Traversal.along_running moved, List.foldl_append, ← first']
      simp only [advance, stepped]
      exact ih next
    | finished next =>
      have moved := traversal_finished stepped
      rw [stepped, moved] at first
      simpa only [advance, stepped, Traversal.along, moved, List.foldl_nil] using first
    | broken fault next =>
      have moved := traversal_broken stepped
      rw [stepped, moved] at first
      simpa only [advance, stepped, Traversal.along, moved, List.foldl_nil] using first

/-- Programs of one shape go the same way. -/
theorem advance_alike_of_shape {program' : Program δ}
    (same : program'.commands.map Command.shape = program.commands.map Command.shape)
    {run : Run γ} {run' : Run δ} (place : run'.traversal = run.traversal) (count : Nat) :
    (run.advance config program count).Alike id (fun run run' => run'.traversal = run.traversal)
      (run'.advance config program' count) := by
  refine advance_alike ?_ place count
  intro run run' place
  have outcome : run'.traversal.step config.maxLoopIterations program'.commands =
      run.traversal.step config.maxLoopIterations program.commands := by
    rw [place, ← Traversal.step_shape, same, Traversal.step_shape]
  simp only [step, outcome]
  cases run.traversal.step config.maxLoopIterations program.commands with
  | running t => exact .running rfl
  | finished t => exact .finished rfl
  | broken fault t => exact .broken rfl

theorem invocations_of_shape {program' : Program δ}
    (same : program'.commands.map Command.shape = program.commands.map Command.shape)
    (siblings : List Node) (count : Nat) :
    program'.invocations config siblings count = program.invocations config siblings count := by
  refine Traversal.along_congr ?_ ?_ count _
  · intro t
    rw [← Traversal.step_shape, same, Traversal.step_shape]
  · intro t
    rw [← Traversal.invocation?_shape, same, Traversal.invocation?_shape]

/-- Programs of one shape, whatever their collectors and the functions in them, go the same way
with the same invocations, as far as they are run, and the collector is at any time the one given
with the invocations performed on it in order. If the program fails, those are the ones before the
instruction that fails. -/
theorem collector_cannot_steer {program' : Program δ}
    (same : program'.commands.map Command.shape = program.commands.map Command.shape)
    (siblings : List Node) (collector : γ) (collector' : δ) (count : Nat) :
    let progress := (start program siblings collector).advance config program count
    let progress' := (start program' siblings collector').advance config program' count
    let invocations := program.invocations config siblings count
    progress.Alike id (fun run run' => run'.traversal = run.traversal) progress' ∧
      program'.invocations config siblings count = invocations ∧
      progress.run.collector =
        invocations.foldl (Invocation.perform program.commands) collector ∧
      progress'.run.collector =
        invocations.foldl (Invocation.perform program'.commands) collector' := by
  intro progress progress' invocations
  have calls : program'.invocations config siblings count = invocations :=
    invocations_of_shape same siblings count
  refine ⟨advance_alike_of_shape same rfl count, calls, ?_, ?_⟩
  · exact advance_collector (start program siblings collector) count
  · rw [← calls]
    exact advance_collector (start program' siblings collector') count

/-- A number and a list of texts, in a program that fails after it has gone through a loop. -/
theorem collector_cannot_steer_failing :
    let program : Program Nat :=
      ⟨none, [.beginLoop 0 [.any], .step ⟨"p", [.any], [.text], some fun _ _ n => n + 1⟩,
        .peek (· * 2), .endLoop 0, .pop]⟩
    let program' : Program (List String) :=
      ⟨some "texts", [.beginLoop 0 [.any],
        .step ⟨"p", [.any], [.text], some fun _ values l => values.text.getD "" :: l⟩,
        .peek List.reverse, .endLoop 0, .pop]⟩
    let siblings := [Node.element "p" .empty [.text "a"], .element "p" .empty [.text "b"]]
    let progress := (start program siblings 0).advance .default program 11
    let progress' := (start program' siblings []).advance .default program' 11
    let invocations := program.invocations .default siblings 11
    program'.commands.map Command.shape = program.commands.map Command.shape ∧
      progress.Alike id (fun run run' => run'.traversal = run.traversal) progress' ∧
      program'.invocations .default siblings 11 = invocations ∧
      progress.run.collector = invocations.foldl (Invocation.perform program.commands) 0 ∧
      progress'.run.collector = invocations.foldl (Invocation.perform program'.commands) [] := by
  intro program program' siblings progress progress' invocations
  have same : program'.commands.map Command.shape = program.commands.map Command.shape := rfl
  exact ⟨same, collector_cannot_steer same siblings 0 [] 11⟩

end Run

end Gleaner
