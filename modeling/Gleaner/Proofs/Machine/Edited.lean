import Gleaner.Proofs.Machine.Alike
import Gleaner.Proofs.Program.Edit

/-! # Diagnostics change nothing else

The run of a program beside that of the program as it is edited, with other settings for reports.
The first one halts at breakpoints that the other one no longer has, while that one waits. Else
they take the same steps, each at the place where the instruction stands in its program. -/

namespace Gleaner

variable {γ : Type}

/-- A fault where instructions have come to stand at other places. -/
def Fault.moved (place : Nat → Nat) : Fault → Fault
  | popWithoutPush pc => popWithoutPush (place pc)
  | unclosedScopes count => unclosedScopes count
  | noCounterpart marker id pc => noCounterpart marker id (place pc)

namespace Traversal

/-- Where the run of the edited program is, after some number of instructions. -/
def edited (edits : List (Edit γ)) (executed : Nat) (t : Traversal) : Traversal :=
  { t with
    pc := Edit.place edits t.pc
    stats := { t.stats with commandsExecuted := executed } }

/-- What an instruction leads to in the edited program, by what it leads to in the program. -/
def resultEdited (edits : List (Edit γ)) (executed : Nat) :
    Except Fault Traversal → Except Fault Traversal
  | .ok t => .ok (t.edited edits executed)
  | .error fault => .error (fault.moved (Edit.place edits))

/-- The position of the breakpoint that comes next, if it is one that is left out. -/
def skipped? (edits : List (Edit γ)) (t : Traversal) : Option Nat :=
  match edits[t.pc]? with
  | some .drop => some t.pc
  | _ => none

/-- How many breakpoints that are left out a run of the program passes in some number of
instructions. -/
def skips (edits : List (Edit γ)) (limit : Option Nat) (count : Nat) (t : Traversal) : Nat :=
  (t.along (skipped? edits) limit (edits.map Edit.before) count).length

variable {edits : List (Edit γ)} {executed : Nat} {t : Traversal} {limit : Option Nat}

theorem skips_running {next : Traversal} {count : Nat}
    (running : t.step limit (edits.map Edit.before) = .running next) :
    t.skips edits limit (count + 1) =
      (t.skipped? edits).toList.length + next.skips edits limit count := by
  rw [skips, along_running running, List.length_append, skips]

theorem advance_edited (stays : Edit.place edits (t.pc + 1) = Edit.place edits t.pc + 1) :
    (t.edited edits executed).advance = t.advance.edited edits executed := by
  simp only [advance, edited, stays]

theorem take_edited (t : Traversal) (spec : ElementSpec γ) :
    (t.edited edits executed).take spec = (t.take spec).edited edits executed := by
  have frame : (t.edited edits executed).frame = t.frame := rfl
  simp only [take, frame]
  cases t.frame.find? spec <;> rfl

theorem skipPast_edited {test : Command γ → Bool} (blind : Edit.Blind test)
    (stays : Edit.place edits (t.pc + 1) = Edit.place edits t.pc + 1) (marker : Marker)
    (id : Nat) :
    (t.edited edits executed).skipPast (edits.filterMap Edit.after?) test marker id =
      resultEdited edits executed (t.skipPast (edits.map Edit.before) test marker id) := by
  have place : (t.edited edits executed).pc = Edit.place edits t.pc := rfl
  have search := Edit.findForward_after blind edits (t.pc + 1)
  rw [stays] at search
  simp only [skipPast, place, search]
  cases found : Command.findForward (edits.map Edit.before) (t.pc + 1) test with
  | none => rfl
  | some target =>
    have behind := Edit.place_succ_of_met blind (Command.findForward_bounds found).2
    simp only [Option.map_some, jump, resultEdited, edited, behind]

theorem beginLoop_edited (stays : Edit.place edits (t.pc + 1) = Edit.place edits t.pc + 1)
    (id : Nat) (predicate : List Matchable) :
    (t.edited edits executed).beginLoop limit (edits.filterMap Edit.after?) id predicate =
      resultEdited edits executed
        (t.beginLoop limit (edits.map Edit.before) id predicate) := by
  have frame : (t.edited edits executed).frame = t.frame := rfl
  have resumed : (t.edited edits executed).resume id = t.resume id := rfl
  simp only [beginLoop, frame, resumed]
  split
  · rw [advance_edited stays]
    rfl
  · exact skipPast_edited (t := { t with loops := (t.resume id).2 }) (Edit.blind_isEndLoop id)
      stays .beginLoop id

theorem endLoop_edited (stays : Edit.place edits (t.pc + 1) = Edit.place edits t.pc + 1)
    (id : Nat) :
    (t.edited edits executed).endLoop (edits.filterMap Edit.after?) id =
      resultEdited edits executed (t.endLoop (edits.map Edit.before) id) := by
  have loops : (t.edited edits executed).loops = t.loops := rfl
  have frame : (t.edited edits executed).frame = t.frame := rfl
  have place : (t.edited edits executed).pc = Edit.place edits t.pc := rfl
  have search := Edit.findBackward_after (Edit.blind_isBeginLoop id) edits t.pc
  simp only [endLoop, loops, frame, place, search]
  cases t.loops with
  | nil => rfl
  | cons entry around =>
    dsimp only
    split
    · rfl
    split
    · rw [advance_edited stays]
      rfl
    · cases Command.findBackward (edits.map Edit.before) t.pc (Command.isBeginLoop id) <;> rfl

/-- An instruction that is left leads to the same place in both programs, wherever that is. -/
theorem execute_edited (t : Traversal) (limit : Option Nat) (executed : Nat) {edit : Edit γ}
    {command : Command γ} (there : edits[t.pc]? = some edit)
    (left : edit.after? = some command) :
    (t.edited edits executed).execute limit (edits.filterMap Edit.after?) command =
      resultEdited edits executed
        (t.execute limit (edits.map Edit.before) edit.before) := by
  have stays : Edit.place edits (t.pc + 1) = Edit.place edits t.pc + 1 := by
    rw [Edit.place_succ there, left]
    rfl
  have frame : (t.edited edits executed).frame = t.frame := rfl
  have goes_on : ∀ next : Traversal, next.pc = t.pc →
      (next.edited edits executed).advance = next.advance.edited edits executed := by
    intro next here
    rw [← here] at stays
    exact advance_edited stays
  cases edit with
  | drop => simp [Edit.after?] at left
  | rename old new =>
    obtain rfl : Command.push new = command := by simpa [Edit.after?] using left
    exact congrArg Except.ok (goes_on t.enter rfl)
  | keep original =>
    obtain rfl : original = command := by simpa [Edit.after?] using left
    cases original with
    | step spec =>
      simp only [execute, take_edited]
      exact congrArg Except.ok (goes_on (t.take spec) (by rw [take_eq]))
    | stepIf predicate spec =>
      simp only [execute, Edit.before, frame, take_edited]
      split
      · exact congrArg Except.ok (goes_on (t.take spec) (by rw [take_eq]))
      · exact congrArg Except.ok (goes_on t.forget rfl)
    | push name => exact congrArg Except.ok (goes_on t.enter rfl)
    | pop =>
      have saved : (t.edited edits executed).saved = t.saved := rfl
      simp only [execute, Edit.before, saved]
      cases t.saved with
      | nil => rfl
      | cons frame saved => exact congrArg Except.ok (goes_on { t with frame, saved } rfl)
    | beginLoop id predicate => exact beginLoop_edited stays id predicate
    | endLoop id => exact endLoop_edited stays id
    | beginCondition id predicate =>
      simp only [execute, Edit.before, frame]
      split
      · exact congrArg Except.ok (goes_on t rfl)
      · exact skipPast_edited (t := t.forget) (Edit.blind_isBranchEnd id) stays .beginCondition id
    | elseCondition id =>
      exact skipPast_edited (Edit.blind_isEndCondition id) stays .elseCondition id
    | endCondition _ | peek _ | breakpoint => exact congrArg Except.ok (goes_on t rfl)

theorem skipped?_eq_some {pc : Nat} (skipped : t.skipped? edits = some pc) :
    edits[t.pc]? = some .drop := by
  unfold skipped? at skipped
  split at skipped
  · assumption
  · simp at skipped

/-- What is not left out is still there. -/
theorem exists_after {edit : Edit γ} (kept : t.skipped? edits = none)
    (there : edits[t.pc]? = some edit) : ∃ command, edit.after? = some command := by
  cases edit with
  | keep command => exact ⟨command, rfl⟩
  | rename old new => exact ⟨.push new, rfl⟩
  | drop => simp [skipped?, there] at kept

end Traversal

theorem Edit.effect_after {edit : Edit γ} {command : Command γ} (left : edit.after? = some command)
    (frame : Frame) (collector : γ) :
    command.effect frame collector = edit.before.effect frame collector := by
  cases edit with
  | keep original =>
    obtain rfl : original = command := by simpa [after?] using left
    rfl
  | rename old new =>
    obtain rfl : Command.push new = command := by simpa [after?] using left
    rfl
  | drop => simp [after?] at left

namespace Run

/-- Whether a run of the edited program is where that of the program is, `skipped` of whose
instructions it has not had to carry out. -/
structure Beside (edits : List (Edit γ)) (skipped : Nat) (run run' : Run γ) : Prop where
  place : run'.traversal = run.traversal.edited edits run'.traversal.stats.commandsExecuted
  executed : run.traversal.stats.commandsExecuted =
    run'.traversal.stats.commandsExecuted + skipped
  collector : run'.collector = run.collector

variable {edits : List (Edit γ)} {skipped : Nat} {run run' : Run γ} {name name' : Option String}
  {config config' : Config}

theorem Beside.stats_eq (beside : Beside edits skipped run run') :
    run.traversal.stats = { run'.traversal.stats with
      commandsExecuted := run'.traversal.stats.commandsExecuted + skipped } := by
  have matched : run'.traversal.stats.stepsMatched = run.traversal.stats.stepsMatched :=
    congrArg (·.stats.stepsMatched) beside.place
  have missed : run'.traversal.stats.stepsMissed = run.traversal.stats.stepsMissed :=
    congrArg (·.stats.stepsMissed) beside.place
  have iterations : run'.traversal.stats.loopIterations = run.traversal.stats.loopIterations :=
    congrArg (·.stats.loopIterations) beside.place
  simp only [← beside.executed, matched, missed, iterations]

/-- A breakpoint that is left out is passed, while the other run waits. -/
theorem step_skipped {pc : Nat} (beside : Beside edits skipped run run')
    (passed : run.traversal.skipped? edits = some pc) :
    ∃ next : Run γ, run.step config ⟨name, edits.map Edit.before⟩ = .running next ∧
      next.traversal.pc = run.traversal.pc + 1 ∧ Beside edits (skipped + 1) next run' := by
  have there := Traversal.skipped?_eq_some passed
  have here : (edits.map Edit.before)[run.traversal.pc]? = some .breakpoint := by
    rw [List.getElem?_map, there]
    rfl
  have unmoved : Edit.place edits (run.traversal.pc + 1) = Edit.place edits run.traversal.pc :=
    Edit.place_succ there
  refine ⟨_, step_of_execute here rfl, rfl, ?_, ?_, beside.collector⟩
  · rw [beside.place]
    simp only [Traversal.edited, Traversal.advance, Traversal.countCommand, unmoved]
  · have executed := beside.executed
    show run.traversal.stats.commandsExecuted + 1 = _
    omega

/-- Elsewhere the two runs take the same step. -/
theorem step_together (beside : Beside edits skipped run run')
    (kept : run.traversal.skipped? edits = none)
    (limits : config'.maxLoopIterations = config.maxLoopIterations) :
    (run.step config ⟨name, edits.map Edit.before⟩).Alike (Fault.moved (Edit.place edits))
      (Beside edits skipped) (run'.step config' ⟨name', edits.filterMap Edit.after?⟩) := by
  have place := beside.place
  have executed := beside.executed
  have pc : run'.traversal.pc = Edit.place edits run.traversal.pc := congrArg (·.pc) place
  have frame : run'.traversal.frame = run.traversal.frame := congrArg (·.frame) place
  have saved : run'.traversal.saved = run.traversal.saved := congrArg (·.saved) place
  cases there : edits[run.traversal.pc]? with
  | none =>
    have here : (edits.map Edit.before)[run.traversal.pc]? = none := by
      rw [List.getElem?_map, there]
      rfl
    have here' : (edits.filterMap Edit.after?)[run'.traversal.pc]? = none := by
      rw [pc]
      exact Edit.getElem?_place_of_behind there
    simp only [step, Traversal.step, here, here', saved, Option.elim_none]
    cases run.traversal.saved.isEmpty with
    | true => exact .finished ⟨place, executed, beside.collector⟩
    | false => exact .broken ⟨place, executed, beside.collector⟩
  | some edit =>
    obtain ⟨command, left⟩ := Traversal.exists_after kept there
    have here : (edits.map Edit.before)[run.traversal.pc]? = some edit.before := by
      rw [List.getElem?_map, there]
      rfl
    have here' : (edits.filterMap Edit.after?)[run'.traversal.pc]? = some command := by
      rw [pc]
      exact Edit.getElem?_place there left
    have counted : run'.traversal.countCommand = run.traversal.countCommand.edited edits
        (run'.traversal.stats.commandsExecuted + 1) := congrArg Traversal.countCommand place
    have effect : command.effect run'.traversal.frame run'.collector =
        edit.before.effect run.traversal.frame run.collector := by
      rw [frame, beside.collector, Edit.effect_after left]
    have outcome := Traversal.execute_edited run.traversal.countCommand config.maxLoopIterations
      (run'.traversal.stats.commandsExecuted + 1) there left
    simp only [step, Traversal.step, here, here', limits, counted, outcome, Option.elim_some,
      effect]
    cases result : run.traversal.countCommand.execute config.maxLoopIterations
      (edits.map Edit.before) edit.before with
    | ok next =>
      have unchanged := Traversal.commandsExecuted_of_execute result
      refine .running ⟨rfl, ?_, rfl⟩
      show next.stats.commandsExecuted = _
      rw [unchanged]
      show run.traversal.stats.commandsExecuted + 1 =
        run'.traversal.stats.commandsExecuted + 1 + skipped
      omega
    | error fault =>
      refine .broken ⟨rfl, ?_, rfl⟩
      show run.traversal.stats.commandsExecuted + 1 =
        run'.traversal.stats.commandsExecuted + 1 + skipped
      omega

/-- Whether a run gets, in `least` instructions or more, as far as one of the edited program has
come, of whose instructions it has not had to carry out `skipped` at first. -/
def Reaches (config : Config) (name : Option String) (edits : List (Edit γ)) (least skipped : Nat)
    (run : Run γ) (progress' : Progress γ) : Prop :=
  ∃ count, least ≤ count ∧
    (run.advance config ⟨name, edits.map Edit.before⟩ count).Alike (Fault.moved (Edit.place edits))
      (Beside edits (skipped + run.traversal.skips edits config.maxLoopIterations count)) progress'

theorem Reaches.of_running {least : Nat} {next : Run γ}
    {progress' : Progress γ}
    (running : run.step config ⟨name, edits.map Edit.before⟩ = .running next)
    (reaches : next.Reaches config name edits least
      (skipped + (run.traversal.skipped? edits).toList.length) progress') :
    run.Reaches config name edits (least + 1) skipped progress' := by
  obtain ⟨count, le, alike⟩ := reaches
  have moved := traversal_step running
  refine ⟨count + 1, Nat.succ_le_succ le, ?_⟩
  rw [Traversal.skips_running moved, ← Nat.add_assoc]
  simp only [advance, running]
  exact alike

theorem Reaches.of_ended {progress progress' : Progress γ}
    (ends : run.step config ⟨name, edits.map Edit.before⟩ = progress)
    (alike : progress.Alike (Fault.moved (Edit.place edits)) (Beside edits skipped) progress')
    (ended : progress.Ended) (least : Nat) :
    run.Reaches config name edits (least + 1) skipped progress' := by
  refine ⟨least + 1, Nat.le_refl _, ?_⟩
  cases progress with
  | running next => exact ended.elim
  | finished next =>
    simp only [advance, ends, Traversal.skips, Traversal.along, traversal_finished ends]
    exact alike
  | broken fault next =>
    simp only [advance, ends, Traversal.skips, Traversal.along, traversal_broken ends]
    exact alike

/-- Wherever the run of the edited program comes, the other one gets there as well. -/
theorem reaches_advance (limits : config'.maxLoopIterations = config.maxLoopIterations)
    (beside : Beside edits skipped run run') (count : Nat) :
    run.Reaches config name edits count skipped
      (run'.advance config' ⟨name', edits.filterMap Edit.after?⟩ count) := by
  induction count generalizing skipped run run' with
  | zero => exact ⟨0, Nat.le_refl 0, .running beside⟩
  | succ count ih =>
    -- The other run may wait at several breakpoints in a row, but not beyond the last instruction.
    generalize ahead : edits.length - run.traversal.pc = left
    induction left using Nat.strongRecOn generalizing skipped run with
    | ind left passes =>
      cases passed : run.traversal.skipped? edits with
      | some pc =>
        obtain ⟨next, running, further, beside'⟩ := step_skipped beside passed
        have inside : run.traversal.pc < edits.length :=
          (List.getElem?_eq_some_iff.mp (Traversal.skipped?_eq_some passed)).1
        have reaches := passes (edits.length - next.traversal.pc) (by omega) beside' rfl
        obtain ⟨more, le, alike⟩ := Reaches.of_running running (by rw [passed]; exact reaches)
        exact ⟨more, Nat.le_of_succ_le le, alike⟩
      | none =>
        have first : (run.step config ⟨name, edits.map Edit.before⟩).Alike
            (Fault.moved (Edit.place edits)) (Beside edits skipped)
            (run'.step config' ⟨name', edits.filterMap Edit.after?⟩) :=
          step_together beside passed limits
        simp only [advance]
        generalize ends : run.step config _ = progress at first
        generalize run'.step config' _ = progress' at first
        cases first with
        | running beside' => exact .of_running ends (by rw [passed]; exact ih beside')
        | finished beside' => exact .of_ended ends (.finished beside') trivial count
        | broken beside' => exact .of_ended ends (.broken beside') trivial count

/-- Whatever breakpoints are left out of a program, however its scopes are named and whatever is
reported, its runs stay the same but for the reports. Either they never end, with or without the
edits, or both end, with the same fault if with any, but for the positions in it, with the same
collector, and with the same counters, but for the breakpoints that are no longer carried out. -/
theorem diagnostics_transparent (edits : List (Edit γ)) (name name' : Option String)
    (debug debug' dump dump' : Bool) (limit : Option Nat) (siblings : List Node)
    (collector : γ) :
    let program : Program γ := ⟨name, edits.map Edit.before⟩
    let program' : Program γ := ⟨name', edits.filterMap Edit.after?⟩
    let after := fun count =>
      (start program siblings collector).advance ⟨debug, limit, dump⟩ program count
    let after' := fun count =>
      (start program' siblings collector).advance ⟨debug', limit, dump'⟩ program' count
    (∀ count, ¬(after count).Ended ∧ ¬(after' count).Ended) ∨
      ∃ count count', (after count).Ended ∧ (after' count').Ended ∧
        (after count).Alike (Fault.moved (Edit.place edits))
          (fun run run' => run'.collector = run.collector ∧
            run.traversal.stats = { run'.traversal.stats with
              commandsExecuted := run'.traversal.stats.commandsExecuted +
                (Traversal.start siblings).skips edits limit count })
          (after' count') := by
  intro program program' after after'
  have beside : Beside edits 0 (start program siblings collector)
      (start program' siblings collector) := ⟨rfl, rfl, rfl⟩
  have reaches : ∀ count', (start program siblings collector).Reaches ⟨debug, limit, dump⟩ name
      edits count' 0 (after' count') := reaches_advance rfl beside
  by_cases ends : ∃ count', (after' count').Ended
  · right
    obtain ⟨count', ended'⟩ := ends
    obtain ⟨count, -, alike⟩ := reaches count'
    refine ⟨count, count', alike.ended_iff.mpr ended', ended', alike.mono ?_⟩
    intro run run' same
    rw [Nat.zero_add] at same
    exact ⟨same.collector, same.stats_eq⟩
  · left
    intro count
    have goes_on : ¬(after' count).Ended := fun ended' => ends ⟨count, ended'⟩
    obtain ⟨later, le, alike⟩ := reaches count
    refine ⟨fun ended => goes_on ?_, goes_on⟩
    exact alike.ended_iff.mp (ended_of_le ended le)

end Run

end Gleaner
