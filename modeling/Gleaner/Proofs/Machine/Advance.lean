import Gleaner.Proofs.Machine.Course

/-! # From steps to runs

A run is as many steps as are asked for. The course of a run does not depend on the collector or
on the log, so what is known of its steps is known of the run. -/

namespace Gleaner

variable {γ : Type}

namespace Progress

/-- Whether a run has ended, behind the last instruction or with a fault. -/
def Ended : Progress γ → Prop
  | running _ => False
  | finished _ | broken _ _ => True

/-- How far a run has come, without what it has reported. -/
def unlogged : Progress γ → Progress γ
  | running run => running { run with log := [] }
  | finished run => finished { run with log := [] }
  | broken fault run => broken fault { run with log := [] }

theorem ended_of_ne_running {progress : Progress γ} (settled : ∀ run, progress ≠ .running run) :
    progress.Ended := by
  cases progress with
  | running run => exact absurd rfl (settled run)
  | finished run | broken fault run => trivial

@[simp] theorem ended_unlogged (progress : Progress γ) :
    progress.unlogged.Ended ↔ progress.Ended := by
  cases progress <;> rfl

/-- What is reported plays no part in whether a run goes on, nor in where it is then. -/
theorem running_of_unlogged {progress : Progress γ} {run : Run γ}
    (same : progress.unlogged = (Progress.running run).unlogged) :
    ∃ run', progress = .running run' ∧ run'.traversal = run.traversal ∧
      run'.collector = run.collector := by
  cases progress with
  | running run' =>
    obtain ⟨place, collected⟩ : run'.traversal = run.traversal ∧
      run'.collector = run.collector := by simpa [unlogged] using same
    exact ⟨run', rfl, place, collected⟩
  | finished run' | broken fault run' => simp [unlogged] at same

end Progress

namespace Run

variable {config : Config} {program : Program γ}

theorem traversal_step {run run' : Run γ} (running : run.step config program = .running run') :
    run.traversal.step config.maxLoopIterations program.commands = .running run'.traversal := by
  unfold step at running
  dsimp only at running
  split at running
  · rename_i t stepped
    obtain rfl : _ = run' := by simpa using running
    exact stepped
  · simp at running
  · simp at running

theorem traversal_finished {run run' : Run γ}
    (finished : run.step config program = .finished run') :
    run.traversal.step config.maxLoopIterations program.commands = .finished run'.traversal := by
  unfold step at finished
  dsimp only at finished
  split at finished
  · simp at finished
  · rename_i t stepped
    obtain rfl : _ = run' := by simpa using finished
    exact stepped
  · simp at finished

theorem traversal_broken {run run' : Run γ} {fault : Fault}
    (broken : run.step config program = .broken fault run') :
    run.traversal.step config.maxLoopIterations program.commands =
      .broken fault run'.traversal := by
  unfold step at broken
  dsimp only at broken
  split at broken
  · simp at broken
  · simp at broken
  · rename_i cause t stepped
    obtain ⟨rfl, rfl⟩ : cause = fault ∧ _ = run' := by simpa using broken
    exact stepped

/-- An instruction that is carried out takes the run on, with its effect on the collector. -/
theorem step_of_execute {run : Run γ} {command : Command γ} {next : Traversal}
    (here : program.commands[run.traversal.pc]? = some command)
    (executed : run.traversal.countCommand.execute config.maxLoopIterations program.commands
      command = .ok next) :
    run.step config program =
      .running ⟨next, command.effect run.traversal.frame run.collector,
        (run.traversal.events config command).reverse ++ run.log⟩ := by
  simp [step, Traversal.step, here, executed]

theorem advance_add (m n : Nat) (run : Run γ) :
    run.advance config program (m + n) =
      match run.advance config program m with
      | .running run => run.advance config program n
      | ended => ended := by
  induction m generalizing run with
  | zero => simp [advance]
  | succ m ih =>
    rw [Nat.succ_add]
    simp only [advance]
    cases run.step config program with
    | running next => exact ih next
    | finished next => rfl
    | broken fault next => rfl

/-- A run that has come to another one goes on as that one does. -/
theorem advance_of_running {m n : Nat} {run run' : Run γ}
    (running : run.advance config program m = .running run') :
    run.advance config program (m + n) = run'.advance config program n := by
  rw [advance_add, running]

/-- A run that has ended stays as it is. -/
theorem advance_of_ended {m n : Nat} {run : Run γ} {ended : Progress γ}
    (reached : run.advance config program m = ended) (settled : ∀ run', ended ≠ .running run')
    (le : m ≤ n) : run.advance config program n = ended := by
  obtain ⟨more, rfl⟩ := Nat.exists_eq_add_of_le le
  rw [advance_add, reached]
  cases ended with
  | running run' => exact absurd rfl (settled run')
  | finished run' | broken fault run' => rfl

theorem ended_of_le {m n : Nat} {run : Run γ} (ended : (run.advance config program m).Ended)
    (le : m ≤ n) : (run.advance config program n).Ended := by
  have settled : ∀ run', run.advance config program m ≠ .running run' := by
    intro run' running
    rw [running] at ended
    exact ended
  rw [advance_of_ended rfl settled le]
  exact ended

theorem advance_one (run : Run γ) : run.advance config program 1 = run.step config program := by
  simp only [advance]
  cases run.step config program <;> rfl

/-- A run of one step more is a run with a step at its end. -/
theorem advance_succ_running {count : Nat} {run run' : Run γ}
    (running : run.advance config program (count + 1) = .running run') :
    ∃ before, run.advance config program count = .running before ∧
      before.step config program = .running run' := by
  rw [advance_add] at running
  cases reached : run.advance config program count with
  | running before =>
    rw [reached] at running
    exact ⟨before, rfl, by simpa [advance_one] using running⟩
  | finished before | broken fault before => simp [reached] at running

/-- What every step keeps holds throughout the run. -/
theorem advance_keeps (Holds : Run γ → Prop) {count : Nat} {run run' : Run γ}
    (keeps : ∀ run run', Holds run → run.step config program = .running run' → Holds run')
    (holds : Holds run) (running : run.advance config program count = .running run') :
    Holds run' := by
  induction count generalizing run' with
  | zero =>
    obtain rfl : run = run' := by simpa [advance] using running
    exact holds
  | succ count ih =>
    obtain ⟨before, reached, stepped⟩ := advance_succ_running running
    exact keeps before run' (ih reached) stepped

/-- A run that has ended did so by a step of a run on the way. -/
theorem advance_ended {count : Nat} {run : Run γ} {ended : Progress γ}
    (reached : run.advance config program count = ended)
    (settled : ∀ run', ended ≠ .running run') :
    ∃ before last, run.advance config program before = .running last ∧
      before < count ∧ last.step config program = ended := by
  induction count generalizing run with
  | zero => exact absurd reached.symm (settled run)
  | succ count ih =>
    simp only [advance] at reached
    cases stepped : run.step config program with
    | running next =>
      rw [stepped] at reached
      obtain ⟨before, last, running, lt, ends⟩ := ih reached
      refine ⟨before + 1, last, ?_, by omega, ends⟩
      simp only [advance, stepped, running]
    | finished next | broken fault next =>
      rw [stepped] at reached
      exact ⟨0, run, rfl, by omega, stepped.trans reached⟩

/-- Runs that are at one place with one collector, and whose next steps agree, come equally
far. -/
theorem step_agrees {config' : Config} {run run' : Run γ}
    (place : run'.traversal = run.traversal) (collected : run'.collector = run.collector)
    (agree : run.traversal.step config'.maxLoopIterations program.commands =
      run.traversal.step config.maxLoopIterations program.commands) :
    (run'.step config' program).unlogged = (run.step config program).unlogged := by
  simp only [step, place, collected, agree]
  cases run.traversal.step config.maxLoopIterations program.commands <;> rfl

/-- Settings that make no difference to any step on the way make none to the run. -/
theorem advance_agrees {config' : Config} {count : Nat} {run run' : Run γ}
    (place : run'.traversal = run.traversal) (collected : run'.collector = run.collector)
    (agree : ∀ n < count, ∀ on_way, run.advance config program n = .running on_way →
      on_way.traversal.step config'.maxLoopIterations program.commands =
        on_way.traversal.step config.maxLoopIterations program.commands) :
    (run'.advance config' program count).unlogged =
      (run.advance config program count).unlogged := by
  induction count generalizing run run' with
  | zero => simp [advance, Progress.unlogged, place, collected]
  | succ count ih =>
    have first := step_agrees place collected (agree 0 (Nat.succ_pos count) run rfl)
    simp only [advance]
    cases stepped : run.step config program with
    | running next =>
      rw [stepped] at first
      obtain ⟨next', stepped', place', collected'⟩ := Progress.running_of_unlogged first
      rw [stepped']
      refine ih place' collected' fun n lt on_way running => ?_
      exact agree (n + 1) (Nat.succ_lt_succ lt) on_way (by simp only [advance, stepped, running])
    | finished next | broken fault next =>
      rw [stepped] at first
      cases stepped' : run'.step config' program <;>
        simp_all [Progress.unlogged]

end Run

/-- In the course of a run, one position and collector lead to another. -/
def Leads (config : Config) (program : Program γ) (t : Traversal) (collector : γ)
    (t' : Traversal) (collector' : γ) : Prop :=
  ∀ log, ∃ count log', (Run.mk t collector log).advance config program count =
    .running ⟨t', collector', log'⟩

namespace Leads

variable {config : Config} {program : Program γ} {t t' t'' : Traversal} {c c' c'' : γ}

theorem refl (t : Traversal) (c : γ) : Leads config program t c t c :=
  fun log => ⟨0, log, rfl⟩

theorem trans (first : Leads config program t c t' c')
    (second : Leads config program t' c' t'' c'') : Leads config program t c t'' c'' := by
  intro log
  obtain ⟨m, log', running⟩ := first log
  obtain ⟨n, log'', running'⟩ := second log'
  exact ⟨m + n, log'', (Run.advance_of_running running).trans running'⟩

/-- One instruction. -/
theorem step {command : Command γ} (here : program.commands[t.pc]? = some command)
    (executed : t.countCommand.execute config.maxLoopIterations program.commands command =
      .ok t') :
    Leads config program t c t' (command.effect t.frame c) := by
  intro log
  refine ⟨1, (t.events config command).reverse ++ log, ?_⟩
  rw [Run.advance_one]
  exact Run.step_of_execute here executed

/-- One instruction that leaves the collector alone. -/
theorem still {command : Command γ} (here : program.commands[t.pc]? = some command)
    (executed : t.countCommand.execute config.maxLoopIterations program.commands command =
      .ok t') (same : command.effect t.frame c = c) : Leads config program t c t' c := by
  have leads := step (c := c) here executed
  rwa [same] at leads

/-- A run that is led behind the last instruction, all scopes left, finishes. -/
theorem finishes (leads : Leads config program t c t' c')
    (behind : program.commands[t'.pc]? = none) (left : t'.saved = []) (log : List Event) :
    ∃ count log', (Run.mk t c log).advance config program count =
      .finished ⟨t', c', log'⟩ := by
  obtain ⟨count, log', running⟩ := leads log
  refine ⟨count + 1, .ends t'.stats :: log', ?_⟩
  rw [Run.advance_of_running running, Run.advance_one]
  simp [Run.step, Traversal.step, behind, left]

end Leads

end Gleaner
