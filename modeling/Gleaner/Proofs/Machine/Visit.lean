import Gleaner.Proofs.Machine.Soundness
import Gleaner.Proofs.Machine.Turn

/-! # Visits of loops

A run keeps for each loop that it has entered how often the body has been completed. Kept beside
the run here is what that says nothing of: how many siblings were left when the loop was entered,
and how often the body has been begun since. -/

namespace Gleaner

variable {γ : Type}

/-- A visit of a loop, from where it is entered to where it is left. -/
structure Visit where
  /-- How many siblings were left when the loop was entered. -/
  remaining : Nat
  /-- How often the body has been begun. -/
  rounds : Nat

namespace Visit

/-- The visit with the body begun once more. -/
def again (visit : Visit) : Visit := { visit with rounds := visit.rounds + 1 }

/-- Whether the body has been begun no more often than there were siblings, and than a limit
allows. -/
def Within (limit : Option Nat) (visit : Visit) : Prop :=
  visit.rounds ≤ visit.remaining ∧ ∀ most ∈ limit, visit.rounds ≤ most

end Visit

namespace Traversal

variable {limit : Option Nat} {commands : List (Command γ)} {siblings : List Node}
  {t t' : Traversal} {visits : List Visit}

/-- The visits of the loops of a state, innermost first, by those of the state before: a loop that
is entered has begun its body once, one that goes into its body again once more, and one that is
left is dropped. -/
def note (commands : List (Command γ)) (t t' : Traversal) (visits : List Visit) : List Visit :=
  if t.loops.length < t'.loops.length then ⟨t.frame.remaining, 1⟩ :: visits
  else if t.goesIn commands t' then visits.modifyHead Visit.again
  else visits.drop (t.loops.length - t'.loops.length)

theorem note_entered {entry : LoopEntry} (entered : t'.loops = entry :: t.loops) :
    t.note commands t' visits = ⟨t.frame.remaining, 1⟩ :: visits := by
  simp [note, entered]

theorem note_again (same : t'.loops = t.loops) (inside : t.goesIn commands t' = true) :
    t.note commands t' visits = visits.modifyHead Visit.again := by
  simp [note, same, inside]

theorem note_same (same : t'.loops.length = t.loops.length)
    (outside : t.goesIn commands t' = false) : t.note commands t' visits = visits := by
  simp [note, same, outside]

theorem note_left {entry : LoopEntry} {visit : Visit} (within : t.loops = entry :: t'.loops)
    (outside : t.goesIn commands t' = false) :
    t.note commands t' (visit :: visits) = visits := by
  have shorter : ¬t.loops.length < t'.loops.length := by
    rw [within, List.length_cons]
    omega
  rw [note, if_neg shorter, outside]
  simp [within]

/-- The states of a run, each with the visits of its loops. -/
inductive Journal (limit : Option Nat) (commands : List (Command γ)) (siblings : List Node) :
    Traversal → List Visit → Prop where
  | start : Journal limit commands siblings (.start siblings) []
  | step {t t' : Traversal} {visits : List Visit}
      (journal : Journal limit commands siblings t visits)
      (running : t.step limit commands = .running t') :
      Journal limit commands siblings t' (t.note commands t' visits)

theorem Journal.exists_trail {limit : Option Nat}
    (journal : Journal limit commands siblings t visits) :
    ∃ places, Trail limit commands siblings t places := by
  induction journal with
  | start => exact ⟨[], .start⟩
  | step journal running ih =>
    obtain ⟨places, trail⟩ := ih
    exact ⟨_, trail.step running⟩

/-- The states of a journal are those of runs. -/
theorem Journal.exists_run {config : Config} {program : Program γ}
    (journal : Journal config.maxLoopIterations program.commands siblings t visits)
    (collector : γ) :
    ∃ count run, (Run.start program siblings collector).advance config program count =
      .running run ∧ run.traversal = t := by
  induction journal with
  | start => exact ⟨0, _, rfl, rfl⟩
  | step journal running ih =>
    obtain ⟨count, run, reached, rfl⟩ := ih
    refine ⟨count + 1, ?_⟩
    rw [Run.advance_of_running reached, Run.advance_one]
    simp only [Run.step, running]
    exact ⟨_, rfl, rfl⟩

end Traversal

theorem Run.exists_journal {config : Config} {program : Program γ} {siblings : List Node}
    {collector : γ} {count : Nat} {run : Run γ}
    (running : (start program siblings collector).advance config program count = .running run) :
    ∃ visits, Traversal.Journal config.maxLoopIterations program.commands siblings
      run.traversal visits := by
  refine advance_keeps
    (fun run => ∃ visits, Traversal.Journal config.maxLoopIterations program.commands siblings
      run.traversal visits)
    ?_ ⟨[], .start⟩ running
  rintro run run' ⟨visits, journal⟩ stepped
  exact ⟨_, journal.step (traversal_step stepped)⟩

end Gleaner
