import Gleaner.Proofs.Machine.Advance

/-! # Two runs side by side

Runs of two programs, perhaps over different siblings and with collectors of different types, that
come equally far. What two runs have in common at their starts, and every instruction keeps, they
have in common throughout. Beside that: what is noted of a run on its way. -/

namespace Gleaner

variable {γ δ : Type}

namespace Progress

/-- The run, whether it goes on or has ended. -/
def run : Progress γ → Run γ
  | running run | finished run | broken _ run => run

/-- Whether two runs have come equally far and are related: both go on, both have finished, or both
have broken off, the one with the fault of the other as `move` changes it. -/
inductive Alike (move : Fault → Fault) (related : Run γ → Run δ → Prop) :
    Progress γ → Progress δ → Prop where
  | running {run : Run γ} {run' : Run δ} (same : related run run') :
      Alike move related (.running run) (.running run')
  | finished {run : Run γ} {run' : Run δ} (same : related run run') :
      Alike move related (.finished run) (.finished run')
  | broken {fault : Fault} {run : Run γ} {run' : Run δ} (same : related run run') :
      Alike move related (.broken fault run) (.broken (move fault) run')

variable {move : Fault → Fault} {related related' : Run γ → Run δ → Prop}
  {progress : Progress γ} {progress' : Progress δ}

theorem Alike.mono (alike : progress.Alike move related progress')
    (further : ∀ run run', related run run' → related' run run') :
    progress.Alike move related' progress' := by
  cases alike with
  | running same => exact .running (further _ _ same)
  | finished same => exact .finished (further _ _ same)
  | broken same => exact .broken (further _ _ same)

theorem Alike.ended_iff (alike : progress.Alike move related progress') :
    progress.Ended ↔ progress'.Ended := by
  cases alike <;> rfl

end Progress

namespace Run

variable {config config' : Config} {program : Program γ} {program' : Program δ}
  {move : Fault → Fault} {related : Run γ → Run δ → Prop}

/-- Runs that every instruction keeps related come equally far. -/
theorem advance_alike
    (steps : ∀ run run', related run run' →
      (run.step config program).Alike move related (run'.step config' program'))
    {run : Run γ} {run' : Run δ} (same : related run run') (count : Nat) :
    (run.advance config program count).Alike move related
      (run'.advance config' program' count) := by
  induction count generalizing run run' with
  | zero => exact .running same
  | succ count ih =>
    have first := steps run run' same
    simp only [advance]
    generalize run.step config program = progress at first
    generalize run'.step config' program' = progress' at first
    cases first with
    | running same' => exact ih same'
    | finished same' => exact .finished same'
    | broken same' => exact .broken same'

end Run

namespace Traversal

variable {α : Type} {limit : Option Nat} {commands : List (Command γ)}

/-- What is noted at the instructions that a run carries out, `count` of them at most, in order.
Nothing is noted where one fails. -/
def along (note : Traversal → Option α) (limit : Option Nat) (commands : List (Command γ)) :
    Nat → Traversal → List α
  | 0, _ => []
  | count + 1, t =>
    match t.step limit commands with
    | .running next => (note t).toList ++ along note limit commands count next
    | _ => []

theorem along_running {note : Traversal → Option α} {t next : Traversal} {count : Nat}
    (running : t.step limit commands = .running next) :
    t.along note limit commands (count + 1) =
      (note t).toList ++ next.along note limit commands count := by
  simp only [along, running]

/-- Programs that lead everywhere to the same place, with the same notes, have the same notes along
their runs. -/
theorem along_congr {commands' : List (Command δ)} {note note' : Traversal → Option α}
    (steps : ∀ t : Traversal, t.step limit commands' = t.step limit commands)
    (notes : ∀ t, note' t = note t) (count : Nat) (t : Traversal) :
    t.along note' limit commands' count = t.along note limit commands count := by
  induction count generalizing t with
  | zero => rfl
  | succ count ih =>
    simp only [along, steps, notes]
    cases t.step limit commands with
    | running next => simp only [ih]
    | finished _ | broken _ _ => rfl

end Traversal

namespace Run

variable {α : Type} {config : Config} {program : Program γ} {note : Traversal → Option α}

/-- What is noted along a run is what is noted up to a state on the way, and then from there on. -/
theorem along_of_running {m n : Nat} {run run' : Run γ}
    (running : run.advance config program m = .running run') :
    run.traversal.along note config.maxLoopIterations program.commands (m + n) =
      run.traversal.along note config.maxLoopIterations program.commands m ++
        run'.traversal.along note config.maxLoopIterations program.commands n := by
  induction m generalizing run with
  | zero =>
    obtain rfl : run = run' := by simpa [advance] using running
    simp [Traversal.along]
  | succ m ih =>
    simp only [advance] at running
    cases stepped : run.step config program with
    | running next =>
      rw [stepped] at running
      have moved := traversal_step stepped
      rw [Nat.succ_add, Traversal.along_running moved, Traversal.along_running moved, ih running,
        List.append_assoc]
    | finished _ | broken _ _ => simp [stepped] at running

/-- Where nothing is noted in any state on the way, nothing is noted along the run. -/
theorem along_eq_nil {count : Nat} {run : Run γ}
    (nothing : ∀ n < count, ∀ mid, run.advance config program n = .running mid →
      note mid.traversal = none) :
    run.traversal.along note config.maxLoopIterations program.commands count = [] := by
  induction count generalizing run with
  | zero => rfl
  | succ count ih =>
    cases stepped : run.step config program with
    | running next =>
      rw [Traversal.along_running (traversal_step stepped), nothing 0 (Nat.succ_pos _) run rfl]
      refine ih fun n lt mid reached => nothing (n + 1) (Nat.succ_lt_succ lt) mid ?_
      simpa only [advance, stepped] using reached
    | finished _ => simp only [Traversal.along, traversal_finished stepped]
    | broken _ _ => simp only [Traversal.along, traversal_broken stepped]

end Run

end Gleaner
