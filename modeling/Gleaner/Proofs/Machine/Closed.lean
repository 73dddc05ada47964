import Gleaner.Proofs.Machine.Advance
import Gleaner.Proofs.Machine.Balance

/-! # What a finished run has left open

Behind the last instruction a run looks whether it has left all scopes, but not whether it has left
all loops. So a program that finishes has always left every scope. It has left every loop, too, if
its markers of loops and conditions are balanced among themselves, whatever its scopes are; a loop
without an end may still be open. -/

namespace Gleaner

variable {γ : Type}

namespace Command

/-- An instruction, unless it enters or leaves a scope; then one in its place that does nothing. -/
def unscoped : Command γ → Command γ
  | push _ | pop => breakpoint
  | command => command

section

variable (id : Nat) (command : Command γ)

theorem isEndLoop_unscoped : command.unscoped.isEndLoop id = command.isEndLoop id := by
  cases command <;> rfl

theorem isBeginLoop_unscoped : command.unscoped.isBeginLoop id = command.isBeginLoop id := by
  cases command <;> rfl

theorem isBranchEnd_unscoped : command.unscoped.isBranchEnd id = command.isBranchEnd id := by
  cases command <;> rfl

theorem isEndCondition_unscoped :
    command.unscoped.isEndCondition id = command.isEndCondition id := by
  cases command <;> rfl

end

/-- Whether the markers of loops and conditions are balanced, scopes left aside. -/
def LoopsBalanced (commands : List (Command γ)) : Prop :=
  Bracket.Balanced (commands.map unscoped)

end Command

namespace Traversal

variable {limit : Option Nat} {commands : List (Command γ)} {t t' t'' : Traversal}

/-- Without its scopes, a program leads to the same instruction and into the same loops. -/
theorem Move.unscoped (move : Move limit commands t t') :
    ∃ t'', Move limit (commands.map Command.unscoped) t t'' ∧ t''.pc = t'.pc ∧
      t''.loops = t'.loops := by
  have there : ∀ {command : Command γ}, commands[t.pc]? = some command →
      (commands.map Command.unscoped)[t.pc]? = some command.unscoped := by
    intro command here
    rw [List.getElem?_map, here, Option.map_some]
  cases move with
  | @along command frame stats here straight looked =>
    have same : command.unscoped = command := by
      cases command <;> simp_all [Command.isStraight, Command.unscoped]
    exact ⟨_, .along (by rw [there here, same]) straight looked, rfl, rfl⟩
  | enter here | leave here =>
    exact ⟨⟨_, _, _, _, t.stats⟩, .along (there here) rfl .stays, rfl, rfl⟩
  | begin here resumed unspent meets =>
    exact ⟨_, .begin (there here) resumed unspent meets, rfl, rfl⟩
  | skip here resumed found =>
    rw [← Command.findForward_map (Command.isEndLoop_unscoped _)] at found
    exact ⟨_, .skip (there here) resumed found, rfl, rfl⟩
  | finish here within idle => exact ⟨_, .finish (there here) within idle, rfl, rfl⟩
  | again here within moved found =>
    rw [← Command.findBackward_map (Command.isBeginLoop_unscoped _)] at found
    exact ⟨_, .again (there here) within moved found, rfl, rfl⟩
  | branch here found =>
    rw [← Command.findForward_map (Command.isBranchEnd_unscoped _)] at found
    exact ⟨_, .branch (there here) found, rfl, rfl⟩
  | join here found =>
    rw [← Command.findForward_map (Command.isEndCondition_unscoped _)] at found
    exact ⟨_, .join (there here) found, rfl, rfl⟩

/-- Which loops are around an instruction does not depend on the frames. -/
theorem around_congr (pc : t''.pc = t'.pc) (loops : t''.loops = t'.loops) :
    t''.around commands = t'.around commands := by
  have resumed : ∀ id, (t''.resume id).2 = (t'.resume id).2 := by
    intro id
    simp only [resume, loops]
    cases t'.loops with
    | nil => rfl
    | cons top outer => by_cases same : top.id = id <;> simp [same]
  simp only [around, pc, loops, resumed]

/-- Whether the text opens all loops that a run has entered, counted. -/
def Enclosed (commands : List (Command γ)) (t : Traversal) : Prop :=
  ∃ opened, Bracket.openAt commands t.pc = some opened ∧
    (t.around commands).length ≤ (Bracket.loopIds opened).length

theorem enclosed_start (siblings : List Node) : Enclosed commands (.start siblings) := by
  have inside : around commands (.start siblings) <:+ [] := around_suffix ..
  exact ⟨[], rfl, by simp [List.suffix_nil.mp inside]⟩

/-- However an instruction moves between scopes, no loop is entered that the text does not open. -/
theorem Enclosed.move (balanced : Command.LoopsBalanced commands)
    (enclosed : Enclosed (commands.map Command.unscoped) t) (move : Move limit commands t t') :
    Enclosed (commands.map Command.unscoped) t' := by
  obtain ⟨opened, opens, le⟩ := enclosed
  obtain ⟨t'', move', pc, loops⟩ := move.unscoped
  obtain ⟨opened', opens', -, shifts⟩ := move'.shifts balanced opens
  have further := shifts.length_le
  rw [around_congr pc loops] at further
  simp only [List.length_map] at further
  exact ⟨opened', by rwa [← pc], by omega⟩

theorem Enclosed.loops_eq_nil (balanced : Command.LoopsBalanced commands)
    (enclosed : Enclosed (commands.map Command.unscoped) t) (behind : commands[t.pc]? = none) :
    t.loops = [] := by
  have behind' : (commands.map Command.unscoped)[t.pc]? = none := by simp [behind]
  obtain ⟨opened, opens, le⟩ := enclosed
  obtain rfl : [] = opened :=
    Option.some.inj ((Bracket.Balanced.openAt_end balanced behind').symm.trans opens)
  have all : t.around (commands.map Command.unscoped) = t.loops := by simp only [around, behind']
  rw [all] at le
  exact List.length_eq_zero_iff.mp (Nat.le_zero.mp le)

end Traversal

namespace Run

open Traversal

/-- Whatever the program, a run that finishes does so behind the last instruction and has left
every scope. If loops and conditions are balanced, it has left every loop. -/
theorem finished_closed {config : Config} {program : Program γ} {siblings : List Node}
    {collector : γ} {count : Nat} {run : Run γ}
    (finished : (start program siblings collector).advance config program count =
      .finished run) :
    program.commands[run.traversal.pc]? = none ∧ run.traversal.saved = [] ∧
      (Command.LoopsBalanced program.commands → run.traversal.loops = []) := by
  obtain ⟨before, last, running, -, finishes⟩ := advance_ended finished (by simp)
  obtain ⟨same, behind, left⟩ := finished_of_step (traversal_finished finishes)
  rw [same]
  refine ⟨behind, left, fun balanced => ?_⟩
  have enclosed : Enclosed (program.commands.map Command.unscoped) last.traversal :=
    advance_keeps (fun run => Enclosed (program.commands.map Command.unscoped) run.traversal)
      (fun _ _ enclosed stepped => enclosed.move balanced (move_of_step (traversal_step stepped)))
      (enclosed_start siblings) running
  exact enclosed.loops_eq_nil balanced behind

/-- Two scopes are left where one is entered, but one of them is in a body that is skipped. -/
theorem finished_closed_uneven_scopes :
    let program : Program Unit :=
      ⟨none, [.beginLoop 0 [.any], .push none, .beginCondition 0 [.any], .pop, .elseCondition 0,
        .pop, .endCondition 0, .endLoop 0]⟩
    let siblings := [Node.element "p" .empty []]
    Command.LoopsBalanced program.commands ∧ ¬Bracket.Balanced program.commands ∧
      ∃ run, (start program siblings ()).advance .default program 7 = .finished run ∧
        program.commands[run.traversal.pc]? = none ∧ run.traversal.saved = [] ∧
        (Command.LoopsBalanced program.commands → run.traversal.loops = []) := by
  intro program siblings
  have finished : (start program siblings ()).advance .default program 7 = .finished _ := rfl
  exact ⟨rfl, nofun, _, finished, finished_closed finished⟩

/-- A loop that is begun and has no end is still open where the run finishes. -/
theorem unclosed_loop_finishes :
    let program : Program Unit := ⟨none, [.beginLoop 0 [.any]]⟩
    ∃ run, (start program [.element "p" .empty [.text "1"]] ()).advance .default program 2 =
        .finished run ∧ run.traversal.loops ≠ [] := by
  intro program
  have finished : (start program [.element "p" .empty [.text "1"]] ()).advance .default program 2 =
    .finished _ := rfl
  exact ⟨_, finished, nofun⟩

end Run

end Gleaner
