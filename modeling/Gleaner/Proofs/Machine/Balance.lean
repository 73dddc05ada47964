import Gleaner.Proofs.Machine.Ceiling
import Gleaner.Proofs.Machine.Refinement
import Gleaner.Proofs.Machine.Turn

/-! # When a balanced program breaks

The text of a balanced program opens scopes and loops around every instruction. A run is on
course while it has entered these and no others. Where numbers are used twice, a jump can land
inside a block that has not been entered; the run is then late, and stays late, since no
instruction makes up for a scope or a loop that was not entered. A late run cannot finish. So a
balanced program never breaks exactly if all its runs stay on course. -/

namespace Gleaner

variable {γ : Type}

namespace Traversal

/-- Whether a run has entered the scopes and loops that the text opens where it is. -/
def OnCourse (commands : List (Command γ)) (t : Traversal) : Prop :=
  ∃ opened, Bracket.openAt commands t.pc = some opened ∧
    t.saved.length = Bracket.nests opened ∧
    (t.around commands).map LoopEntry.id = Bracket.loopIds opened

/-- Whether a run has entered fewer scopes or fewer loops than the text opens where it is. -/
def Late (commands : List (Command γ)) (t : Traversal) : Prop :=
  ∃ opened, Bracket.openAt commands t.pc = some opened ∧
    (t.saved.length < Bracket.nests opened ∨
      (t.around commands).length < (Bracket.loopIds opened).length)

/-- How an instruction changes the numbers of the loops that the text opens, and of those that
the run has entered: the text may go deeper than the run, never the run deeper than the text. -/
inductive Shifts : List Nat → List Nat → List Nat → List Nat → Prop where
  | keep {text run run' : List Nat} (inner : List Nat) (kept : run' <:+ run) :
      Shifts text run (inner ++ text) run'
  | enter {text run run' : List Nat} (id : Nat) (kept : run' <:+ id :: run) :
      Shifts text run (id :: text) run'
  | leave {text run run' : List Nat} (id : Nat) (inner : List Nat) (kept : run' <:+ run) :
      Shifts (id :: text) (id :: run) (inner ++ text) run'

namespace Shifts

variable {text run text' run' : List Nat}

theorem length_le (shifts : Shifts text run text' run') :
    text.length + run'.length ≤ text'.length + run.length := by
  cases shifts with
  | keep inner kept | leave id inner kept =>
    have le := kept.length_le
    simp only [List.length_append, List.length_cons]
    omega
  | enter id kept =>
    have le := kept.length_le
    simp only [List.length_cons] at le ⊢
    omega

theorem suffix (shifts : Shifts text text text' run') : run' <:+ text' := by
  cases shifts with
  | keep inner kept | leave id inner kept => exact kept.trans (List.suffix_append ..)
  | enter id kept => exact kept

end Shifts

variable {limit : Option Nat} {commands : List (Command γ)} {t t' : Traversal}

/-- One instruction of a balanced program, as the text and as the run see it. -/
theorem Move.shifts (balanced : Bracket.Balanced commands) (move : Move limit commands t t')
    {opened : List Bracket} (opens : Bracket.openAt commands t.pc = some opened) :
    ∃ opened', Bracket.openAt commands t'.pc = some opened' ∧
      Bracket.nests opened + t'.saved.length ≤ Bracket.nests opened' + t.saved.length ∧
      Shifts (Bracket.loopIds opened) ((t.around commands).map LoopEntry.id)
        (Bracket.loopIds opened') ((t'.around commands).map LoopEntry.id) := by
  obtain ⟨opened', opens', turn⟩ := move.turn balanced opens
  refine ⟨opened', opens', ?_⟩
  rw [← Bracket.nests_core opened, ← Bracket.nests_core opened', ← Bracket.loopIds_core opened,
    ← Bracket.loopIds_core opened']
  -- Where the run has come to a beginning with the number of its innermost loop, that loop counts
  -- as the one that begins, and no longer as one around it.
  have kept := (t'.around_suffix commands).map LoopEntry.id
  generalize Bracket.core opened = text, Bracket.core opened' = text' at turn ⊢
  cases turn with
  | onward deeper looked scopes loops =>
    rw [loops] at kept
    refine ⟨by simp [scopes], ?_⟩
    rw [Bracket.loopIds_append]
    exact .keep _ kept
  | enter frame scopes loops whole =>
    rw [loops, ← whole] at kept
    exact ⟨by simp [scopes]; omega, .keep [] kept⟩
  | leave scopes loops whole =>
    rw [loops, ← whole] at kept
    exact ⟨by simp [scopes]; omega, .keep [] kept⟩
  | @begin _ id entry resumed unspent room frame scopes loops =>
    have same : entry.id = id := by
      rcases resume_cases resumed with ⟨rfl, -, -⟩ | ⟨-, same⟩
      · rfl
      · exact same
    rw [loops, List.map_cons, same] at kept
    exact ⟨by simp [scopes], .enter id kept⟩
  | finish within whole frame scopes =>
    rw [whole, within]
    exact ⟨by simp [scopes], .leave _ [] kept⟩
  | again deeper within whole moved frame scopes loops =>
    rw [whole, within, Bracket.loopIds_append]
    exact ⟨by simp [scopes], .leave _ _ (List.suffix_refl _)⟩

theorem onCourse_start (siblings : List Node) : OnCourse commands (.start siblings) := by
  refine ⟨[], rfl, rfl, ?_⟩
  have inside : around commands (.start siblings) <:+ [] := around_suffix ..
  rw [List.suffix_nil.mp inside]
  rfl

/-- From its course, a run stays on it or comes to be late. -/
theorem OnCourse.move (balanced : Bracket.Balanced commands) (onCourse : OnCourse commands t)
    (move : Move limit commands t t') : OnCourse commands t' ∨ Late commands t' := by
  obtain ⟨opened, opens, nests, loops⟩ := onCourse
  obtain ⟨opened', opens', deeper, shifts⟩ := move.shifts balanced opens
  rw [loops] at shifts
  have inside := shifts.suffix
  by_cases even : t'.saved.length = Bracket.nests opened' ∧
      (t'.around commands).length = (Bracket.loopIds opened').length
  · exact .inl ⟨opened', opens', even.1, inside.eq_of_length (by simpa using even.2)⟩
  · have le := inside.length_le
    rw [List.length_map] at le
    exact .inr ⟨opened', opens', by omega⟩

/-- A run that is late stays late. -/
theorem Late.move (balanced : Bracket.Balanced commands) (late : Late commands t)
    (move : Move limit commands t t') : Late commands t' := by
  obtain ⟨opened, opens, fewer⟩ := late
  obtain ⟨opened', opens', deeper, shifts⟩ := move.shifts balanced opens
  have le := shifts.length_le
  simp only [List.length_map] at le
  exact ⟨opened', opens', by omega⟩

/-- A run that is late is not at the end of the program. -/
theorem Late.not_behind (balanced : Bracket.Balanced commands) (late : Late commands t) :
    commands[t.pc]? ≠ none := by
  intro behind
  obtain ⟨opened, opens, fewer⟩ := late
  obtain rfl : [] = opened := Option.some.inj ((balanced.openAt_end behind).symm.trans opens)
  simp [Bracket.nests, Bracket.loopIds] at fewer

/-- On its course, a run does not fail: every marker that is needed is there. -/
theorem OnCourse.not_fails (balanced : Bracket.Balanced commands)
    (onCourse : OnCourse commands t) : ¬Fails commands t := by
  obtain ⟨opened, opens, nests, loops⟩ := onCourse
  intro fails
  cases fails with
  | pop here empty =>
    obtain ⟨next, -, reads⟩ := balanced.read here opens
    obtain rfl := Bracket.close_eq_some.mp reads
    simp [empty] at nests
  | unclosed behind within =>
    obtain rfl : [] = opened := Option.some.inj ((balanced.openAt_end behind).symm.trans opens)
    exact within (List.length_eq_zero_iff.mp nests)
  | beginLoop here lost =>
    obtain ⟨next, opens', reads⟩ := balanced.read here opens
    obtain rfl : .loop _ :: opened = next := by simpa [Bracket.read] using reads
    obtain ⟨target, inner, found, -⟩ := Bracket.exists_findForward balanced opens'
    exact absurd (found.symm.trans lost) (by simp)
  | endLoop here other =>
    obtain ⟨next, -, reads⟩ := balanced.read here opens
    obtain rfl := Bracket.close_eq_some.mp reads
    rw [around_eq_loops here (by simp)] at loops
    cases within : t.loops with
    | nil => simp [within] at loops
    | cons entry outer =>
      simp only [within, List.map_cons, Bracket.loopIds_loop, List.cons.injEq] at loops
      exact other entry (by simp [within]) loops.1
  | loopBack here within lost =>
    obtain ⟨next, -, reads⟩ := balanced.read here opens
    obtain rfl := Bracket.close_eq_some.mp reads
    obtain ⟨target, opened', inner, found, -, -⟩ := Bracket.exists_findBackward opens
    exact absurd (found.symm.trans lost) (by simp)
  | beginCondition here lost =>
    obtain ⟨next, opens', reads⟩ := balanced.read here opens
    obtain rfl : .body _ :: opened = next := by simpa [Bracket.read] using reads
    obtain ⟨target, inner, found, -⟩ := Bracket.exists_findForward balanced opens'
    exact absurd (found.symm.trans lost) (by simp)
  | elseCondition here lost =>
    obtain ⟨next, opens', reads⟩ := balanced.read here opens
    obtain ⟨outer, closed, rfl⟩ := Option.map_eq_some_iff.mp reads
    obtain ⟨target, inner, found, -⟩ := Bracket.exists_findForward balanced opens'
    exact absurd (found.symm.trans lost) (by simp)

end Traversal

/-! ## Runs -/

/-- Whether no run of a program ends with a fault. -/
def Program.NeverBreaks (program : Program γ) : Prop :=
  ∀ (config : Config) (siblings : List Node) (collector : γ) (count : Nat) (fault : Fault)
    (run : Run γ),
    (Run.start program siblings collector).advance config program count ≠ .broken fault run

namespace Run

open Traversal

variable {config : Config} {program : Program γ} {siblings : List Node} {collector : γ}
  {count : Nat} {run : Run γ}

/-- With a limit for loops, a run that is late breaks in the end. -/
theorem breaks_of_late (balanced : Bracket.Balanced program.commands) {most : Nat}
    (limited : config.maxLoopIterations = some most)
    (running : (start program siblings collector).advance config program count = .running run)
    (late : Late program.commands run.traversal) : ¬program.NeverBreaks := by
  intro never
  obtain ⟨bound, bounded⟩ := exists_bound program siblings collector limited
  have onward : (start program siblings collector).advance config program (count + (bound + 1)) =
      run.advance config program (bound + 1) := advance_of_running running
  cases reached : run.advance config program (bound + 1) with
  | running run' =>
    have le := bounded _ run' (onward.trans reached)
    omega
  | broken fault run' => exact never config siblings collector _ fault run' (onward.trans reached)
  | finished run' =>
    obtain ⟨before, last, running', -, finishes⟩ := advance_ended reached (by simp)
    have late' : Late program.commands last.traversal :=
      advance_keeps (fun run => Late program.commands run.traversal)
        (fun _ _ late stepped => late.move balanced (move_of_step (traversal_step stepped)))
        late running'
    have behind := (finished_of_step (traversal_finished finishes)).2.1
    exact absurd behind (late'.not_behind balanced)

/-- The runs of a balanced program that never breaks stay on course. A run that did not could be
repeated with a limit for loops, and would break. -/
theorem onCourse_of_neverBreaks (balanced : Bracket.Balanced program.commands)
    (never : program.NeverBreaks)
    (running : (start program siblings collector).advance config program count = .running run) :
    OnCourse program.commands run.traversal := by
  induction count generalizing run with
  | zero =>
    obtain rfl : start program siblings collector = run := by simpa [advance] using running
    exact onCourse_start siblings
  | succ count ih =>
    obtain ⟨before, reached, stepped⟩ := advance_succ_running running
    have move := move_of_step (traversal_step stepped)
    rcases (ih reached).move balanced move with onCourse | late
    · exact onCourse
    · cases limit : config.maxLoopIterations with
      | some most => exact absurd never (breaks_of_late balanced limit running late)
      | none =>
        -- Without a limit the late run need not end, so it is run again with one that it has not
        -- reached.
        have limited : (Config.mk config.debugMode (some (count + 2))
            config.dumpNodesOnMiss).maxLoopIterations = some (count + 2) := rfl
        obtain ⟨run', running', same⟩ :=
          advance_limited limit limited (Nat.lt_succ_self _) running
        rw [← same] at late
        exact absurd never (breaks_of_late balanced limited running' late)

/-- A balanced program of which all runs stay on course never breaks. -/
theorem neverBreaks_of_onCourse (balanced : Bracket.Balanced program.commands)
    (onCourse : ∀ (config : Config) siblings collector count run,
      (start program siblings collector).advance config program count = .running run →
        OnCourse program.commands run.traversal) : program.NeverBreaks := by
  intro config siblings collector count fault run broken
  obtain ⟨before, last, running, -, breaks⟩ := advance_ended broken (by simp)
  have fails := fails_of_step (traversal_broken breaks)
  exact (onCourse config siblings collector before last running).not_fails balanced fails

/-- Calls of which no loop and no condition has the number of one around it never break. -/
theorem neverBreaks_of_apart {calls : List (Call Nat γ)}
    (laid_out : program.commands = Call.commandsOf calls)
    (apart : Call.ApartAll [] [] calls) : program.NeverBreaks := by
  intro config siblings collector count fault run broken
  have does : Does config program [] (Call.commandsOf calls)
      (Call.evalAll config.maxLoopIterations calls) := Call.does_evalAll [] [] calls apart
  rw [← laid_out] at does
  obtain ⟨end_count, run', finished, -, -⟩ := does.finishes siblings collector
  rcases Nat.le_total count end_count with le | le
  · have clash := (advance_of_ended broken (by simp) le).symm.trans finished
    simp at clash
  · have clash := (advance_of_ended finished (by simp) le).symm.trans broken
    simp at clash

end Run

/-- A program whose closures add to the builders that they are given never breaks. -/
theorem Call.neverBreaks_of_built {name : Option String} {calls : List (Call Unit γ)}
    {program : Program γ} (built : (addAllTo calls (.root name)).build = .ok program) :
    program.NeverBreaks :=
  Run.neverBreaks_of_apart (commands_of_built built) (apart_numberedAll_zero calls)

/-- Whatever builders the closures of a program return, it never breaks exactly if its runs have
entered, at every instruction, the scopes and loops that its text opens there. That is so if no
loop and no condition has the number of one around it. -/
theorem Builder.Made.neverBreaks_iff {b : Builder γ} (made : b.Made) {program : Program γ}
    (built : b.build = .ok program) :
    (program.NeverBreaks ↔
      ∀ (config : Config) siblings collector count run,
        (Run.start program siblings collector).advance config program count = .running run →
          run.traversal.OnCourse program.commands) ∧
      ∃ calls : List (Call Nat γ), program.commands = Call.commandsOf calls ∧
        (Call.ApartAll [] [] calls → program.NeverBreaks) := by
  obtain ⟨calls, laid_out⟩ := made.exists_calls
  rw [← build_commands built] at laid_out
  have balanced : Bracket.Balanced program.commands := by
    rw [laid_out]
    exact Call.balanced_commandsOf calls
  refine ⟨⟨?_, Run.neverBreaks_of_onCourse balanced⟩, calls, laid_out,
    Run.neverBreaks_of_apart laid_out⟩
  intro never config siblings collector count run running
  exact Run.onCourse_of_neverBreaks balanced never running

/-- A loop whose body is a loop built on its own. -/
theorem Builder.Made.neverBreaks_iff_stray_loop :
    let b : Builder Unit :=
      (root none).loopAll fun _ => (root none).loopAll fun inner => inner.tag "p" [.any]
    b.Made ∧ ∃ program, b.build = .ok program ∧
      (program.NeverBreaks ↔
        ∀ (config : Config) siblings collector count run,
          (Run.start program siblings collector).advance config program count = .running run →
            run.traversal.OnCourse program.commands) ∧
        ∃ calls : List (Call Nat Unit), program.commands = Call.commandsOf calls ∧
          (Call.ApartAll [] [] calls → program.NeverBreaks) := by
  intro b
  have made : b.Made :=
    .loopWhile [.any] _ (.startAt none 0)
      (.loopWhile [.any] _ (.startAt none 0) (.step (.plain "p" [.any]) (.startAt none 1)))
  exact ⟨made, _, rfl, made.neverBreaks_iff rfl⟩

/-- Both loops have the number 0. The inner one is taken for the outer one, and leaving it leaves
the end of the outer one without a loop to end. -/
theorem Builder.stray_loop_breaks :
    let b : Builder Unit :=
      (root none).loopAll fun _ => (root none).loopAll fun inner => inner.tag "p" [.any]
    b.Made ∧ ∃ program, b.build = .ok program ∧ ¬program.NeverBreaks := by
  intro b
  have made : b.Made :=
    .loopWhile [.any] _ (.startAt none 0)
      (.loopWhile [.any] _ (.startAt none 0) (.step (.plain "p" [.any]) (.startAt none 1)))
  refine ⟨made, _, rfl, ?_⟩
  intro never
  exact never .default [.element "p" .empty [.text "1"]] () 6 (.noCounterpart .endLoop 0 4) _ rfl

end Gleaner
