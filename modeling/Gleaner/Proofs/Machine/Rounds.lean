import Gleaner.Proofs.Machine.Balance
import Gleaner.Proofs.Machine.Repetition

/-! # How often a loop repeats its body

A run that stays on course is never late, so that all its loops are settled in their own frames.
A loop that goes into its body again has then used up a sibling in every iteration before. So it
begins its body no more often than there were siblings left when it was entered, and no more often
than the limit allows; a limit that is no less than the width of the tree never comes to bear. -/

namespace Gleaner

variable {γ : Type}

namespace Traversal

variable {limit : Option Nat} {commands : List (Command γ)} {siblings : List Node}
  {t t' : Traversal} {visits : List Visit} {width late : Nat} {text text' : List Bracket}

/-! ## On course -/

theorem OnCourse.even (onCourse : OnCourse commands t) {opened : List Bracket}
    (opens : Bracket.openAt commands t.pc = some opened) :
    (t.resuming commands ++ Bracket.core opened).length = t.saved.length + t.loops.length := by
  obtain ⟨_, opens', nests, loops⟩ := onCourse
  obtain rfl : opened = _ := Option.some.inj (opens.symm.trans opens')
  have around : (t.around commands).length = (Bracket.loopIds opened).length := by
    rw [← loops, List.length_map]
  have entered := length_resuming commands t
  rw [List.length_append, Bracket.length_core, ← nests, ← around]
  omega

/-- A run on course is not late. -/
theorem OnCourse.exists_tended (onCourse : OnCourse commands t)
    (balanced : Bracket.Balanced commands) (narrow : Node.NoWider width siblings)
    (journal : Journal limit commands siblings t visits) :
    ∃ opened, Bracket.openAt commands t.pc = some opened ∧
      Tended width 0 t visits (t.resuming commands ++ Bracket.core opened) := by
  obtain ⟨opened, late, opens, tended⟩ := journal.exists_tended balanced narrow
  have even := onCourse.even opens
  obtain rfl : late = 0 := by
    have entered := tended.even
    omega
  exact ⟨opened, opens, tended⟩

/-- Where the run is not late, a loop that is resumed while there are siblings has been repeated
less often than there were siblings left when it was entered. -/
theorem Tended.iterations_lt (tended : Tended width 0 t visits (t.resuming commands ++ text))
    {entry : LoopEntry} (within : t.loops = entry :: t.around commands)
    (room : t.frame.index < t.frame.siblings.length) :
    ∃ visit rest, visits = visit :: rest ∧ entry.iterations < visit.remaining ∧
      visit.remaining ≤ width := by
  rw [resuming_of_inner within] at tended
  obtain ⟨-, noted, nested⟩ := tended
  rw [within] at noted nested
  obtain ⟨visit, rest, rfl⟩ := List.exists_cons_of_length_eq_add_one noted
  obtain ⟨⟨bounded, spare | ⟨_, same, settled⟩⟩, -⟩ := nested
  · simp [allowance] at spare
  · obtain rfl := Option.some.inj same
    have before := settled.start_le
    have le := settled.iterations_le
    simp only [allowance] at before le
    exact ⟨visit, rest, rfl, by omega, bounded⟩

/-! ## Counting -/

/-- A state of which no loop has begun its body too often. -/
structure Counted (limit : Option Nat) (commands : List (Command γ)) (t : Traversal)
    (visits : List Visit) : Prop where
  bounded : ∀ visit ∈ visits, visit.Within limit
  rounds_le : ∀ row ∈ t.loops.zip visits, row.2.rounds ≤ row.1.iterations + 1
  /-- A loop that is about to be resumed has completed its body as often as it has begun it. -/
  resumed : ∀ row ∈ (t.loops.zip visits).take (t.resuming commands).length,
    row.2.rounds ≤ row.1.iterations

namespace Counted

theorem start (siblings : List Node) : Counted limit commands (.start siblings) [] := by
  constructor <;> simp [Traversal.start]

theorem of_whole (bounded : ∀ visit ∈ visits, visit.Within limit)
    (rounds_le : ∀ row ∈ t.loops.zip visits, row.2.rounds ≤ row.1.iterations + 1)
    (nothing : t.resuming commands = []) : Counted limit commands t visits :=
  ⟨bounded, rounds_le, by simp [nothing]⟩

theorem same (counted : Counted limit commands t visits) (loops : t'.loops = t.loops)
    (outside : t.goesIn commands t' = false) (nothing : t'.resuming commands = []) :
    Counted limit commands t' (t.note commands t' visits) := by
  rw [note_same (congrArg List.length loops) outside]
  refine .of_whole counted.bounded ?_ nothing
  rw [loops]
  exact counted.rounds_le

/-- Leaving the innermost loop leaves the counts of the others. -/
theorem left (counted : Counted limit commands t visits) {entry : LoopEntry}
    (noted : visits.length = t.loops.length) (within : t.loops = entry :: t'.loops)
    (outside : t.goesIn commands t' = false) (nothing : t'.resuming commands = []) :
    Counted limit commands t' (t.note commands t' visits) := by
  obtain ⟨bounded, rounds_le, -⟩ := counted
  rw [within] at noted rounds_le
  obtain ⟨visit, rest, rfl⟩ := List.exists_cons_of_length_eq_add_one noted
  rw [note_left within outside]
  exact of_whole (List.forall_mem_cons.mp bounded).2 (List.forall_mem_cons.mp rounds_le).2 nothing

theorem begin (counted : Counted limit commands t visits) {id : Nat}
    (room : t.frame.index < t.frame.siblings.length) (allowed : ∀ most ∈ limit, 0 < most)
    (loops : t'.loops = ⟨id, 0, t.frame.index⟩ :: t.loops) (nothing : t'.resuming commands = []) :
    Counted limit commands t' (t.note commands t' visits) := by
  obtain ⟨bounded, rounds_le, -⟩ := counted
  rw [note_entered loops]
  have first : Visit.Within limit ⟨t.frame.remaining, 1⟩ := ⟨Nat.sub_pos_of_lt room, allowed⟩
  refine of_whole (List.forall_mem_cons.mpr ⟨first, bounded⟩) ?_ nothing
  rw [loops]
  exact List.forall_mem_cons.mpr ⟨Nat.le_refl _, rounds_le⟩

/-- A loop that is resumed begins its body once more than it has completed it. -/
theorem resume {visit : Visit} (counted : Counted limit commands t (visit :: visits))
    {entry : LoopEntry} (within : t.loops = entry :: t.around commands)
    (room : entry.iterations < visit.remaining)
    (allowed : ∀ most ∈ limit, entry.iterations < most) (loops : t'.loops = t.loops)
    (inside : t.goesIn commands t' = true) (nothing : t'.resuming commands = []) :
    Counted limit commands t' (t.note commands t' (visit :: visits)) := by
  obtain ⟨bounded, rounds_le, resumed⟩ := counted
  rw [resuming_of_inner within, within] at resumed
  rw [within] at rounds_le
  have completed : visit.rounds ≤ entry.iterations := by simpa using resumed
  rw [note_again loops inside]
  refine of_whole (List.forall_mem_cons.mpr ⟨⟨?_, ?_⟩, ?_⟩) ?_ nothing
  · exact Nat.succ_le_of_lt (Nat.lt_of_le_of_lt completed room)
  · exact fun most member => Nat.succ_le_of_lt (Nat.lt_of_le_of_lt completed (allowed most member))
  · exact (List.forall_mem_cons.mp bounded).2
  · rw [loops, within]
    refine List.forall_mem_cons.mpr ⟨?_, (List.forall_mem_cons.mp rounds_le).2⟩
    exact Nat.succ_le_succ completed

/-- A loop that is gone back to has completed its body once more. -/
theorem gone_back (counted : Counted limit commands t visits) {entry : LoopEntry} {start : Nat}
    (noted : visits.length = t.loops.length) (within : t.loops = entry :: t'.around commands)
    (loops : t'.loops =
      { entry with iterations := entry.iterations + 1, start := start } :: t'.around commands)
    (outside : t.goesIn commands t' = false) :
    Counted limit commands t' (t.note commands t' visits) := by
  have same : t'.loops.length = t.loops.length := by rw [loops, within]; rfl
  obtain ⟨bounded, rounds_le, -⟩ := counted
  rw [within] at noted rounds_le
  obtain ⟨visit, rest, rfl⟩ := List.exists_cons_of_length_eq_add_one noted
  obtain ⟨first, others⟩ := List.forall_mem_cons.mp rounds_le
  rw [note_same same outside]
  refine ⟨bounded, ?_, ?_⟩
  · rw [loops]
    exact List.forall_mem_cons.mpr ⟨Nat.le_succ_of_le first, others⟩
  · rw [resuming_of_inner loops, loops]
    simpa using first

end Counted

theorem lt_of_unspent {entry : LoopEntry} (unspent : entry.isSpent limit = false) :
    ∀ most ∈ limit, entry.iterations < most := by
  rintro most rfl
  simpa [LoopEntry.isSpent] using unspent

/-- On course, no loop is about to be resumed where no more has been entered than is opened by the
text. -/
theorem resuming_eq_nil
    (before : (t.resuming commands ++ text).length = t.saved.length + t.loops.length)
    (behind : (t'.resuming commands ++ text').length = t'.saved.length + t'.loops.length)
    (le : t'.saved.length + t'.loops.length + text.length ≤
      t.saved.length + (t.around commands).length + text'.length) :
    t'.resuming commands = [] := by
  have entered := length_resuming commands t
  rw [List.length_append] at before behind
  exact List.length_eq_zero_iff.mp (by omega)

/-- One instruction of a run that stays on course. -/
theorem Turn.counted (turn : Turn limit commands t t' text text')
    (tended : Tended width 0 t visits (t.resuming commands ++ text))
    (behind : (t'.resuming commands ++ text').length = t'.saved.length + t'.loops.length)
    (counted : Counted limit commands t visits) :
    Counted limit commands t' (t.note commands t' visits) := by
  have noted := tended.noted
  -- Only going back leads to a loop that is resumed.
  have nothing := resuming_eq_nil tended.even behind
  cases turn with
  | onward deeper looked scopes loops outside =>
    replace nothing := nothing (by rw [scopes, loops, List.length_append]; omega)
    rcases t.around_cases commands with whole | ⟨entry, inner⟩
    · exact counted.same (loops.trans whole) outside nothing
    · rw [← loops] at inner
      exact counted.left noted inner outside nothing
  | enter frame scopes loops whole outside =>
    replace nothing := nothing
      (by rw [scopes, loops, whole, List.length_cons, List.length_cons]; omega)
    exact counted.same loops outside nothing
  | leave scopes loops whole outside =>
    replace nothing := nothing
      (by rw [scopes, loops, whole, List.length_cons, List.length_cons]; omega)
    exact counted.same loops outside nothing
  | begin resumed unspent room frame scopes loops inside =>
    replace nothing := nothing (by rw [scopes, loops, List.length_cons, List.length_cons]; omega)
    have allowed := lt_of_unspent unspent
    rcases resume_cases resumed with ⟨rfl, whole, -⟩ | ⟨inner, -⟩
    · rw [whole] at loops
      exact counted.begin room allowed loops nothing
    · obtain ⟨visit, rest, rfl, fewer, -⟩ := tended.iterations_lt inner room
      exact counted.resume inner fewer allowed (loops.trans inner.symm) inside nothing
  | finish inner whole frame scopes outside =>
    replace nothing := nothing
      (by rw [scopes, whole, inner, List.length_cons, List.length_cons]; omega)
    exact counted.left noted inner outside nothing
  | again deeper inner whole moved frame scopes loops outside =>
    exact counted.gone_back noted inner loops outside

/-! ## Runs -/

namespace Journal

theorem onCourse {config : Config} {program : Program γ}
    (balanced : Bracket.Balanced program.commands) (never : program.NeverBreaks) (collector : γ)
    (journal : Journal config.maxLoopIterations program.commands siblings t visits) :
    OnCourse program.commands t := by
  obtain ⟨count, run, running, rfl⟩ := journal.exists_run collector
  exact Run.onCourse_of_neverBreaks balanced never running

/-- If a run stays on course, no loop begins its body too often. -/
theorem counted (balanced : Bracket.Balanced commands)
    (stays : ∀ t visits, Journal limit commands siblings t visits → OnCourse commands t)
    (journal : Journal limit commands siblings t visits) : Counted limit commands t visits := by
  obtain ⟨width, narrow⟩ := Node.NoWider.exists_of_finite siblings
  induction journal with
  | start => exact .start siblings
  | @step t t' visits journal running ih =>
    obtain ⟨opened, opens, tended⟩ :=
      (stays t visits journal).exists_tended balanced narrow journal
    obtain ⟨opened', opens', turn⟩ := (move_of_step running).turn balanced opens
    exact turn.counted tended ((stays t' _ (journal.step running)).even opens') ih

/-- On course, a limit that is no less than the width of the tree makes no difference. -/
theorem step_narrow {most : Nat} (journal : Journal limit commands siblings t visits)
    (balanced : Bracket.Balanced commands) (onCourse : OnCourse commands t)
    (narrow : Node.NoWider most siblings) : t.step (some most) commands = t.step none commands := by
  obtain ⟨places, trail⟩ := journal.exists_trail
  obtain ⟨opened, opens, tended⟩ := onCourse.exists_tended balanced narrow journal
  refine step_limited fun id predicate here meets => ?_
  have room := Frame.index_lt_of_nextMeets meets
  cases resumed : t.resume id with
  | mk entry around =>
    rcases resume_cases resumed with ⟨rfl, -, -⟩ | ⟨within, -⟩
    · have le := (trail.stacked.noWider narrow).1
      exact Nat.lt_of_lt_of_le (Nat.zero_lt_of_lt room) le
    · rw [← around_of_resume here resumed] at within
      obtain ⟨visit, rest, -, fewer, le⟩ := tended.iterations_lt within room
      exact Nat.lt_of_lt_of_le fewer le

end Journal

end Traversal

namespace Call

open Traversal

/-- In a program whose closures add to the builders that they are given, a loop begins its body no
more often than there were siblings left when it was entered, and no more often than the limit
allows. If the tree is no wider than a limit, the runs with that limit are those without one: they
come equally far step by step, and finish. -/
theorem built_rounds_le {name : Option String} {calls : List (Call Unit γ)} {program : Program γ}
    (built : (addAllTo calls (.root name)).build = .ok program) (config : Config)
    (siblings : List Node) (collector : γ) :
    (∀ count run,
      (Run.start program siblings collector).advance config program count = .running run →
        (∃ visits, Journal config.maxLoopIterations program.commands siblings run.traversal
          visits) ∧
        ∀ visits, Journal config.maxLoopIterations program.commands siblings run.traversal
          visits → ∀ visit ∈ visits, visit.Within config.maxLoopIterations) ∧
      ∀ most, Node.NoWider most siblings →
        let limited : Config := { config with maxLoopIterations := some most }
        let unlimited : Config := { config with maxLoopIterations := none }
        (∀ count, ((Run.start program siblings collector).advance limited program
            count).unlogged =
          ((Run.start program siblings collector).advance unlimited program count).unlogged) ∧
        ∃ count run, (Run.start program siblings collector).advance unlimited program count =
          .finished run := by
  have balanced := balanced_of_built built
  have never := neverBreaks_of_built built
  refine ⟨fun count run running => ⟨Run.exists_journal running, ?_⟩, ?_⟩
  · intro visits journal
    have counted := journal.counted balanced
      fun t visits journal => Journal.onCourse balanced never collector journal
    exact counted.bounded
  · intro most narrow limited unlimited
    refine ⟨fun count => Run.advance_agrees rfl rfl fun n _ on_way running => ?_, ?_⟩
    · obtain ⟨visits, journal⟩ := Run.exists_journal running
      have onCourse := Run.onCourse_of_neverBreaks balanced never running
      exact journal.step_narrow balanced onCourse narrow
    · obtain ⟨count, run, finished, -, -⟩ := built_runs_as_eval unlimited built siblings collector
      exact ⟨count, run, finished⟩

/-- A loop in a nest in a loop, as wide as the limit. -/
theorem built_rounds_le_nested_loops :
    let calls : List (Call Unit Nat) :=
      [.loop () [.any] [.step (.plain "div" [.any]),
        .nest none [.loop () [.any] [.step (.plain "p" [.any]), .peek (· + 1)]]]]
    let program : Program Nat := ⟨none, commandsOf (numberedAll 0 calls)⟩
    let siblings := [Node.element "div" .empty [.element "p" .empty [], .element "p" .empty []],
      .text "a"]
    (addAllTo calls (.root none)).build = .ok program ∧ Node.NoWider 2 siblings ∧
      (∃ run, (Run.start program siblings 0).advance ⟨false, some 2, false⟩ program 8 =
          .running run ∧
        (∃ visits, Journal (some 2) program.commands siblings run.traversal visits) ∧
        ∀ visits, Journal (some 2) program.commands siblings run.traversal visits →
          ∀ visit ∈ visits, visit.Within (some 2)) ∧
      (∀ count, ((Run.start program siblings 0).advance ⟨false, some 2, false⟩ program
          count).unlogged =
        ((Run.start program siblings 0).advance ⟨false, none, false⟩ program count).unlogged) ∧
      ∃ count run, (Run.start program siblings 0).advance ⟨false, none, false⟩ program count =
        .finished run := by
  intro calls program siblings
  have built : (addAllTo calls (.root none)).build = .ok program := rfl
  have narrow : Node.NoWider 2 siblings := ⟨by decide, by decide⟩
  obtain ⟨rounds, agree⟩ := built_rounds_le built ⟨false, some 2, false⟩ siblings 0
  obtain ⟨same, finishes⟩ := agree 2 narrow
  have running : (Run.start program siblings 0).advance ⟨false, some 2, false⟩ program 8 =
    .running _ := rfl
  exact ⟨built, narrow, ⟨_, running, rounds 8 _ running⟩, same, finishes⟩

end Call

end Gleaner
