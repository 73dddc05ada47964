import Gleaner.Proofs.Machine.Ceiling
import Gleaner.Proofs.Machine.Visit
import Gleaner.Proofs.Markup.Breadth
import Gleaner.Proofs.Program.Compile

/-! # Balanced programs end without a limit

An iteration after which a loop goes on has moved the cursor; but where numbers are used twice, a
loop may be left and gone back to in frames that are not its own. What helps is that a run that
has come to be late stays late: a loop can meet a foreign frame only after the run has become
later than it was, and that happens no more often than the text opens nests and loops. As long as
the run does not become later, all goes by the text, and the cursor of a loop only moves on.

So there is a bound for how often a loop repeats. A limit above it makes no difference to a run,
and with a limit every run ends. -/

namespace Gleaner

variable {γ : Type}

namespace Frame

theorem Looked.index_le {f f' : Frame} (looked : f.Looked f') : f.index ≤ f'.index := by
  cases looked with
  | stays | missed => exact Nat.le_refl _
  | found le there => exact Nat.le_succ_of_le le

/-- However deep a run goes down, its siblings are no more than the tree is wide. -/
theorem Stacked.noWider {width : Nat} {siblings : List Node} {f : Frame} {saved : List Frame}
    (stacked : f.Stacked siblings saved) (narrow : Node.NoWider width siblings) :
    Node.NoWider width f.siblings := by
  induction saved generalizing f with
  | nil =>
    rw [stacked.2]
    exact narrow
  | cons below saved ih =>
    obtain ⟨-, shows, rest⟩ := stacked
    rw [shows]
    cases matched : below.matched with
    | none => exact ⟨Nat.zero_le _, by simp [Node.descendantsOf]⟩
    | some node =>
      obtain ⟨position, -, there⟩ := rest.sound.found node matched
      exact (ih rest).children (List.mem_of_getElem? there)

end Frame

namespace Traversal

variable {limit : Option Nat} {commands : List (Command γ)} {siblings : List Node}
  {t t' : Traversal} {visits : List Visit} {width late late' : Nat}

/-! ## Loops and the frames in which they stand -/

/-- What holds of each loop that has been entered, with its visit and the frame in which it
stands: the frame that is as many below the present one as the text opens nests inside the
loop. -/
def Nested (Holds : Option Frame → LoopEntry × Visit → Prop) :
    List Bracket → List Frame → List (LoopEntry × Visit) → Prop
  | [], _, rows => ∀ row ∈ rows, Holds none row
  | .nest :: text, frames, rows => Nested Holds text frames.tail rows
  | .loop _ :: text, frames, row :: rows => Holds frames.head? row ∧ Nested Holds text frames rows
  | _ :: text, frames, rows => Nested Holds text frames rows

namespace Nested

variable {Holds : Option Frame → LoopEntry × Visit → Prop} {text : List Bracket}
  {frames : List Frame} {rows : List (LoopEntry × Visit)}

theorem of_forall (all : ∀ row ∈ rows, ∀ frame, Holds frame row) :
    Nested Holds text frames rows := by
  induction text generalizing frames rows with
  | nil => exact fun row member => all row member none
  | cons bracket text ih =>
    cases bracket with
    | loop id =>
      cases rows with
      | nil => exact ih all
      | cons row rows =>
        obtain ⟨first, others⟩ := List.forall_mem_cons.mp all
        exact ⟨first _, ih others⟩
    | _ => exact ih all

theorem exists_holds (nested : Nested Holds text frames rows) :
    ∀ row ∈ rows, ∃ frame, Holds frame row := by
  induction text generalizing frames rows with
  | nil => exact fun row member => ⟨none, nested row member⟩
  | cons bracket text ih =>
    cases bracket with
    | loop id =>
      cases rows with
      | nil => exact ih nested
      | cons row rows => exact List.forall_mem_cons.mpr ⟨⟨_, nested.1⟩, ih nested.2⟩
    | _ => exact ih nested

theorem head_congr {f f' : Frame} {saved : List Frame}
    (nested : Nested Holds text (f :: saved) rows)
    (kept : ∀ row, Holds (some f) row → Holds (some f') row) :
    Nested Holds text (f' :: saved) rows := by
  induction text generalizing rows with
  | nil => exact nested
  | cons bracket text ih =>
    cases bracket with
    | nest => exact nested
    | loop id =>
      cases rows with
      | nil => exact ih nested
      | cons row rows => exact ⟨kept row nested.1, ih nested.2⟩
    | body id | otherwise id => exact ih nested

end Nested

/-- How many iterations a run that is late so often may have made besides those that have used up
a sibling. -/
def allowance (width late : Nat) : Nat := late * (2 * width + 1)

/-- Whether a loop stands in a frame where the cursor has only moved on since the present
iteration began. What it has been repeated and what it can still be is no more than what was left
when it was entered, the allowance aside. -/
structure Settled (width late : Nat) (f : Frame) (row : LoopEntry × Visit) : Prop where
  start_le : row.1.start ≤ f.index
  iterations_le : row.1.iterations + (f.siblings.length - row.1.start) ≤
    row.2.remaining + allowance width late

/-- Whether a loop is settled in a frame, or has not yet used the allowance for the last time that
the run became late. -/
def Standing (width late : Nat) (frame : Option Frame) (row : LoopEntry × Visit) : Prop :=
  row.2.remaining ≤ width ∧
    (row.1.iterations + width < allowance width late ∨
      ∃ f, frame = some f ∧ Settled width late f row)

theorem allowance_succ_le (width : Nat) (later : late < late') :
    allowance width late + (2 * width + 1) ≤ allowance width late' := by
  rw [allowance, ← Nat.succ_mul]
  exact Nat.mul_le_mul_right _ later

namespace Standing

variable {frame frame' : Option Frame} {row : LoopEntry × Visit}

theorem iterations_le (standing : Standing width late frame row) :
    row.1.iterations ≤ width + allowance width late := by
  obtain ⟨narrow, spare | ⟨f, -, settled⟩⟩ := standing
  · omega
  · have le := settled.iterations_le
    omega

/-- When the run becomes later, it does not matter any more where a loop stands. -/
theorem later (standing : Standing width late frame row) (lt : late < late') :
    Standing width late' frame' row := by
  have le := standing.iterations_le
  have more := allowance_succ_le width lt
  exact ⟨standing.1, .inl (by omega)⟩

theorem mono (standing : Standing width late frame row) (le : late ≤ late') :
    Standing width late' frame row := by
  rcases Nat.lt_or_eq_of_le le with lt | rfl
  · exact standing.later lt
  · exact standing

theorem looked {f f' : Frame} (standing : Standing width late (some f) row)
    (looked : f.Looked f') : Standing width late (some f') row := by
  obtain ⟨narrow, spare | ⟨_, same, settled⟩⟩ := standing
  · exact ⟨narrow, .inl spare⟩
  · obtain rfl := Option.some.inj same
    refine ⟨narrow, .inr ⟨f', rfl, Nat.le_trans settled.start_le looked.index_le, ?_⟩⟩
    rw [looked.siblings_eq]
    exact settled.iterations_le

theorem entered {f : Frame} (narrow : f.siblings.length ≤ width) (id rounds : Nat) :
    Standing width late (some f) (⟨id, 0, f.index⟩, ⟨f.remaining, rounds⟩) := by
  refine ⟨?_, .inr ⟨f, rfl, Nat.le_refl _, ?_⟩⟩
  · simp only [Frame.remaining]
    omega
  · simp only [Frame.remaining]
    omega

theorem again {entry : LoopEntry} {visit : Visit}
    (standing : Standing width late frame (entry, visit)) :
    Standing width late frame (entry, visit.again) := by
  obtain ⟨narrow, spare | ⟨f, same, settled⟩⟩ := standing
  · exact ⟨narrow, .inl spare⟩
  · exact ⟨narrow, .inr ⟨f, same, settled.start_le, settled.iterations_le⟩⟩

/-- A loop that is gone back to is settled where it is: the cursor has moved, or else there is
allowance left. -/
theorem gone_back {f : Frame} {entry : LoopEntry} {visit : Visit}
    (standing : Standing width late (some f) (entry, visit)) (moved : f.index ≠ entry.start)
    (within : f.index ≤ f.siblings.length) (narrow : f.siblings.length ≤ width) :
    Standing width late (some f)
      ({ entry with iterations := entry.iterations + 1, start := f.index }, visit) := by
  obtain ⟨bounded, spare | ⟨_, same, settled⟩⟩ := standing
  · refine ⟨bounded, .inr ⟨f, rfl, Nat.le_refl _, ?_⟩⟩
    simp only at spare ⊢
    omega
  · obtain rfl := Option.some.inj same
    have before := settled.start_le
    have le := settled.iterations_le
    refine ⟨bounded, .inr ⟨_, rfl, Nat.le_refl _, ?_⟩⟩
    simp only at before le ⊢
    omega

end Standing

/-- When the run becomes later, it does not matter any more where its loops stand. -/
theorem Nested.later {text text' : List Bracket} {frames frames' : List Frame}
    {rows : List (LoopEntry × Visit)} (nested : Nested (Standing width late) text frames rows)
    (lt : late < late') : Nested (Standing width late') text' frames' rows := by
  refine .of_forall fun row member frame => ?_
  obtain ⟨frame', standing⟩ := nested.exists_holds row member
  exact standing.later lt

/-! ## Throughout a run -/

/-- The loop that is about to be resumed, if there is one: it has been entered, though the text
opens it only behind its beginning. -/
def resuming (commands : List (Command γ)) (t : Traversal) : List Bracket :=
  (t.loops.take (t.loops.length - (t.around commands).length)).map fun entry => .loop entry.id

theorem resuming_of_whole (whole : t.around commands = t.loops) : t.resuming commands = [] := by
  simp [resuming, whole]

theorem resuming_of_inner {entry : LoopEntry} (within : t.loops = entry :: t.around commands) :
    t.resuming commands = [.loop entry.id] := by
  have one : t.loops.length - (t.around commands).length = 1 := by
    rw [within, List.length_cons]
    omega
  rw [resuming, one, within]
  rfl

theorem length_resuming (commands : List (Command γ)) (t : Traversal) :
    (t.resuming commands).length + (t.around commands).length = t.loops.length := by
  rcases t.around_cases commands with whole | ⟨entry, within⟩
  · rw [resuming_of_whole whole, whole]
    exact Nat.zero_add _
  · rw [resuming_of_inner within, within]
    exact Nat.add_comm 1 _

theorem length_resuming_le (commands : List (Command γ)) (t : Traversal) :
    (t.resuming commands).length ≤ 1 := by
  rcases t.around_cases commands with whole | ⟨entry, within⟩
  · rw [resuming_of_whole whole]
    exact Nat.zero_le _
  · rw [resuming_of_inner within]
    exact Nat.le_refl _

/-- A state of a run of a balanced program, with the nests and loops that the text opens there:
how late it is, and that all its loops stand. -/
structure Tended (width late : Nat) (t : Traversal) (visits : List Visit) (text : List Bracket) :
    Prop where
  even : text.length = t.saved.length + t.loops.length + late
  noted : visits.length = t.loops.length
  nested : Nested (Standing width late) text (t.frame :: t.saved) (t.loops.zip visits)

namespace Tended

variable {text text' : List Bracket}

theorem start (width : Nat) (siblings : List Node) :
    Tended width 0 (.start siblings) [] [] :=
  ⟨rfl, rfl, fun _ member => absurd member List.not_mem_nil⟩

/-- A text that is deeper than what the run has entered makes the run later. -/
theorem deepen (tended : Tended width late t visits text)
    (deeper : text' = text ∨ text.length < text'.length) :
    ∃ late', Tended width late' t visits text' := by
  rcases deeper with rfl | lt
  · exact ⟨late, tended⟩
  · have more : text'.length = t.saved.length + t.loops.length +
        (late + (text'.length - text.length)) := by
      rw [← Nat.add_assoc, ← tended.even]
      omega
    exact ⟨_, more, tended.noted, tended.nested.later (by omega)⟩

theorem append (tended : Tended width late t visits text) (inner : List Bracket) :
    ∃ late', Tended width late' t visits (inner ++ text) := by
  refine tended.deepen ?_
  cases inner with
  | nil => exact .inl rfl
  | cons bracket inner =>
    refine .inr ?_
    rw [List.length_append, List.length_cons]
    omega

/-- Looking further among the siblings leaves the loops where they are. -/
theorem looked (tended : Tended width late t visits text) (looked : t.frame.Looked t'.frame)
    (scopes : t'.saved = t.saved) (loops : t'.loops = t.loops) :
    Tended width late t' visits text := by
  obtain ⟨even, noted, nested⟩ := tended
  refine ⟨by rw [even, scopes, loops], by rw [noted, loops], ?_⟩
  rw [scopes, loops]
  exact nested.head_congr fun _ standing => standing.looked looked

/-- Leaving the innermost loop leaves the others where they are. -/
theorem left {id : Nat} {entry : LoopEntry}
    (tended : Tended width late t visits (.loop id :: text)) (looked : t.frame.Looked t'.frame)
    (scopes : t'.saved = t.saved) (within : t.loops = entry :: t'.loops)
    (outside : t.goesIn commands t' = false) :
    Tended width late t' (t.note commands t' visits) text := by
  obtain ⟨even, noted, nested⟩ := tended
  rw [within] at even noted nested
  obtain ⟨visit, rest, rfl⟩ := List.exists_cons_of_length_eq_add_one noted
  rw [note_left within outside]
  refine ⟨?_, Nat.succ.inj noted, ?_⟩
  · simp only [List.length_cons] at even
    rw [scopes]
    omega
  · rw [scopes]
    exact nested.2.head_congr fun _ standing => standing.looked looked

/-- Entering a nest brings another frame, in which no loop stands yet. -/
theorem enter (tended : Tended width late t visits text) (scopes : t'.saved = t.frame :: t.saved)
    (loops : t'.loops = t.loops) : Tended width late t' visits (.nest :: text) := by
  obtain ⟨even, noted, nested⟩ := tended
  refine ⟨?_, by rw [noted, loops], ?_⟩
  · rw [List.length_cons, even, scopes, loops, List.length_cons]
    omega
  · rw [scopes, loops]
    exact nested

theorem leave (tended : Tended width late t visits (.nest :: text))
    (scopes : t.saved = t'.frame :: t'.saved) (loops : t'.loops = t.loops) :
    Tended width late t' visits text := by
  obtain ⟨even, noted, nested⟩ := tended
  rw [scopes, ← loops] at even nested
  refine ⟨?_, by rw [noted, loops], nested⟩
  rw [List.length_cons, List.length_cons] at even
  omega

/-- A loop is settled where it is entered. -/
theorem begin (tended : Tended width late t visits text)
    (narrow : t.frame.siblings.length ≤ width) {id : Nat} (frame : t'.frame = t.frame)
    (scopes : t'.saved = t.saved) (loops : t'.loops = ⟨id, 0, t.frame.index⟩ :: t.loops) :
    Tended width late t' (t.note commands t' visits) (.loop id :: text) := by
  obtain ⟨even, noted, nested⟩ := tended
  rw [note_entered loops]
  refine ⟨?_, ?_, ?_⟩
  · rw [List.length_cons, even, scopes, loops, List.length_cons]
    omega
  · rw [loops, List.length_cons, List.length_cons, noted]
  · rw [frame, scopes, loops]
    exact ⟨Standing.entered narrow id 1, nested⟩

/-- A loop that is resumed stands where it stood. -/
theorem resume {entry : LoopEntry} {outer : List LoopEntry}
    (tended : Tended width late t visits (.loop entry.id :: text)) (frame : t'.frame = t.frame)
    (scopes : t'.saved = t.saved) (within : t.loops = entry :: outer)
    (loops : t'.loops = t.loops) (inside : t.goesIn commands t' = true) :
    Tended width late t' (t.note commands t' visits) (.loop entry.id :: text) := by
  obtain ⟨even, noted, nested⟩ := tended
  rw [note_again loops inside]
  refine ⟨by rw [even, scopes, loops], by rw [List.length_modifyHead, noted, loops], ?_⟩
  rw [frame, scopes, loops]
  rw [within] at noted nested ⊢
  obtain ⟨visit, rest, rfl⟩ := List.exists_cons_of_length_eq_add_one noted
  exact ⟨nested.1.again, nested.2⟩

/-- A loop that is gone back to is settled where it is. -/
theorem gone_back {entry : LoopEntry} {outer : List LoopEntry}
    (tended : Tended width late t visits (.loop entry.id :: text))
    (cursor : t.frame.index ≤ t.frame.siblings.length)
    (narrow : t.frame.siblings.length ≤ width) (moved : t.frame.index ≠ entry.start)
    (frame : t'.frame = t.frame) (scopes : t'.saved = t.saved)
    (within : t.loops = entry :: outer)
    (loops : t'.loops =
      { entry with iterations := entry.iterations + 1, start := t.frame.index } :: outer) :
    Tended width late t' visits (.loop entry.id :: text) := by
  have same : t'.loops.length = t.loops.length := by rw [loops, within]; rfl
  obtain ⟨even, noted, nested⟩ := tended
  refine ⟨by rw [even, scopes, same], by rw [noted, same], ?_⟩
  rw [within] at noted nested
  obtain ⟨visit, rest, rfl⟩ := List.exists_cons_of_length_eq_add_one noted
  obtain ⟨standing, others⟩ := nested
  rw [frame, scopes, loops]
  exact ⟨standing.gone_back moved cursor narrow, others⟩

end Tended

/-- One instruction of a balanced program. -/
theorem Turn.tended {limit : Option Nat} {text text' : List Bracket}
    (turn : Turn limit commands t t' text text')
    (tended : Tended width late t visits (t.resuming commands ++ text))
    (cursor : t.frame.index ≤ t.frame.siblings.length)
    (narrow : t.frame.siblings.length ≤ width) :
    ∃ late', Tended width late' t' (t.note commands t' visits)
      (t'.resuming commands ++ text') := by
  cases turn with
  | onward deeper looked scopes loops outside =>
    rw [← List.append_assoc]
    rcases t.around_cases commands with whole | ⟨entry, inner⟩
    · rw [resuming_of_whole whole] at tended
      rw [whole] at loops
      rw [note_same (congrArg List.length loops) outside]
      exact (tended.looked looked scopes loops).append _
    · rw [resuming_of_inner inner] at tended
      rw [← loops] at inner
      exact (tended.left looked scopes inner outside).append _
  | enter frame scopes loops whole outside =>
    rw [resuming_of_whole whole] at tended
    rw [note_same (congrArg List.length loops) outside]
    exact (tended.enter scopes loops).append _
  | leave scopes loops whole outside =>
    rw [resuming_of_whole whole] at tended
    rw [note_same (congrArg List.length loops) outside]
    exact (tended.leave scopes loops).append _
  | begin resumed unspent room frame scopes loops inside =>
    rcases resume_cases resumed with ⟨rfl, whole, -⟩ | ⟨inner, rfl⟩
    · rw [resuming_of_whole whole] at tended
      rw [whole] at loops
      exact (tended.begin narrow frame scopes loops).append _
    · rw [resuming_of_inner inner] at tended
      have same := loops.trans inner.symm
      exact (tended.resume frame scopes inner same inside).append _
  | finish inner whole frame scopes outside =>
    rw [resuming_of_whole whole] at tended
    have looked : t.frame.Looked t'.frame := by
      rw [frame]
      exact .stays
    exact (tended.left looked scopes inner outside).append _
  | again deeper inner whole moved frame scopes loops outside =>
    have same : t'.loops.length = t.loops.length := by rw [loops, inner]; rfl
    rw [resuming_of_whole whole] at tended
    rw [resuming_of_inner loops, note_same same outside]
    have steady := tended.gone_back cursor narrow moved frame scopes inner loops
    -- What the text opens inside the loop stands between the loop and what is around it.
    refine steady.deepen ?_
    cases deeper with
    | nil => exact .inl rfl
    | cons bracket deeper =>
      refine .inr ?_
      rw [List.length_append, List.length_append, List.length_cons, List.length_cons,
        List.length_cons]
      omega

/-- All states of a run of a balanced program, with what the text opens there. -/
theorem Journal.exists_tended {limit : Option Nat} (balanced : Bracket.Balanced commands)
    (narrow : Node.NoWider width siblings)
    (journal : Journal limit commands siblings t visits) :
    ∃ opened late, Bracket.openAt commands t.pc = some opened ∧
      Tended width late t visits (t.resuming commands ++ Bracket.core opened) := by
  induction journal with
  | start =>
    have inside : around commands (.start siblings) <:+ [] := around_suffix ..
    refine ⟨[], 0, rfl, ?_⟩
    rw [resuming_of_whole (List.suffix_nil.mp inside)]
    exact .start width siblings
  | step journal running ih =>
    obtain ⟨opened, late, opens, tended⟩ := ih
    obtain ⟨places, trail⟩ := journal.exists_trail
    obtain ⟨opened', opens', turn⟩ := (move_of_step running).turn balanced opens
    obtain ⟨late', tended'⟩ :=
      turn.tended tended trail.inRange.cursor (trail.stacked.noWider narrow).1
    exact ⟨opened', late', opens', tended'⟩

/-- How often a loop of a balanced program repeats depends on the length of the program and on
the width of the tree. -/
theorem Journal.iterations_le {limit : Option Nat} (balanced : Bracket.Balanced commands)
    (narrow : Node.NoWider width siblings)
    (journal : Journal limit commands siblings t visits) :
    ∀ entry ∈ t.loops, entry.iterations ≤ width + allowance width (commands.length + 1) := by
  intro entry member
  obtain ⟨opened, late, opens, even, noted, nested⟩ := journal.exists_tended balanced narrow
  have soon : late ≤ commands.length + 1 := by
    have resuming := length_resuming_le commands t
    have kept : (Bracket.core opened).length ≤ opened.length := List.length_filter_le ..
    have opening := Bracket.length_openAt_le opens
    rw [List.length_append] at even
    omega
  rw [← List.map_fst_zip (Nat.le_of_eq noted.symm)] at member
  obtain ⟨row, there, rfl⟩ := List.mem_map.mp member
  obtain ⟨frame, standing⟩ := nested.exists_holds row there
  exact (standing.mono soon).iterations_le

end Traversal

namespace Run

open Traversal

/-- A limit that is great enough makes no difference to the runs of a balanced program. -/
theorem exists_ample_limit {program : Program γ} (balanced : Bracket.Balanced program.commands)
    (siblings : List Node) :
    ∃ most, ∀ (config : Config) (collector : γ) count, config.maxLoopIterations = none →
      ((start program siblings collector).advance
          { config with maxLoopIterations := some most } program count).unlogged =
        ((start program siblings collector).advance config program count).unlogged := by
  obtain ⟨width, narrow⟩ := Node.NoWider.exists_of_finite siblings
  refine ⟨width + allowance width (program.commands.length + 1) + 1, ?_⟩
  intro config collector count unlimited
  refine advance_agrees rfl rfl fun n _ on_way running => ?_
  obtain ⟨visits, journal⟩ := exists_journal running
  rw [unlimited]
  refine step_of_unspent (Nat.succ_pos _) fun entry member => Nat.lt_succ_of_le ?_
  exact journal.iterations_le balanced narrow entry member

/-- Every run of a balanced program ends, with or without a limit. -/
theorem ends_of_balanced {program : Program γ} (balanced : Bracket.Balanced program.commands)
    (config : Config) (siblings : List Node) (collector : γ) :
    ∃ count, ((start program siblings collector).advance config program count).Ended := by
  cases limit : config.maxLoopIterations with
  | some most => exact exists_end program siblings collector limit
  | none =>
    obtain ⟨most, ample⟩ := exists_ample_limit balanced siblings
    have limited : ({ config with maxLoopIterations := some most } : Config).maxLoopIterations =
        some most := rfl
    obtain ⟨count, ended⟩ := exists_end program siblings collector limited
    refine ⟨count, ?_⟩
    rw [← Progress.ended_unlogged, ← ample config collector count limit]
    exact (Progress.ended_unlogged _).mpr ended

end Run

namespace Builder

/-- Whatever builders the closures of a program return, all its runs end, with or without a limit
for loops. -/
theorem Made.every_run_ends {b : Builder γ} (made : b.Made) {program : Program γ}
    (built : b.build = .ok program) (config : Config) (siblings : List Node) (collector : γ) :
    ∃ count, ((Run.start program siblings collector).advance config program count).Ended :=
  Run.ends_of_balanced (made.balanced built) config siblings collector

/-- In a nest inside a loop, there is a loop with the number of that loop. -/
theorem Made.every_run_ends_stray_nest :
    let b : Builder Unit :=
      (root none).loopAll fun _ => ((root none).tag "div" [.any]).nest fun _ =>
        (root none).loopAll fun inner => inner.tag "p" [.any]
    let siblings := [Node.element "div" .empty [.element "p" .empty []], .text "a"]
    b.Made ∧ ∃ program, b.build = .ok program ∧
      ∃ count, ((Run.start program siblings ()).advance .default program count).Ended := by
  intro b siblings
  have made : b.Made :=
    .loopWhile [.any] _ (.startAt none 0)
      (.nestGroup none _ (.step (.plain "div" [.any]) (.startAt none 0))
        (.loopWhile [.any] _ (.startAt none 0)
          (.step (.plain "p" [.any]) (.startAt none 1))))
  exact ⟨made, _, rfl, made.every_run_ends rfl .default siblings ()⟩

end Builder

end Gleaner
