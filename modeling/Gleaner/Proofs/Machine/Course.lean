import Gleaner.Machine.Run
import Gleaner.Proofs.Machine.Search

/-! # The course of a run, step by step

Said once: where an instruction can lead, and how it can fail. Everything that holds throughout
a run is proved from these two inversions, and runs are put together from steps here. -/

namespace Gleaner

variable {γ : Type}

theorem findFrom_eq_some {test : Node → Bool} {start position : Nat} {nodes : List Node}
    {node : Node} (found : findFrom test start nodes = some (node, position)) :
    start ≤ position ∧ nodes[position - start]? = some node ∧ test node = true := by
  induction nodes generalizing start with
  | nil => simp [findFrom] at found
  | cons head rest ih =>
    simp only [findFrom] at found
    split at found
    case isTrue met =>
      obtain ⟨rfl, rfl⟩ : head = node ∧ start = position := by simpa using found
      simp [met]
    case isFalse =>
      obtain ⟨le, there, met⟩ := ih found
      refine ⟨by omega, ?_, met⟩
      rw [show position - start = position - (start + 1) + 1 by omega]
      exact there

namespace Frame

/-- What a step finds is the sibling at the position given, not before the cursor. -/
theorem find?_eq_some {f : Frame} {spec : ElementSpec γ} {node : Node} {position : Nat}
    (found : f.find? spec = some (node, position)) :
    f.index ≤ position ∧ f.siblings[position]? = some node ∧ spec.accepts node = true := by
  obtain ⟨le, there, met⟩ := findFrom_eq_some found
  rw [List.getElem?_drop, Nat.add_sub_cancel' le] at there
  exact ⟨le, there, met⟩

theorem index_lt_of_nextMeets {f : Frame} {predicate : List Matchable}
    (meets : f.nextMeets predicate = true) : f.index < f.siblings.length := by
  obtain ⟨node, there, -⟩ := Option.any_eq_true _ _ |>.mp meets
  exact (List.getElem?_eq_some_iff.mp there).1

/-- The ways in which an instruction that stays among the same siblings changes a frame. -/
inductive Looked (f : Frame) : Frame → Prop where
  | stays : Looked f f
  | missed : Looked f f.missed
  | found {node : Node} {position : Nat} (le : f.index ≤ position)
      (there : f.siblings[position]? = some node) : Looked f (f.found node position)

end Frame

/-- Whether an instruction can go on to the one behind it and leave scopes and loops alone. -/
def Command.isStraight : Command γ → Bool
  | step _ | stepIf _ _ | beginCondition _ _ | endCondition _ | peek _ | breakpoint => true
  | _ => false

namespace Traversal

@[simp] theorem countCommand_pc (t : Traversal) : t.countCommand.pc = t.pc := rfl
@[simp] theorem countCommand_frame (t : Traversal) : t.countCommand.frame = t.frame := rfl
@[simp] theorem countCommand_saved (t : Traversal) : t.countCommand.saved = t.saved := rfl
@[simp] theorem countCommand_loops (t : Traversal) : t.countCommand.loops = t.loops := rfl

theorem take_looked (t : Traversal) (spec : ElementSpec γ) :
    t.frame.Looked (t.take spec).frame := by
  unfold take
  split
  case h_1 node position found =>
    obtain ⟨le, there, -⟩ := Frame.find?_eq_some found
    exact .found le there
  case h_2 => exact .missed

theorem take_eq (t : Traversal) (spec : ElementSpec γ) :
    t.take spec = ⟨t.pc, (t.take spec).frame, t.saved, t.loops, (t.take spec).stats⟩ := by
  unfold take
  split <;> rfl

/-- A loop is entered anew, unless the innermost loop has its number. -/
theorem resume_cases {t : Traversal} {id : Nat} {entry : LoopEntry} {around : List LoopEntry}
    (resumed : t.resume id = (entry, around)) :
    (entry = ⟨id, 0, t.frame.index⟩ ∧ around = t.loops ∧ ∀ top ∈ t.loops.head?, top.id ≠ id) ∨
      (t.loops = entry :: around ∧ entry.id = id) := by
  unfold resume at resumed
  split at resumed
  case h_1 empty =>
    obtain ⟨rfl, rfl⟩ := Prod.mk.inj resumed
    exact .inl ⟨rfl, empty.symm, by simp [empty]⟩
  case h_2 top outside within =>
    split at resumed
    case isTrue same =>
      obtain ⟨rfl, rfl⟩ := Prod.mk.inj resumed
      exact .inr ⟨within, same⟩
    case isFalse other =>
      obtain ⟨rfl, rfl⟩ := Prod.mk.inj resumed
      exact .inl ⟨rfl, within.symm, by simpa [within] using other⟩

/-- Where an instruction leads that is carried out without fault, the counters aside. -/
inductive Move (limit : Option Nat) (commands : List (Command γ)) (t : Traversal) :
    Traversal → Prop where
  | along {command : Command γ} {frame : Frame} {stats : Stats}
      (here : commands[t.pc]? = some command) (straight : command.isStraight = true)
      (looked : t.frame.Looked frame) :
      Move limit commands t ⟨t.pc + 1, frame, t.saved, t.loops, stats⟩
  | enter {name : Option String} {stats : Stats} (here : commands[t.pc]? = some (.push name)) :
      Move limit commands t ⟨t.pc + 1, t.frame.below, t.frame :: t.saved, t.loops, stats⟩
  | leave {frame : Frame} {saved : List Frame} {stats : Stats}
      (here : commands[t.pc]? = some .pop) (within : t.saved = frame :: saved) :
      Move limit commands t ⟨t.pc + 1, frame, saved, t.loops, stats⟩
  | begin {id : Nat} {predicate : List Matchable} {entry : LoopEntry} {around : List LoopEntry}
      {stats : Stats} (here : commands[t.pc]? = some (.beginLoop id predicate))
      (resumed : t.resume id = (entry, around)) (unspent : entry.isSpent limit = false)
      (meets : t.frame.nextMeets predicate = true) :
      Move limit commands t ⟨t.pc + 1, t.frame, t.saved, entry :: around, stats⟩
  | skip {id target : Nat} {predicate : List Matchable} {entry : LoopEntry}
      {around : List LoopEntry} {stats : Stats}
      (here : commands[t.pc]? = some (.beginLoop id predicate))
      (resumed : t.resume id = (entry, around))
      (found : Command.findForward commands (t.pc + 1) (Command.isEndLoop id) = some target) :
      Move limit commands t ⟨target + 1, t.frame, t.saved, around, stats⟩
  | finish {entry : LoopEntry} {around : List LoopEntry} {stats : Stats}
      (here : commands[t.pc]? = some (.endLoop entry.id)) (within : t.loops = entry :: around)
      (idle : t.frame.index = entry.start) :
      Move limit commands t ⟨t.pc + 1, t.frame, t.saved, around, stats⟩
  | again {target : Nat} {entry : LoopEntry} {around : List LoopEntry} {stats : Stats}
      (here : commands[t.pc]? = some (.endLoop entry.id)) (within : t.loops = entry :: around)
      (moved : t.frame.index ≠ entry.start)
      (found : Command.findBackward commands t.pc (Command.isBeginLoop entry.id) =
        some target) :
      Move limit commands t
        ⟨target, t.frame, t.saved,
          { entry with iterations := entry.iterations + 1, start := t.frame.index } :: around,
          stats⟩
  | branch {id target : Nat} {predicate : List Matchable} {stats : Stats}
      (here : commands[t.pc]? = some (.beginCondition id predicate))
      (found : Command.findForward commands (t.pc + 1) (Command.isBranchEnd id) =
        some target) :
      Move limit commands t ⟨target + 1, t.frame.missed, t.saved, t.loops, stats⟩
  | join {id target : Nat} {stats : Stats}
      (here : commands[t.pc]? = some (.elseCondition id))
      (found : Command.findForward commands (t.pc + 1) (Command.isEndCondition id) =
        some target) :
      Move limit commands t ⟨target + 1, t.frame, t.saved, t.loops, stats⟩

/-- How a run can fail where it is. -/
inductive Fails (commands : List (Command γ)) (t : Traversal) : Prop where
  | pop (here : commands[t.pc]? = some .pop) (empty : t.saved = [])
  | unclosed (behind : commands[t.pc]? = none) (within : t.saved ≠ [])
  | beginLoop {id : Nat} {predicate : List Matchable}
      (here : commands[t.pc]? = some (.beginLoop id predicate))
      (lost : Command.findForward commands (t.pc + 1) (Command.isEndLoop id) = none)
  | endLoop {id : Nat} (here : commands[t.pc]? = some (.endLoop id))
      (other : ∀ entry ∈ t.loops.head?, entry.id ≠ id)
  | loopBack {entry : LoopEntry} {around : List LoopEntry}
      (here : commands[t.pc]? = some (.endLoop entry.id)) (within : t.loops = entry :: around)
      (lost : Command.findBackward commands t.pc (Command.isBeginLoop entry.id) = none)
  | beginCondition {id : Nat} {predicate : List Matchable}
      (here : commands[t.pc]? = some (.beginCondition id predicate))
      (lost : Command.findForward commands (t.pc + 1) (Command.isBranchEnd id) = none)
  | elseCondition {id : Nat} (here : commands[t.pc]? = some (.elseCondition id))
      (lost : Command.findForward commands (t.pc + 1) (Command.isEndCondition id) = none)

theorem skipPast_eq_ok {t t' : Traversal} {commands : List (Command γ)}
    {test : Command γ → Bool} {marker : Marker} {id : Nat}
    (ok : t.skipPast commands test marker id = .ok t') :
    ∃ target, Command.findForward commands (t.pc + 1) test = some target ∧
      t' = t.jump (target + 1) := by
  unfold skipPast at ok
  split at ok
  case h_1 target found => exact ⟨target, found, by simpa using ok.symm⟩
  case h_2 => simp at ok

theorem skipPast_of_found {t : Traversal} {commands : List (Command γ)}
    {test : Command γ → Bool} {target : Nat} (marker : Marker) (id : Nat)
    (found : Command.findForward commands (t.pc + 1) test = some target) :
    t.skipPast commands test marker id = .ok (t.jump (target + 1)) := by
  rw [skipPast, found]

theorem skipPast_eq_error {t : Traversal} {commands : List (Command γ)}
    {test : Command γ → Bool} {marker : Marker} {id : Nat} {fault : Fault}
    (error : t.skipPast commands test marker id = .error fault) :
    Command.findForward commands (t.pc + 1) test = none := by
  unfold skipPast at error
  split at error
  case h_1 => simp at error
  case h_2 lost => exact lost

/-- What an instruction can lead to. -/
theorem move_of_execute {t t' : Traversal} {limit : Option Nat} {commands : List (Command γ)}
    {command : Command γ} (here : commands[t.pc]? = some command)
    (ok : t.countCommand.execute limit commands command = .ok t') :
    Move limit commands t t' := by
  cases command with
  | step spec =>
    obtain rfl : (t.countCommand.take spec).advance = t' := by simpa [execute] using ok
    rw [take_eq]
    exact .along here rfl (take_looked t.countCommand spec)
  | stepIf predicate spec =>
    simp only [execute, Except.ok.injEq] at ok
    split at ok
    · subst ok
      rw [take_eq]
      exact .along here rfl (take_looked t.countCommand spec)
    · subst ok
      exact .along here rfl .missed
  | push name =>
    obtain rfl : t.countCommand.enter.advance = t' := by simpa [execute] using ok
    exact .enter here
  | pop =>
    simp only [execute] at ok
    split at ok
    · simp at ok
    · rename_i frame saved within
      obtain rfl : _ = t' := by simpa using ok
      exact .leave here within
  | beginLoop id predicate =>
    simp only [execute, beginLoop] at ok
    split at ok
    · rename_i going
      simp only [Bool.and_eq_true, Bool.not_eq_true'] at going
      obtain rfl : _ = t' := by simpa using ok
      exact .begin here rfl going.1 going.2
    · obtain ⟨target, found, rfl⟩ := skipPast_eq_ok ok
      exact .skip here rfl found
  | endLoop id =>
    simp only [execute, endLoop] at ok
    split at ok
    · simp at ok
    · rename_i entry around within
      split at ok
      · simp at ok
      rename_i same
      obtain rfl : entry.id = id := by simpa using same
      split at ok
      · rename_i idle
        obtain rfl : _ = t' := by simpa using ok
        exact .finish here within idle
      · rename_i moved
        split at ok
        · simp at ok
        · rename_i target found
          obtain rfl : _ = t' := by simpa using ok
          exact .again here within moved found
  | beginCondition id predicate =>
    simp only [execute] at ok
    split at ok
    · obtain rfl : t.countCommand.advance = t' := by simpa using ok
      exact .along here rfl .stays
    · obtain ⟨target, found, rfl⟩ := skipPast_eq_ok ok
      exact .branch here found
  | elseCondition id =>
    obtain ⟨target, found, rfl⟩ := skipPast_eq_ok ok
    exact .join here found
  | endCondition id | peek f | breakpoint =>
    obtain rfl : t.countCommand.advance = t' := by simpa [execute] using ok
    exact .along here rfl .stays

theorem take_commandsExecuted (t : Traversal) (spec : ElementSpec γ) :
    (t.take spec).stats.commandsExecuted = t.stats.commandsExecuted := by
  unfold take
  split <;> rfl

/-- Instructions are counted as they come up, not as they are carried out. -/
theorem commandsExecuted_of_execute {t t' : Traversal} {limit : Option Nat}
    {commands : List (Command γ)} {command : Command γ}
    (ok : t.execute limit commands command = .ok t') :
    t'.stats.commandsExecuted = t.stats.commandsExecuted := by
  cases command with
  | step spec =>
    obtain rfl := Except.ok.inj ok
    exact take_commandsExecuted t spec
  | stepIf predicate spec =>
    obtain rfl := Except.ok.inj ok
    split
    · exact take_commandsExecuted t spec
    · rfl
  | pop =>
    simp only [execute] at ok
    split at ok
    · simp at ok
    · obtain rfl := Except.ok.inj ok
      rfl
  | beginLoop id predicate =>
    simp only [execute, beginLoop] at ok
    split at ok
    · obtain rfl := Except.ok.inj ok
      rfl
    · obtain ⟨target, -, rfl⟩ := skipPast_eq_ok ok
      rfl
  | endLoop id =>
    simp only [execute, endLoop] at ok
    split at ok
    · simp at ok
    split at ok
    · simp at ok
    split at ok
    · obtain rfl := Except.ok.inj ok
      rfl
    split at ok
    · simp at ok
    · obtain rfl := Except.ok.inj ok
      rfl
  | beginCondition id predicate =>
    simp only [execute] at ok
    split at ok
    · obtain rfl := Except.ok.inj ok
      rfl
    · obtain ⟨target, -, rfl⟩ := skipPast_eq_ok ok
      rfl
  | elseCondition id =>
    obtain ⟨target, -, rfl⟩ := skipPast_eq_ok ok
    rfl
  | push _ | endCondition _ | peek _ | breakpoint =>
    obtain rfl := Except.ok.inj ok
    rfl

/-- How an instruction can fail. -/
theorem fails_of_execute {t : Traversal} {limit : Option Nat} {commands : List (Command γ)}
    {command : Command γ} {fault : Fault} (here : commands[t.pc]? = some command)
    (error : t.countCommand.execute limit commands command = .error fault) :
    Fails commands t := by
  cases command with
  | step _ | push _ | endCondition _ | peek _ | breakpoint => simp [execute] at error
  | stepIf _ _ => simp [execute] at error
  | pop =>
    simp only [execute] at error
    split at error
    · exact .pop here ‹_›
    · simp at error
  | beginLoop id predicate =>
    simp only [execute, beginLoop] at error
    split at error
    · simp at error
    · have lost := skipPast_eq_error error
      exact .beginLoop here lost
  | endLoop id =>
    simp only [execute, endLoop] at error
    split at error
    · rename_i empty
      rw [countCommand_loops] at empty
      exact .endLoop here (by simp [empty])
    · rename_i entry around within
      rw [countCommand_loops] at within
      split at error
      · rename_i other
        exact .endLoop here (by simpa [within] using other)
      rename_i same
      obtain rfl : entry.id = id := by simpa using same
      split at error
      · simp at error
      split at error
      · exact .loopBack here within ‹_›
      · simp at error
  | beginCondition id predicate =>
    simp only [execute] at error
    split at error
    · simp at error
    · have lost := skipPast_eq_error error
      exact .beginCondition here lost
  | elseCondition id =>
    have lost := skipPast_eq_error error
    exact .elseCondition here lost

/-- A step that goes on has carried out an instruction. -/
theorem execute_of_step {t t' : Traversal} {limit : Option Nat} {commands : List (Command γ)}
    (running : t.step limit commands = .running t') :
    ∃ command, commands[t.pc]? = some command ∧
      t.countCommand.execute limit commands command = .ok t' := by
  unfold step at running
  split at running
  · rename_i command here
    split at running
    · rename_i next ok
      obtain rfl : next = t' := by simpa using running
      exact ⟨command, here, ok⟩
    · simp at running
  · split at running <;> simp at running

theorem move_of_step {t t' : Traversal} {limit : Option Nat} {commands : List (Command γ)}
    (running : t.step limit commands = .running t') : Move limit commands t t' := by
  obtain ⟨command, here, ok⟩ := execute_of_step running
  exact move_of_execute here ok

theorem fails_of_step {t t' : Traversal} {limit : Option Nat} {commands : List (Command γ)}
    {fault : Fault} (broken : t.step limit commands = .broken fault t') :
    Fails commands t := by
  unfold step at broken
  split at broken
  · rename_i command here
    split at broken
    · simp at broken
    · exact fails_of_execute here ‹_›
  · rename_i behind
    split at broken
    · simp at broken
    · rename_i within
      exact .unclosed behind (by simpa using within)

theorem finished_of_step {t t' : Traversal} {limit : Option Nat} {commands : List (Command γ)}
    (finished : t.step limit commands = .finished t') :
    t' = t ∧ commands[t.pc]? = none ∧ t.saved = [] := by
  unfold step at finished
  split at finished
  · split at finished <;> simp at finished
  · rename_i behind
    split at finished
    · rename_i empty
      obtain rfl : t = t' := by simpa using finished
      exact ⟨rfl, behind, by simpa using empty⟩
    · simp at finished

end Traversal

end Gleaner
