import Gleaner.Proofs.Machine.Alike
import Gleaner.Proofs.Markup.Skeleton

/-! # Runs see only what is visible

A program that keeps to what is visible makes of a tree what it makes of the visible skeleton of the
tree. The run over the skeleton is at every instruction where the other is, among the skeletons of
its siblings, and its collector is the same. So trees with one skeleton cannot be told apart. -/

namespace Gleaner

variable {γ : Type}

theorem findFrom_map (f : Node → Node) (test : Node → Bool) (position : Nat) (nodes : List Node) :
    findFrom test position (nodes.map f) =
      (findFrom (test ∘ f) position nodes).map (Prod.map f id) := by
  induction nodes generalizing position with
  | nil => rfl
  | cons node rest ih =>
    simp only [List.map_cons, findFrom, Function.comp_apply, ih]
    split <;> rfl

namespace Frame

/-- A frame among the skeletons of its siblings. -/
def skeleton (f : Frame) : Frame :=
  ⟨f.siblings.map Node.skeleton, f.index, f.matched.map Node.skeleton⟩

theorem nextMeets_skeleton {predicate : List Matchable}
    (given : ∀ matchable ∈ predicate, matchable.isCustom = false) (f : Frame) :
    f.skeleton.nextMeets predicate = f.nextMeets predicate := by
  have next : f.skeleton.next? = f.next?.map Node.skeleton := by
    simp only [next?, skeleton, List.getElem?_map]
  rw [nextMeets, next, nextMeets]
  cases f.next? with
  | none => rfl
  | some node => exact Matchable.allAccept_skeleton given node

theorem find?_skeleton {spec : ElementSpec γ} (keeps : spec.VisibleOnly) (f : Frame) :
    f.skeleton.find? spec = (f.find? spec).map (Prod.map Node.skeleton id) := by
  have blind : spec.accepts ∘ Node.skeleton = spec.accepts := funext keeps.accepts_skeleton
  simp only [find?, skeleton]
  rw [← List.map_drop, findFrom_map, blind]

theorem below_skeleton (f : Frame) : f.skeleton.below = f.below.skeleton := by
  obtain ⟨siblings, index, matched⟩ := f
  cases matched with
  | none => rfl
  | some node => simp [below, skeleton, start]

end Frame

namespace Command

/-- Whether an instruction keeps to what is visible. -/
def VisibleOnly : Command γ → Prop
  | step spec => spec.VisibleOnly
  | stepIf predicate spec =>
    (∀ matchable ∈ predicate, matchable.isCustom = false) ∧ spec.VisibleOnly
  | beginLoop _ predicate | beginCondition _ predicate =>
    ∀ matchable ∈ predicate, matchable.isCustom = false
  | _ => True

theorem effect_taken_skeleton {spec : ElementSpec γ} (keeps : spec.VisibleOnly) (f : Frame)
    (collector : γ) :
    effect.taken f.skeleton spec collector = effect.taken f spec collector := by
  simp only [effect.taken, Frame.find?_skeleton keeps]
  cases f.find? spec with
  | none => rfl
  | some found => exact keeps.collect_skeleton found.1 collector

theorem effect_skeleton {command : Command γ} (keeps : command.VisibleOnly) (f : Frame)
    (collector : γ) : command.effect f.skeleton collector = command.effect f collector := by
  cases command with
  | step spec => exact effect_taken_skeleton keeps f collector
  | stepIf predicate spec =>
    obtain ⟨given, keeps⟩ := keeps
    simp only [effect, Frame.nextMeets_skeleton given]
    split
    · exact effect_taken_skeleton keeps f collector
    · rfl
  | _ => rfl

end Command

namespace Traversal

/-- A position among the skeletons of the siblings, in all scopes. -/
def skeleton (t : Traversal) : Traversal :=
  { t with frame := t.frame.skeleton, saved := t.saved.map Frame.skeleton }

variable {commands : List (Command γ)}

theorem take_skeleton {spec : ElementSpec γ} (keeps : spec.VisibleOnly) (t : Traversal) :
    t.skeleton.take spec = (t.take spec).skeleton := by
  have finds : t.skeleton.frame.find? spec =
      (t.frame.find? spec).map (Prod.map Node.skeleton id) := Frame.find?_skeleton keeps t.frame
  unfold take
  rw [finds]
  cases t.frame.find? spec <;> rfl

theorem skipPast_skeleton (t : Traversal) (commands : List (Command γ)) (test : Command γ → Bool)
    (marker : Marker) (id : Nat) :
    t.skeleton.skipPast commands test marker id =
      (t.skipPast commands test marker id).map skeleton := by
  simp only [skipPast, skeleton]
  cases Command.findForward commands (t.pc + 1) test <;> rfl

theorem beginLoop_skeleton {predicate : List Matchable}
    (given : ∀ matchable ∈ predicate, matchable.isCustom = false) (t : Traversal)
    (limit : Option Nat) (commands : List (Command γ)) (id : Nat) :
    t.skeleton.beginLoop limit commands id predicate =
      (t.beginLoop limit commands id predicate).map skeleton := by
  have meets : t.skeleton.frame.nextMeets predicate = t.frame.nextMeets predicate :=
    Frame.nextMeets_skeleton given t.frame
  have resumed : t.skeleton.resume id = t.resume id := rfl
  simp only [beginLoop, meets, resumed]
  split
  · rfl
  · exact skipPast_skeleton { t with loops := (t.resume id).2 } commands _ .beginLoop id

theorem endLoop_skeleton (t : Traversal) (commands : List (Command γ)) (id : Nat) :
    t.skeleton.endLoop commands id = (t.endLoop commands id).map skeleton := by
  have place : t.skeleton.pc = t.pc := rfl
  have cursor : t.skeleton.frame.index = t.frame.index := rfl
  have loops : t.skeleton.loops = t.loops := rfl
  simp only [endLoop, place, cursor, loops]
  cases t.loops with
  | nil => rfl
  | cons entry around =>
    dsimp only
    split
    · rfl
    split
    · rfl
    · cases Command.findBackward commands t.pc (Command.isBeginLoop id) <;> rfl

/-- What an instruction makes of a position goes for its skeleton. -/
theorem execute_skeleton {command : Command γ} (keeps : command.VisibleOnly) (t : Traversal)
    (limit : Option Nat) (commands : List (Command γ)) :
    t.skeleton.execute limit commands command =
      (t.execute limit commands command).map skeleton := by
  cases command with
  | step spec =>
    simp only [execute, take_skeleton keeps]
    rfl
  | stepIf predicate spec =>
    obtain ⟨given, keeps⟩ := keeps
    have meets : t.skeleton.frame.nextMeets predicate = t.frame.nextMeets predicate :=
      Frame.nextMeets_skeleton given t.frame
    simp only [execute, meets, take_skeleton keeps]
    split <;> rfl
  | push name =>
    have deeper : t.skeleton.frame.below = t.frame.below.skeleton := Frame.below_skeleton t.frame
    simp only [execute, enter, deeper]
    rfl
  | pop =>
    simp only [execute, skeleton]
    cases t.saved <;> rfl
  | beginLoop id predicate => exact beginLoop_skeleton keeps t limit commands id
  | endLoop id => exact endLoop_skeleton t commands id
  | beginCondition id predicate =>
    have meets : t.skeleton.frame.nextMeets predicate = t.frame.nextMeets predicate :=
      Frame.nextMeets_skeleton keeps t.frame
    simp only [execute, meets]
    split
    · rfl
    · exact skipPast_skeleton t.forget commands _ .beginCondition id
  | elseCondition id => exact skipPast_skeleton t commands _ .elseCondition id
  | endCondition _ | peek _ | breakpoint => rfl

end Traversal

/-- An outcome among the skeletons of the siblings. -/
def Outcome.skeleton : Outcome → Outcome
  | running t => running t.skeleton
  | finished t => finished t.skeleton
  | broken fault t => broken fault t.skeleton

theorem Traversal.step_skeleton {commands : List (Command γ)}
    (keeps : ∀ command ∈ commands, command.VisibleOnly) (t : Traversal) (limit : Option Nat) :
    t.skeleton.step limit commands = (t.step limit commands).skeleton := by
  have place : t.skeleton.pc = t.pc := rfl
  simp only [step, place]
  cases here : commands[t.pc]? with
  | none =>
    have nested : t.skeleton.saved.isEmpty = t.saved.isEmpty := by simp [skeleton]
    have depth : t.skeleton.saved.length = t.saved.length := by simp [skeleton]
    simp only [nested, depth]
    split <;> rfl
  | some command =>
    have member : command ∈ commands := List.mem_of_getElem? here
    have executed := execute_skeleton (keeps command member) t.countCommand limit commands
    have counted : t.skeleton.countCommand = t.countCommand.skeleton := rfl
    simp only [counted, executed]
    cases t.countCommand.execute limit commands command <;> rfl

namespace Run

variable {config : Config} {program : Program γ}

/-- Positions with one skeleton, and equal collectors, lead to such. -/
theorem step_alike_of_skeleton (keeps : ∀ command ∈ program.commands, command.VisibleOnly)
    {run run' : Run γ} (place : run'.traversal.skeleton = run.traversal.skeleton)
    (collected : run'.collector = run.collector) :
    (run.step config program).Alike id
      (fun run run' => run'.traversal.skeleton = run.traversal.skeleton ∧
        run'.collector = run.collector)
      (run'.step config program) := by
  have pc : run'.traversal.pc = run.traversal.pc := by
    simpa only [Traversal.skeleton] using congrArg Traversal.pc place
  have frame : run'.traversal.frame.skeleton = run.traversal.frame.skeleton := by
    simpa only [Traversal.skeleton] using congrArg Traversal.frame place
  have outcome : (run'.traversal.step config.maxLoopIterations program.commands).skeleton =
      (run.traversal.step config.maxLoopIterations program.commands).skeleton := by
    rw [← Traversal.step_skeleton keeps, place, Traversal.step_skeleton keeps]
  have effect : ∀ command ∈ program.commands,
      command.effect run'.traversal.frame run'.collector =
        command.effect run.traversal.frame run.collector := by
    intro command member
    have seen := keeps command member
    rw [← Command.effect_skeleton seen, frame, Command.effect_skeleton seen, collected]
  have collector : ((program.commands[run.traversal.pc]?).elim id
      (·.effect run'.traversal.frame)) run'.collector =
        ((program.commands[run.traversal.pc]?).elim id
          (·.effect run.traversal.frame)) run.collector := by
    cases here : program.commands[run.traversal.pc]? with
    | none => exact collected
    | some command => exact effect command (List.mem_of_getElem? here)
  simp only [step, pc]
  generalize run.traversal.step config.maxLoopIterations program.commands = next at outcome
  generalize run'.traversal.step config.maxLoopIterations program.commands = next' at outcome
  cases next <;> cases next' <;>
    simp only [Outcome.skeleton, Outcome.running.injEq, Outcome.finished.injEq,
      Outcome.broken.injEq, reduceCtorEq] at outcome
  case running => exact .running ⟨outcome, collector⟩
  case finished => exact .finished ⟨outcome, collector⟩
  case broken =>
    obtain ⟨rfl, outcome⟩ := outcome
    exact .broken ⟨outcome, collector⟩

/-- A program that keeps to what is visible cannot tell nodes with one skeleton apart: over the
visible children of the one it comes as far as over those of the other, ends with the same fault if
with any, and has the same collector and the same counters all the way. -/
theorem sees_only_skeleton (keeps : ∀ command ∈ program.commands, command.VisibleOnly)
    {node node' : Node} (same : node'.skeleton = node.skeleton) (collector : γ) (count : Nat) :
    ((start program node.children collector).advance config program count).Alike id
      (fun run run' => run'.collector = run.collector ∧
        run'.traversal.stats = run.traversal.stats)
      ((start program node'.children collector).advance config program count) := by
  have children : node'.children.map Node.skeleton = node.children.map Node.skeleton := by
    rw [← Node.children_skeleton, same, Node.children_skeleton]
  have place : (Traversal.start node'.children).skeleton =
      (Traversal.start node.children).skeleton := by
    simp only [Traversal.skeleton, Traversal.start, Frame.skeleton, Frame.start, children]
  have alike : ((start program node.children collector).advance config program count).Alike id
      (fun run run' => run'.traversal.skeleton = run.traversal.skeleton ∧
        run'.collector = run.collector)
      ((start program node'.children collector).advance config program count) := by
    refine advance_alike ?_ ⟨place, rfl⟩ count
    intro run run' related
    exact step_alike_of_skeleton keeps related.1 related.2
  refine alike.mono ?_
  rintro run run' ⟨skeleton, collected⟩
  refine ⟨collected, ?_⟩
  simpa only [Traversal.skeleton] using congrArg Traversal.stats skeleton

/-- A loop with a nest that reads text, over trees with comments, blank text and an instruction at
different places. -/
theorem sees_only_skeleton_nested :
    let program : Program (List String) :=
      ⟨none, [.beginLoop 0 [.tag .noAttributes], .step (.plain "div" [.any]), .push none,
        .step ⟨"p", [.any], [.text], some fun node values l =>
          node.tagName?.toList ++ values.text.toList ++ l⟩, .pop, .endLoop 0]⟩
    let node := Node.root [.comment "c", .element "div" .empty
      [.text " ", .element "p" .empty [.comment "d", .text "a"]], .text "
"]
    let node' := Node.root [.element "div" .empty
      [.element "p" .empty [.text "a", .text ""], .instruction "t" "d"]]
    (∀ command ∈ program.commands, command.VisibleOnly) ∧ node'.skeleton = node.skeleton ∧
      ((start program node.children []).advance .default program 8).Alike id
        (fun run run' => run'.collector = run.collector ∧
          run'.traversal.stats = run.traversal.stats)
        ((start program node'.children []).advance .default program 8) := by
  intro program node node'
  have given : ∀ matchable ∈ [Matchable.any], matchable.isCustom = false := by
    simp [Matchable.isCustom]
  have bare : ∀ matchable ∈ [Matchable.tag .noAttributes], matchable.isCustom = false := by
    simp [Matchable.isCustom]
  have outer : (.plain "div" [.any] : ElementSpec (List String)).VisibleOnly :=
    ⟨given, by simp [ElementSpec.plain], by simp [ElementSpec.plain]⟩
  have inner : ElementSpec.VisibleOnly ⟨"p", [.any], [.text], some fun node values l =>
      node.tagName?.toList ++ values.text.toList ++ l⟩ := by
    refine ⟨given, by simp, ?_⟩
    rintro onMatch ⟨⟩ node node' name - values
    simp only [name]
  have keeps : ∀ command ∈ program.commands, command.VisibleOnly := by
    simp only [program, List.forall_mem_cons]
    exact ⟨bare, outer, trivial, inner, trivial, trivial, List.forall_mem_nil _⟩
  have same : node'.skeleton = node.skeleton := rfl
  exact ⟨keeps, same, sees_only_skeleton keeps same [] 8⟩

end Run

end Gleaner
