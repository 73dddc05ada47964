import Gleaner.Proofs.Machine.Advance
import Gleaner.Proofs.Machine.Hit
import Mathlib.Data.List.Forall2

/-! # Stays among siblings

A run stays in a frame from where it enters the frame to where it leaves it, but for the time that
it spends in the frames below. Loops go back and nests come back in between, and still a stay never
goes backwards: its hits stand one behind the other, each the nearest that there was. So no node is
found twice in one stay. -/

namespace Gleaner

variable {γ : Type}

/-- A stay in a frame: the siblings there, and what steps have found among them, in order. -/
structure Stay (γ : Type) where
  siblings : List Node
  hits : List (Hit γ)

namespace Stay

/-- The stay with a hit more, if there is one. -/
def add (hit? : Option (Hit γ)) (stay : Stay γ) : Stay γ :=
  { stay with hits := stay.hits ++ hit?.toList }

/-- Whether the hits of a stay are siblings one behind the other that have the name and meet all
conditions of their specs, and none was nearer. -/
structure InOrder (stay : Stay γ) : Prop where
  ascending : stay.hits.Pairwise (·.position < ·.position)
  there : ∀ hit ∈ stay.hits, stay.siblings[hit.position]? = some hit.node
  named : ∀ hit ∈ stay.hits,
    ∃ name, hit.node.tagName? = some name ∧ ElementSpec.sameName name hit.spec.tag = true
  meets : ∀ hit ∈ stay.hits, ∀ matchable ∈ hit.spec.matchables, matchable.accepts hit.node = true
  /-- No sibling behind the hits before that one and in front of it meets its spec. -/
  nearest : ∀ before hit after, stay.hits = before ++ hit :: after → ∀ position node,
    (∀ earlier ∈ before, earlier.position < position) → position < hit.position →
      stay.siblings[position]? = some node → hit.spec.accepts node = false

/-- A stay whose hits are in order, and whose frame has the cursor right behind the last of them. -/
structure Kept (stay : Stay γ) (frame : Frame) : Prop where
  siblings : stay.siblings = frame.siblings
  inOrder : stay.InOrder
  reach : ∀ position, frame.index ≤ position ↔ ∀ hit ∈ stay.hits, hit.position < position

theorem kept_start (siblings : List Node) :
    (⟨siblings, []⟩ : Stay γ).Kept (.start siblings) := by
  refine ⟨rfl, ⟨.nil, nofun, nofun, nofun, ?_⟩, ?_⟩
  · intro before hit after split
    simp at split
  · intro position
    simp [Frame.start]

variable {stay : Stay γ} {frame frame' : Frame}

/-- A hit behind the cursor, none nearer, keeps a stay in order. -/
theorem InOrder.append (kept : stay.Kept frame) {hit : Hit γ}
    (nearest : hit.Nearest frame.siblings frame.index) :
    InOrder ⟨stay.siblings, stay.hits ++ [hit]⟩ := by
  obtain ⟨siblings, inOrder, reach⟩ := kept
  have behind : ∀ earlier ∈ stay.hits, earlier.position < hit.position :=
    (reach hit.position).mp nearest.le
  obtain ⟨named, meets⟩ := ElementSpec.accepts_iff.mp nearest.meets
  refine ⟨?_, ?_, ?_, ?_, ?_⟩
  · refine List.pairwise_append.mpr ⟨inOrder.ascending, List.pairwise_singleton .., ?_⟩
    intro earlier member last same
    obtain rfl := List.mem_singleton.mp same
    exact behind earlier member
  · refine List.forall_mem_append.mpr ⟨inOrder.there, List.forall_mem_singleton.mpr ?_⟩
    rw [siblings]
    exact nearest.there
  · exact List.forall_mem_append.mpr ⟨inOrder.named, List.forall_mem_singleton.mpr named⟩
  · exact List.forall_mem_append.mpr ⟨inOrder.meets, List.forall_mem_singleton.mpr meets⟩
  · intro before other after split position node later in_front there
    rcases List.eq_nil_or_concat after with rfl | ⟨middle, last, rfl⟩
    · obtain ⟨rfl, same⟩ := List.append_inj' split rfl
      obtain rfl : hit = other := by simpa using same
      rw [siblings] at there
      exact nearest.passed position node ((reach position).mpr later) in_front there
    · have split' : stay.hits ++ [hit] = (before ++ other :: middle) ++ [last] := by
        simpa using split
      obtain ⟨whole, -⟩ := List.append_inj' split' rfl
      exact inOrder.nearest before other middle whole position node later in_front there

theorem Kept.add (kept : stay.Kept frame) {hit? : Option (Hit γ)}
    (nearest : ∀ hit ∈ hit?, hit.Nearest frame.siblings frame.index)
    (siblings : frame'.siblings = frame.siblings)
    (index : frame'.index = hit?.elim frame.index (·.position + 1)) :
    (stay.add hit?).Kept frame' := by
  cases hit? with
  | none =>
    have same : stay.add none = stay := by simp [Stay.add]
    rw [same]
    refine ⟨kept.siblings.trans siblings.symm, kept.inOrder, ?_⟩
    rw [index]
    exact kept.reach
  | some hit =>
    have found := nearest hit rfl
    refine ⟨kept.siblings.trans siblings.symm, .append kept found, ?_⟩
    intro position
    rw [index]
    constructor
    · intro behind
      have past : frame.index ≤ position := Nat.le_trans found.le (Nat.le_of_succ_le behind)
      exact List.forall_mem_append.mpr
        ⟨(kept.reach position).mp past, List.forall_mem_singleton.mpr behind⟩
    · intro later
      exact later hit (List.mem_append_right _ (List.mem_singleton_self hit))

end Stay

/-- The stays of a run up to some instruction. -/
structure Stays (γ : Type) where
  /-- Those in the frames that have not been left, innermost first. -/
  current : List (Stay γ)
  /-- Those in frames that have been left. -/
  past : List (Stay γ)

namespace Stays

/-- All stays. -/
def all (stays : Stays γ) : List (Stay γ) := stays.current ++ stays.past

/-- How much has been found in all stays. -/
def found (stays : Stays γ) : Nat := (stays.all.flatMap Stay.hits).length

/-- The stays after an instruction: a nest begins one, its end ends one, and what a step finds
belongs to the innermost. -/
def note (frame : Frame) (stays : Stays γ) : Command γ → Stays γ
  | .push _ => ⟨⟨frame.below.siblings, []⟩ :: stays.current, stays.past⟩
  | .pop => ⟨stays.current.drop 1, stays.current.take 1 ++ stays.past⟩
  | command => ⟨stays.current.modifyHead (.add (command.hit? frame)), stays.past⟩

/-- Stays in order that belong to the frames of a state, with all that its steps have found. -/
structure Faithful (stays : Stays γ) (t : Traversal) : Prop where
  current : List.Forall₂ Stay.Kept stays.current (t.frame :: t.saved)
  past : ∀ stay ∈ stays.past, stay.InOrder
  found : stays.found = t.stats.stepsMatched

theorem Faithful.start (siblings : List Node) :
    (⟨[⟨siblings, []⟩], []⟩ : Stays γ).Faithful (.start siblings) :=
  ⟨.cons (Stay.kept_start siblings) .nil, nofun, rfl⟩

variable {stays : Stays γ} {limit : Option Nat} {commands : List (Command γ)}
  {command : Command γ} {t t' : Traversal}

theorem Faithful.inOrder (faithful : stays.Faithful t) : ∀ stay ∈ stays.all, stay.InOrder := by
  refine List.forall_mem_append.mpr ⟨?_, faithful.past⟩
  have current := faithful.current
  generalize stays.current = those, t.frame :: t.saved = frames at current
  induction current with
  | nil => exact nofun
  | cons kept _ ih => exact List.forall_mem_cons.mpr ⟨kept.inOrder, ih⟩

theorem Faithful.siblings (faithful : stays.Faithful t) :
    stays.current.map Stay.siblings = (t.frame :: t.saved).map Frame.siblings := by
  have current := faithful.current
  generalize stays.current = those, t.frame :: t.saved = frames at current
  induction current with
  | nil => rfl
  | cons kept _ ih => rw [List.map_cons, List.map_cons, kept.siblings, ih]

/-- On its level, an instruction adds what it finds to the innermost stay. -/
theorem Faithful.onLevel (faithful : stays.Faithful t) (stands : t.OnLevel command t') :
    Faithful ⟨stays.current.modifyHead (.add (command.hit? t.frame)), stays.past⟩ t' := by
  obtain ⟨current, past, found⟩ := faithful
  obtain ⟨stay, around, kept, outer, split⟩ := List.forall₂_cons_right_iff.mp current
  have nearest : ∀ hit ∈ command.hit? t.frame, hit.Nearest t.frame.siblings t.frame.index := by
    intro hit hits
    exact Command.nearest_of_hit? hits
  refine ⟨?_, past, ?_⟩
  · rw [split, List.modifyHead_cons, stands.saved]
    exact .cons (kept.add nearest stands.siblings stands.index) outer
  · rw [stands.matched, ← found]
    simp only [Stays.found, all, split, List.modifyHead_cons, List.cons_append, List.flatMap_cons,
      Stay.add, List.length_append]
    omega

theorem Faithful.push (faithful : stays.Faithful t) {name : Option String}
    (frame : t'.frame = t.frame.below) (saved : t'.saved = t.frame :: t.saved)
    (stats : t'.stats = t.stats) : (stays.note t.frame (.push name)).Faithful t' := by
  obtain ⟨current, past, found⟩ := faithful
  refine ⟨?_, past, ?_⟩
  · rw [frame, saved]
    exact .cons (Stay.kept_start _) current
  · rw [stats, ← found]
    simp [Stays.found, all, note]

theorem Faithful.pop (faithful : stays.Faithful t) (saved : t.saved = t'.frame :: t'.saved)
    (stats : t'.stats = t.stats) : (stays.note t.frame .pop).Faithful t' := by
  obtain ⟨current, past, found⟩ := faithful
  obtain ⟨stay, around, kept, outer, split⟩ := List.forall₂_cons_right_iff.mp current
  refine ⟨?_, ?_, ?_⟩
  · simpa only [note, split, List.drop_one, List.tail_cons, saved] using outer
  · simpa only [note, split, List.take_succ_cons, List.take_zero, List.singleton_append] using
      List.forall_mem_cons.mpr ⟨kept.inOrder, past⟩
  · rw [stats, ← found]
    simp [Stays.found, all, note, split]
    omega

/-- Every instruction keeps the stays in order. -/
theorem Faithful.execute (faithful : stays.Faithful t)
    (ok : t.execute limit commands command = .ok t') :
    (stays.note t.frame command).Faithful t' := by
  cases command with
  | push name =>
    obtain rfl := Except.ok.inj ok
    exact faithful.push rfl rfl rfl
  | pop =>
    simp only [Traversal.execute] at ok
    split at ok
    · simp at ok
    · rename_i frame saved within
      obtain rfl := Except.ok.inj ok
      exact faithful.pop within rfl
  | step _ | stepIf _ _ | beginLoop _ _ | endLoop _ | beginCondition _ _ | elseCondition _
  | endCondition _ | peek _ | breakpoint =>
    exact faithful.onLevel (Traversal.onLevel_of_execute rfl ok)

end Stays

namespace Traversal

variable {limit : Option Nat} {commands : List (Command γ)} {siblings : List Node}
  {t t' : Traversal} {stays : Stays γ}

/-- The states of a run, each with the stays up to it. -/
inductive Diary (limit : Option Nat) (commands : List (Command γ)) (siblings : List Node) :
    Traversal → Stays γ → Prop where
  | start : Diary limit commands siblings (.start siblings) ⟨[⟨siblings, []⟩], []⟩
  | step {t t' : Traversal} {stays : Stays γ} {command : Command γ}
      (diary : Diary limit commands siblings t stays) (here : commands[t.pc]? = some command)
      (running : t.step limit commands = .running t') :
      Diary limit commands siblings t' (stays.note t.frame command)

theorem Diary.faithful (diary : Diary limit commands siblings t stays) : stays.Faithful t := by
  induction diary with
  | start => exact .start siblings
  | @step t t' stays command diary here running ih =>
    obtain ⟨command', here', ok⟩ := execute_of_step running
    obtain rfl : command = command' := Option.some.inj (here.symm.trans here')
    have counted : stays.Faithful t.countCommand := ⟨ih.current, ih.past, ih.found⟩
    exact counted.execute ok

end Traversal

namespace Run

open Traversal

theorem exists_diary {config : Config} {program : Program γ} {siblings : List Node}
    {collector : γ} {count : Nat} {run : Run γ}
    (running : (start program siblings collector).advance config program count = .running run) :
    ∃ stays, Diary config.maxLoopIterations program.commands siblings run.traversal stays := by
  refine advance_keeps
    (fun run => ∃ stays, Diary config.maxLoopIterations program.commands siblings
      run.traversal stays)
    ?_ ⟨_, .start⟩ running
  rintro run run' ⟨stays, diary⟩ stepped
  have running' := traversal_step stepped
  obtain ⟨command, here, -⟩ := execute_of_step running'
  exact ⟨_, diary.step here running'⟩

/-- What the next instruction finds is kept and handed to the collector. -/
theorem step_of_hit? {config : Config} {program : Program γ} {run : Run γ} {command : Command γ}
    {hit : Hit γ} (here : program.commands[run.traversal.pc]? = some command)
    (found : command.hit? run.traversal.frame = some hit) :
    ∃ next, run.step config program = .running next ∧
      next.traversal.frame.matched = some hit.node ∧
      next.collector = hit.spec.collect hit.node run.collector := by
  have found' : command.hit? run.traversal.countCommand.frame = some hit := found
  obtain ⟨stats, executed⟩ := execute_of_hit? found'
  have effect : command.effect run.traversal.frame run.collector =
      hit.spec.collect hit.node run.collector := by rw [Command.effect_eq, found]
  exact ⟨_, step_of_execute here executed, rfl, effect⟩

/-- Whatever the program, and in every state of a run, the stays up to it hold all that steps have
found: those that have not ended are in the frames of the state, and the hits of each are siblings
of its own frame one behind the other, each the nearest behind the one before that meets its
spec. The node of a hit is the one that the step keeps and hands to the collector. -/
theorem never_goes_backwards {config : Config} {program : Program γ} {siblings : List Node}
    {collector : γ} {count : Nat} {run : Run γ}
    (running : (start program siblings collector).advance config program count = .running run) :
    (∃ stays, Diary config.maxLoopIterations program.commands siblings run.traversal stays) ∧
      (∀ stays, Diary config.maxLoopIterations program.commands siblings run.traversal stays →
        stays.current.map Stay.siblings =
            (run.traversal.frame :: run.traversal.saved).map Frame.siblings ∧
          stays.found = run.traversal.stats.stepsMatched ∧
          ∀ stay ∈ stays.all, stay.InOrder) ∧
      ∀ command hit, program.commands[run.traversal.pc]? = some command →
        command.hit? run.traversal.frame = some hit →
          ∃ next, run.step config program = .running next ∧
            next.traversal.frame.matched = some hit.node ∧
            next.collector = hit.spec.collect hit.node run.collector := by
  refine ⟨exists_diary running, ?_, ?_⟩
  · intro stays diary
    have faithful := diary.faithful
    exact ⟨faithful.siblings, faithful.found, faithful.inOrder⟩
  · intro command hit here found
    exact step_of_hit? here found

/-- In the second iteration of a loop that enters a scope and does not leave it, right before a step
that finds another sibling there. -/
theorem never_goes_backwards_late_pop :
    let program : Program Nat :=
      ⟨none, [.beginLoop 0 [.any], .step (.plain "div" [.any]), .push none,
        .step ⟨"p", [.any], [], some fun _ _ n => n + 1⟩, .endLoop 0, .pop]⟩
    let siblings := [Node.text "a", .element "div" .empty
      [.element "p" .empty [], .element "DIV" .empty [.text "b"]]]
    ∃ run, (start program siblings 0).advance .default program 6 = .running run ∧
      ((∃ stays, Diary none program.commands siblings run.traversal stays) ∧
        (∀ stays, Diary none program.commands siblings run.traversal stays →
          stays.current.map Stay.siblings =
              (run.traversal.frame :: run.traversal.saved).map Frame.siblings ∧
            stays.found = run.traversal.stats.stepsMatched ∧
            ∀ stay ∈ stays.all, stay.InOrder) ∧
        ∀ command hit, program.commands[run.traversal.pc]? = some command →
          command.hit? run.traversal.frame = some hit →
            ∃ next, run.step .default program = .running next ∧
              next.traversal.frame.matched = some hit.node ∧
              next.collector = hit.spec.collect hit.node run.collector) := by
  intro program siblings
  have running : (start program siblings 0).advance .default program 6 = .running _ := rfl
  exact ⟨_, running, never_goes_backwards running⟩

end Run

end Gleaner
