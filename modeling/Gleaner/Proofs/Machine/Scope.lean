import Gleaner.Proofs.Machine.Advance
import Gleaner.Proofs.Program.Call

/-! # What calls mean

A direct reading of a program as it is written, without instructions, numbers or stacks: a nest
runs its body on the children of the node found last and leaves the cursor alone, a loop repeats
its body, a condition chooses one of its bodies. All of it terminates, since an iteration after
which a loop goes on has used up a sibling. -/

namespace Gleaner

/-- What calls read and change: a cursor, the counters and the collector. -/
structure Scope (γ : Type) where
  frame : Frame
  stats : Stats
  collector : γ

namespace Frame

/-- One frame has the siblings of another, and its cursor is not before the other's. -/
def Ahead (f f' : Frame) : Prop := f'.siblings = f.siblings ∧ f.index ≤ f'.index

namespace Ahead

variable {f f' f'' : Frame}

theorem refl (f : Frame) : f.Ahead f := ⟨rfl, Nat.le_refl _⟩

theorem trans (first : f.Ahead f') (second : f'.Ahead f'') : f.Ahead f'' :=
  ⟨second.1.trans first.1, Nat.le_trans first.2 second.2⟩

/-- While there are siblings, fewer remain exactly where the cursor has moved. -/
theorem remaining_lt_iff (ahead : f.Ahead f') (inside : f.index < f.siblings.length) :
    f'.remaining < f.remaining ↔ f'.index ≠ f.index := by
  obtain ⟨same, le⟩ := ahead
  rw [remaining, remaining, same]
  omega

end Ahead

end Frame

namespace Scope

variable {γ : Type}

/-- Counts an instruction. -/
def tick (s : Scope γ) : Scope γ :=
  { s with stats := { s.stats with commandsExecuted := s.stats.commandsExecuted + 1 } }

/-- Counts an iteration. -/
def again (s : Scope γ) : Scope γ :=
  { s with stats := { s.stats with loopIterations := s.stats.loopIterations + 1 } }

/-- Takes the next sibling that meets a spec, or forgets the node found last. -/
def take (spec : ElementSpec γ) (s : Scope γ) : Scope γ :=
  match s.frame.find? spec with
  | some (node, position) =>
    { frame := s.frame.found node position
      stats := { s.stats with stepsMatched := s.stats.stepsMatched + 1 }
      collector := spec.collect node s.collector }
  | none =>
    { s with
      frame := s.frame.missed
      stats := { s.stats with stepsMissed := s.stats.stepsMissed + 1 } }

/-- Forgets the node found last. -/
def forget (s : Scope γ) : Scope γ := { s with frame := s.frame.missed }

/-- Goes down to the children of the node found last. -/
def below (s : Scope γ) : Scope γ := { s with frame := s.frame.below }

/-- Repeats a body that has been completed `done` times, while the next sibling meets the
predicate, the limit is not reached and the last iteration has used up a sibling. -/
def repeatBody (limit : Option Nat) (predicate : List Matchable) (body : Scope γ → Scope γ)
    (done : Nat) (s : Scope γ) : Scope γ :=
  if limit.any (· ≤ done) || !s.frame.nextMeets predicate then s.tick
  else
    let after := (body s.tick.again).tick
    if after.frame.remaining < s.frame.remaining then
      repeatBody limit predicate body (done + 1) after
    else after
termination_by s.frame.remaining

end Scope

namespace Call

variable {ι γ : Type}

mutual

/-- What a call does. The counters of instructions are part of it: a block counts the markers
that a run passes. -/
def eval (limit : Option Nat) : Call ι γ → Scope γ → Scope γ
  | step spec, s => s.tick.take spec
  | stepIf predicate spec, s =>
    if s.frame.nextMeets predicate then s.tick.take spec else s.tick.forget
  | peek f, s => { s.tick with collector := f s.collector }
  | breakpoint, s => s.tick
  | nest _ body, s => { (evalAll limit body s.tick.below).tick with frame := s.frame }
  | loop _ predicate body, s => s.repeatBody limit predicate (evalAll limit body) 0
  | guard _ predicate body, s =>
    if s.frame.nextMeets predicate then (evalAll limit body s.tick).tick else s.tick.forget
  | choice _ predicate body otherwise, s =>
    if s.frame.nextMeets predicate then (evalAll limit body s.tick).tick
    else (evalAll limit otherwise s.tick.forget).tick

/-- What calls do, one after the other. -/
def evalAll (limit : Option Nat) : List (Call ι γ) → Scope γ → Scope γ
  | [], s => s
  | call :: rest, s => evalAll limit rest (call.eval limit s)

end

mutual

theorem eval_unmarked (limit : Option Nat) :
    (call : Call ι γ) → call.unmarked.eval limit = call.eval limit
  | step _ | stepIf _ _ | peek _ | breakpoint => rfl
  | nest _ body | loop _ _ body | guard _ _ body => by
    funext s
    simp only [unmarked, eval, evalAll_unmarkedAll limit body]
  | choice _ _ body otherwise => by
    funext s
    simp only [unmarked, eval, evalAll_unmarkedAll limit body,
      evalAll_unmarkedAll limit otherwise]

/-- What calls do does not depend on their marks. -/
theorem evalAll_unmarkedAll (limit : Option Nat) :
    (calls : List (Call ι γ)) → evalAll limit (unmarkedAll calls) = evalAll limit calls
  | [] => rfl
  | call :: rest => by
    funext s
    simp only [unmarkedAll, evalAll, eval_unmarked limit call, evalAll_unmarkedAll limit rest]

end

end Call

/-! ## Calls stay among the same siblings -/

namespace Scope

variable {γ : Type}

/-- A loop goes on if the limit is not reached and the next sibling meets the predicate. -/
theorem goes_on_iff {limit : Option Nat} {done : Nat} {f : Frame} {predicate : List Matchable} :
    ¬(limit.any (· ≤ done) || !f.nextMeets predicate) ↔
      limit.any (· ≤ done) = false ∧ f.nextMeets predicate = true := by
  simp

theorem take_ahead (spec : ElementSpec γ) (s : Scope γ) :
    s.frame.Ahead (s.take spec).frame := by
  unfold take
  split
  case h_1 node position found =>
    obtain ⟨le, -, -⟩ := Frame.find?_eq_some found
    exact ⟨rfl, Nat.le_succ_of_le le⟩
  case h_2 => exact .refl _

section

variable (limit : Option Nat) (predicate : List Matchable) {body : Scope γ → Scope γ}
  (ahead : ∀ s : Scope γ, s.frame.Ahead (body s).frame)

include ahead

theorem repeatBody_ahead (done : Nat) (s : Scope γ) :
    s.frame.Ahead (s.repeatBody limit predicate body done).frame := by
  induction done, s using repeatBody.induct limit predicate body with
  | case1 done s spent =>
    rw [repeatBody, if_pos spent]
    exact .refl _
  | case2 done s going after fewer ih =>
    rw [repeatBody, if_neg going]
    simp only [after] at fewer ih
    rw [if_pos fewer]
    exact (ahead s.tick.again).trans ih
  | case3 done s going after idle =>
    rw [repeatBody, if_neg going]
    simp only [after] at idle
    rw [if_neg idle]
    exact ahead s.tick.again

/-- A loop is left after an iteration exactly if the cursor stands where it stood before. -/
theorem repeatBody_eq (done : Nat) (s : Scope γ) :
    s.repeatBody limit predicate body done =
      if limit.any (· ≤ done) || !s.frame.nextMeets predicate then s.tick
      else
        let after := (body s.tick.again).tick
        if after.frame.index = s.frame.index then after
        else after.repeatBody limit predicate body (done + 1) := by
  rw [repeatBody]
  by_cases spent : limit.any (· ≤ done) || !s.frame.nextMeets predicate
  · rw [if_pos spent, if_pos spent]
  rw [if_neg spent, if_neg spent]
  have inside := Frame.index_lt_of_nextMeets (goes_on_iff.mp spent).2
  have moves : (body s.tick.again).tick.frame.remaining < s.frame.remaining ↔
      (body s.tick.again).tick.frame.index ≠ s.frame.index :=
    (ahead s.tick.again).remaining_lt_iff inside
  simp only [moves, ne_eq, ite_not]

end

end Scope

namespace Call

variable {ι γ : Type}

mutual

theorem eval_ahead (limit : Option Nat) :
    (call : Call ι γ) → (s : Scope γ) → s.frame.Ahead (call.eval limit s).frame
  | step spec, s => s.tick.take_ahead spec
  | stepIf predicate spec, s => by
    rw [eval]
    split
    · exact s.tick.take_ahead spec
    · exact .refl _
  | peek _, s | breakpoint, s | nest _ _, s => .refl _
  | loop _ predicate body, s =>
    s.repeatBody_ahead limit predicate (evalAll_ahead limit body) 0
  | guard _ predicate body, s => by
    rw [eval]
    split
    · exact evalAll_ahead limit body s.tick
    · exact .refl _
  | choice _ predicate body otherwise, s => by
    rw [eval]
    split
    · exact evalAll_ahead limit body s.tick
    · exact evalAll_ahead limit otherwise s.tick.forget

theorem evalAll_ahead (limit : Option Nat) :
    (calls : List (Call ι γ)) → (s : Scope γ) → s.frame.Ahead (evalAll limit calls s).frame
  | [], _ => .refl _
  | call :: rest, s => (eval_ahead limit call s).trans (evalAll_ahead limit rest _)

end

end Call

end Gleaner
