import Gleaner.Proofs.Machine.Scope

/-! # Counters only add up

No call looks at a counter. From counters that are higher, calls do what they do from lower ones,
and the counters are higher by as much at the end. So the count of instructions can be left out of
account, and calls that do the same but for that count can be told by what they do to a scope
without it. -/

namespace Gleaner

variable {ι γ : Type}

/-- Counters raised by others. -/
def Stats.add (stats extra : Stats) : Stats :=
  ⟨stats.commandsExecuted + extra.commandsExecuted, stats.stepsMatched + extra.stepsMatched,
    stats.stepsMissed + extra.stepsMissed, stats.loopIterations + extra.loopIterations⟩

theorem Stats.zero_add (stats : Stats) : Stats.zero.add stats = stats := by
  simp [add, zero]

namespace Scope

/-- The scope with its counters raised by others. -/
def raised (extra : Stats) (s : Scope γ) : Scope γ := { s with stats := s.stats.add extra }

/-- The scope without the count of instructions. -/
def uncounted (s : Scope γ) : Scope γ :=
  { s with stats := { s.stats with commandsExecuted := 0 } }

section

variable (extra : Stats) (spec : ElementSpec γ) (s : Scope γ)

@[simp] theorem raised_frame : (s.raised extra).frame = s.frame := rfl

@[simp] theorem uncounted_tick : s.tick.uncounted = s.uncounted := rfl

theorem uncounted_raised (count : Nat) :
    (s.raised ⟨count, 0, 0, 0⟩).uncounted = s.uncounted := rfl

theorem raised_uncounted : s.uncounted.raised ⟨s.stats.commandsExecuted, 0, 0, 0⟩ = s := by
  simp [uncounted, raised, Stats.add]

theorem tick_raised : (s.raised extra).tick = s.tick.raised extra := by
  simp [raised, tick, Stats.add, Nat.add_right_comm]

theorem again_raised : (s.raised extra).again = s.again.raised extra := by
  simp [raised, again, Stats.add, Nat.add_right_comm]

theorem forget_raised : (s.raised extra).forget = s.forget.raised extra := rfl

theorem below_raised : (s.raised extra).below = s.below.raised extra := rfl

theorem take_raised : (s.raised extra).take spec = (s.take spec).raised extra := by
  cases found : s.frame.find? spec <;>
    simp [take, raised, found, Stats.add, Nat.add_right_comm]

end

/-- Whether an effect adds to counters and does not look at them. -/
def Tallies (effect : Scope γ → Scope γ) : Prop :=
  ∀ extra s, effect (s.raised extra) = (effect s).raised extra

/-- The count of instructions matters for nothing but itself. -/
theorem Tallies.uncounted_eq {effect : Scope γ → Scope γ} (tallies : Tallies effect)
    (s : Scope γ) : (effect s).uncounted = (effect s.uncounted).uncounted := by
  conv_lhs => rw [← s.raised_uncounted, tallies, uncounted_raised]

/-- What two bodies and the counters keep of two scopes, the loops of these bodies keep, if it has
the frames in common. -/
theorem repeatBody_related (related : Scope γ → Scope γ → Prop) (limit : Option Nat)
    (predicate : List Matchable) {body body' : Scope γ → Scope γ}
    (frames : ∀ s s', related s s' → s.frame = s'.frame)
    (ticks : ∀ s s', related s s' → related s.tick s'.tick)
    (iterations : ∀ s s', related s s' → related s.again s'.again)
    (bodies : ∀ s s', related s s' → related (body s) (body' s')) :
    ∀ done s s', related s s' →
      related (s.repeatBody limit predicate body done)
        (s'.repeatBody limit predicate body' done) := by
  have iteration : ∀ s s', related s s' →
      related (body s.tick.again).tick (body' s'.tick.again).tick := fun s s' same =>
    ticks _ _ (bodies _ _ (iterations _ _ (ticks s s' same)))
  apply repeatBody.induct limit predicate body
  case case1 =>
    intro done s spent s' same
    rw [repeatBody, repeatBody, ← frames s s' same, if_pos spent, if_pos spent]
    exact ticks s s' same
  case case2 =>
    intro done s going after fewer ih s' same
    rw [repeatBody, repeatBody, ← frames s s' same, if_neg going, if_neg going]
    simp only [← frames _ _ (iteration s s' same)]
    rw [if_pos fewer, if_pos fewer]
    exact ih _ (iteration s s' same)
  case case3 =>
    intro done s going after idle s' same
    rw [repeatBody, repeatBody, ← frames s s' same, if_neg going, if_neg going]
    simp only [← frames _ _ (iteration s s' same)]
    rw [if_neg idle, if_neg idle]
    exact iteration s s' same

theorem repeatBody_tallies (limit : Option Nat) (predicate : List Matchable)
    {body : Scope γ → Scope γ} (tallies : Tallies body) (done : Nat) :
    Tallies fun s => s.repeatBody limit predicate body done := by
  intro extra s
  refine repeatBody_related (fun s s' => s = s'.raised extra) limit predicate ?_ ?_ ?_ ?_
    done _ s rfl
  · rintro _ s rfl
    rfl
  · rintro _ s rfl
    exact tick_raised extra s
  · rintro _ s rfl
    exact again_raised extra s
  · rintro _ s rfl
    exact tallies extra s

end Scope

namespace Call

open Scope

theorem evalAll_append (limit : Option Nat) (first second : List (Call ι γ)) (s : Scope γ) :
    evalAll limit (first ++ second) s = evalAll limit second (evalAll limit first s) := by
  induction first generalizing s with
  | nil => rfl
  | cons call rest ih => exact ih (call.eval limit s)

mutual

theorem eval_tallies (limit : Option Nat) : (call : Call ι γ) → Tallies (call.eval limit)
  | step spec => fun extra s => by simp only [eval, tick_raised, take_raised]
  | stepIf predicate spec => fun extra s => by
    simp only [eval, raised_frame, tick_raised, take_raised, forget_raised,
      apply_ite (raised extra)]
  | peek _ => fun extra s => by
    simp only [eval, tick_raised]
    rfl
  | breakpoint => fun extra s => by rw [eval, tick_raised, eval]
  | nest _ body => fun extra s => by
    simp only [eval, tick_raised, below_raised, evalAll_tallies limit body extra, raised_frame]
    rfl
  | loop _ predicate body => repeatBody_tallies limit predicate (evalAll_tallies limit body) 0
  | guard _ predicate body => fun extra s => by
    simp only [eval, raised_frame, tick_raised, forget_raised, evalAll_tallies limit body extra,
      apply_ite (raised extra)]
  | choice _ predicate body otherwise => fun extra s => by
    simp only [eval, raised_frame, tick_raised, forget_raised, evalAll_tallies limit body extra,
      evalAll_tallies limit otherwise extra, apply_ite (raised extra)]

/-- Calls add to the counters and do not look at them. -/
theorem evalAll_tallies (limit : Option Nat) :
    (calls : List (Call ι γ)) → Tallies (evalAll limit calls)
  | [] => fun _ _ => rfl
  | call :: rest => fun extra s => by
    rw [evalAll, eval_tallies limit call extra s, evalAll_tallies limit rest extra]
    rfl

end

end Call

end Gleaner
