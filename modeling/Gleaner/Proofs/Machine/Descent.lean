import Gleaner.Proofs.Machine.Passage
import Gleaner.Proofs.Program.Mistake

/-! # Where a nest goes down

A nest goes down into the node found last, and that is what the last try on its level has found: a
step that looks for a node, or a predicate that does not hold, which counts as a try in vain. So
after calls that have tried something in vain, a nest has nothing to look at. Calls that have not
tried anything leave the node that was found before them. -/

namespace Gleaner

variable {ι γ : Type}

namespace Scope

/-- What is found by the tries of a loop's body, iteration after iteration, by what is found in one
iteration. -/
def repeatTries (limit : Option Nat) (predicate : List Matchable) (body : Scope γ → Scope γ)
    (tries : Scope γ → List (Option Node)) (done : Nat) (s : Scope γ) : List (Option Node) :=
  if limit.any (· ≤ done) || !s.frame.nextMeets predicate then []
  else
    let after := (body s.tick.again).tick
    if after.frame.remaining < s.frame.remaining then
      tries s.tick.again ++ repeatTries limit predicate body tries (done + 1) after
    else tries s.tick.again
termination_by s.frame.remaining

end Scope

namespace Call

mutual

/-- What is found by the tries of a call on its own level, in order. A step is a try, and so is a
predicate that does not hold, of a step or of a condition. -/
def tries (limit : Option Nat) : Call ι γ → Scope γ → List (Option Node)
  | step spec, s => [(s.frame.find? spec).map Prod.fst]
  | stepIf predicate spec, s =>
    if s.frame.nextMeets predicate then [(s.frame.find? spec).map Prod.fst] else [none]
  | peek _, _ | breakpoint, _ | nest _ _, _ => []
  | loop _ predicate body, s =>
    s.repeatTries limit predicate (evalAll limit body) (triesAll limit body) 0
  | guard _ predicate body, s =>
    if s.frame.nextMeets predicate then triesAll limit body s.tick else [none]
  | choice _ predicate body otherwise, s =>
    if s.frame.nextMeets predicate then triesAll limit body s.tick
    else none :: triesAll limit otherwise s.tick.forget

/-- What is found by the tries of calls on their level, in order. -/
def triesAll (limit : Option Nat) : List (Call ι γ) → Scope γ → List (Option Node)
  | [], _ => []
  | call :: rest, s => call.tries limit s ++ triesAll limit rest (call.eval limit s)

end

end Call

/-! ## The node found last -/

/-- The node found last, after tries and what was found before them. -/
def lastFound (before : Option Node) (tries : List (Option Node)) : Option Node :=
  tries.getLast?.getD before

section

variable (before : Option Node) (first second : List (Option Node))

@[simp] theorem lastFound_nil : lastFound before [] = before := rfl

@[simp] theorem lastFound_singleton (found : Option Node) : lastFound before [found] = found := rfl

theorem lastFound_append :
    lastFound before (first ++ second) = lastFound (lastFound before first) second := by
  rw [lastFound, List.getLast?_append, Option.getD_or]
  rfl

theorem lastFound_cons (found : Option Node) :
    lastFound before (found :: second) = lastFound found second :=
  lastFound_append before [found] second

/-- After tries in vain, no node was found last. -/
theorem lastFound_eq_none {tries : List (Option Node)} (some_try : tries ≠ [])
    (vain : ∀ found ∈ tries, found = none) : lastFound before tries = none := by
  rw [lastFound, List.getLast?_eq_some_getLast some_try]
  exact vain _ (List.getLast_mem some_try)

end

namespace Scope

theorem repeatBody_matched (limit : Option Nat) (predicate : List Matchable)
    {body : Scope γ → Scope γ} {tries : Scope γ → List (Option Node)}
    (matched : ∀ s : Scope γ, (body s).frame.matched = lastFound s.frame.matched (tries s))
    (done : Nat) (s : Scope γ) :
    (s.repeatBody limit predicate body done).frame.matched =
      lastFound s.frame.matched (s.repeatTries limit predicate body tries done) := by
  induction done, s using repeatBody.induct limit predicate body with
  | case1 done s spent =>
    rw [repeatBody, repeatTries, if_pos spent, if_pos spent]
    rfl
  | case2 done s going after fewer ih =>
    have iteration : after.frame.matched = lastFound s.frame.matched (tries s.tick.again) :=
      matched s.tick.again
    rw [repeatBody, repeatTries, if_neg going, if_neg going]
    simp only [after] at fewer iteration ih ⊢
    rw [if_pos fewer, if_pos fewer, ih, iteration, lastFound_append]
  | case3 done s going after idle =>
    have iteration : after.frame.matched = lastFound s.frame.matched (tries s.tick.again) :=
      matched s.tick.again
    rw [repeatBody, repeatTries, if_neg going, if_neg going]
    simp only [after] at idle iteration ⊢
    rw [if_neg idle, if_neg idle, iteration]

theorem take_matched (spec : ElementSpec γ) (s : Scope γ) :
    (s.take spec).frame.matched = (s.frame.find? spec).map Prod.fst := by
  cases found : s.frame.find? spec <;> simp [take, found, Frame.found, Frame.missed]

end Scope

namespace Call

open Scope

mutual

/-- After a call, the node found last is what its last try has found. -/
theorem matched_eval (limit : Option Nat) :
    (call : Call ι γ) → (s : Scope γ) →
      (call.eval limit s).frame.matched = lastFound s.frame.matched (call.tries limit s)
  | step spec, s => s.tick.take_matched spec
  | stepIf predicate spec, s => by
    rw [eval, tries]
    split
    · exact s.tick.take_matched spec
    · rfl
  | peek _, s | breakpoint, s | nest _ _, s => rfl
  | loop _ predicate body, s => repeatBody_matched limit predicate (matched_evalAll limit body) 0 s
  | guard _ predicate body, s => by
    rw [eval, tries]
    split
    · exact matched_evalAll limit body s.tick
    · rfl
  | choice _ predicate body otherwise, s => by
    rw [eval, tries]
    split
    · exact matched_evalAll limit body s.tick
    · rw [lastFound_cons]
      exact matched_evalAll limit otherwise s.tick.forget

theorem matched_evalAll (limit : Option Nat) :
    (calls : List (Call ι γ)) → (s : Scope γ) →
      (evalAll limit calls s).frame.matched = lastFound s.frame.matched (triesAll limit calls s)
  | [], _ => rfl
  | call :: rest, s => by
    rw [evalAll, triesAll, lastFound_append, matched_evalAll limit rest, matched_eval limit call]

end

/-! ## Tries in vain -/

theorem repeatTries_vain (limit : Option Nat) (predicate : List Matchable)
    {body : Scope γ → Scope γ} {tries : Scope γ → List (Option Node)}
    (vain : ∀ s, ∀ found ∈ tries s, found = none) (done : Nat) (s : Scope γ) :
    ∀ found ∈ s.repeatTries limit predicate body tries done, found = none := by
  induction done, s using repeatTries.induct limit predicate body with
  | case1 done s spent =>
    rw [repeatTries, if_pos spent]
    simp
  | case2 done s going after fewer ih =>
    rw [repeatTries, if_neg going]
    simp only [after] at fewer ih ⊢
    rw [if_pos fewer]
    exact List.forall_mem_append.mpr ⟨vain _, ih⟩
  | case3 done s going after idle =>
    rw [repeatTries, if_neg going]
    simp only [after] at idle ⊢
    rw [if_neg idle]
    exact vain _

mutual

/-- Without a step on its level, a call does not find anything there; conditions in it may fail. -/
theorem tries_vain (limit : Option Nat) :
    (call : Call ι γ) → call.stepsHere = false → (s : Scope γ) →
      ∀ found ∈ call.tries limit s, found = none
  | step _, steps, _ | stepIf _ _, steps, _ => by simp [stepsHere] at steps
  | peek _, _, _ | breakpoint, _, _ | nest _ _, _, _ => by simp [tries]
  | loop _ predicate body, steps, s =>
    repeatTries_vain limit predicate (triesAll_vain limit body steps) 0 s
  | guard _ predicate body, steps, s => by
    rw [tries]
    split
    · exact triesAll_vain limit body steps s.tick
    · simp
  | choice _ predicate body otherwise, steps, s => by
    obtain ⟨none_here, none_there⟩ := Bool.or_eq_false_iff.mp steps
    rw [tries]
    split
    · exact triesAll_vain limit body none_here s.tick
    · exact List.forall_mem_cons.mpr ⟨rfl, triesAll_vain limit otherwise none_there s.tick.forget⟩

theorem triesAll_vain (limit : Option Nat) :
    (calls : List (Call ι γ)) → anyStepsHere calls = false → (s : Scope γ) →
      ∀ found ∈ triesAll limit calls s, found = none
  | [], _, _ => by simp [triesAll]
  | call :: rest, steps, s => by
    obtain ⟨none_first, none_later⟩ := Bool.or_eq_false_iff.mp steps
    rw [triesAll]
    exact List.forall_mem_append.mpr
      ⟨tries_vain limit call none_first s, triesAll_vain limit rest none_later _⟩

end

/-- Whether a call is a loop or a condition that holds, so that it may do without the steps in
it. -/
def MayIdle (f : Frame) : Call ι γ → Prop
  | loop _ _ _ => True
  | guard _ predicate _ | choice _ predicate _ _ => f.nextMeets predicate = true
  | step _ | stepIf _ _ | peek _ | breakpoint | nest _ _ => False

theorem mayIdle_of_tries_eq_nil {limit : Option Nat} {call : Call ι γ} {s : Scope γ}
    (steps : call.stepsHere = true) (idle : call.tries limit s = []) : call.MayIdle s.frame := by
  cases call with
  | step spec => simp [tries] at idle
  | stepIf predicate spec =>
    rw [tries] at idle
    split at idle <;> simp at idle
  | peek f | breakpoint | nest name body => simp [stepsHere] at steps
  | loop mark predicate body => trivial
  | guard mark predicate body =>
    rw [tries] at idle
    split at idle
    case isTrue meets => exact meets
    case isFalse misses => simp at idle
  | choice mark predicate body otherwise =>
    rw [tries] at idle
    split at idle
    case isTrue meets => exact meets
    case isFalse misses => simp at idle

/-- Where a run has come behind calls, the node found last is what their last try has found. -/
theorem matched_behind {C : Context γ} {first call : Call Unit γ} {calls rest : List (Call Unit γ)}
    {name : Option String} {program : Program γ}
    (built : (addAllTo (C.fill (first :: calls ++ call :: rest)) (.root name)).build = .ok program)
    (other : ∀ inside body, call ≠ .loop () inside body) {config : Config} {siblings : List Node}
    {collector : γ} {count : Nat} {run : Run γ}
    (running : (Run.start program siblings collector).advance config program count = .running run)
    (here : run.traversal.pc =
      (C.front 0).length + (commandsOf (numberedAll 0 (first :: calls))).length) :
    ∃ before taken begun, before + taken = count ∧
      (Run.start program siblings collector).advance config program before = .running begun ∧
      begun.advance config program taken = .running run ∧
      begun.traversal.pc = (C.front 0).length ∧
      run.traversal.saved = begun.traversal.saved ∧ run.traversal.loops = begun.traversal.loops ∧
      run.traversal.frame.matched = lastFound begun.traversal.frame.matched
        (triesAll config.maxLoopIterations (first :: calls) begun.scope) := by
  obtain ⟨before, taken, begun, sum, enters, through, start, place, -⟩ :=
    came_through built other running here
  refine ⟨before, taken, begun, sum, enters, through, start, by rw [place]; rfl,
    by rw [place]; rfl, ?_⟩
  rw [place]
  exact matched_evalAll _ _ begun.scope

/-- When a run comes to a nest, it has gone through the last call before the nest that has a step on
their level, and through the calls between the two. If that call has tried something and found
nothing, the nest has no siblings to look at. If it has not tried anything, it is a loop or a
condition that held; then the node found last is the one from before that call, unless a condition
in between has failed. -/
theorem nest_after_last_step {C : Context γ} {last : Call Unit γ}
    {between rest : List (Call Unit γ)} {name nestName : Option String}
    {body : List (Call Unit γ)} {program : Program γ}
    (built : (addAllTo (C.fill (last :: between ++ .nest nestName body :: rest))
      (.root name)).build = .ok program)
    (steps : last.stepsHere = true) (passed : anyStepsHere between = false) {config : Config}
    {siblings : List Node} {collector : γ} {count : Nat} {run : Run γ}
    (running : (Run.start program siblings collector).advance config program count = .running run)
    (here : run.traversal.pc =
      (C.front 0).length + (commandsOf (numberedAll 0 (last :: between))).length) :
    ∃ before taken begun entered, before + taken = count ∧
      (Run.start program siblings collector).advance config program before = .running begun ∧
      begun.advance config program taken = .running run ∧
      begun.traversal.pc = (C.front 0).length ∧
      run.traversal.saved = begun.traversal.saved ∧ run.traversal.loops = begun.traversal.loops ∧
      run.step config program = .running entered ∧
      let tries := last.tries config.maxLoopIterations begun.scope
      (tries ≠ [] → (∀ found ∈ tries, found = none) → entered.traversal.frame = .start []) ∧
      (tries = [] → last.MayIdle begun.traversal.frame ∧
        (entered.traversal.frame = .start [] ∨
          run.traversal.frame.matched = begun.traversal.frame.matched)) := by
  obtain ⟨before, taken, begun, sum, enters, through, first, saved, loops, matched⟩ :=
    matched_behind built (by simp) running here
  obtain ⟨entered, stepped, inside⟩ := run.enters_nest config (last :: between) built here
  have nothing : run.traversal.frame.matched = none → entered.traversal.frame = .start [] := by
    intro unmatched
    rw [inside, Frame.below, unmatched]
    rfl
  have later := triesAll_vain config.maxLoopIterations between passed
    (last.eval config.maxLoopIterations begun.scope)
  refine ⟨before, taken, begun, entered, sum, enters, through, first, saved, loops, stepped, ?_, ?_⟩
  · intro tried vain
    apply nothing
    rw [matched, triesAll]
    apply lastFound_eq_none
    · simp [tried]
    · exact List.forall_mem_append.mpr ⟨vain, later⟩
  · intro idle
    refine ⟨mayIdle_of_tries_eq_nil steps idle, ?_⟩
    rw [triesAll, idle, List.nil_append] at matched
    by_cases still : triesAll config.maxLoopIterations between
        (last.eval config.maxLoopIterations begun.scope) = []
    · right
      rw [matched, still]
      rfl
    · left
      exact nothing (matched.trans (lastFound_eq_none _ still later))

/-- A step that finds nothing, between one that finds a node and a nest. -/
theorem nest_after_last_step_missed :
    let C : Context Nat := .here [.step (.plain "div" [.any])] []
    let last : Call Unit Nat := .step (.plain "p" [.any])
    let nested : Call Unit Nat := .nest none [.step (.plain "span" [.any])]
    let program : Program Nat := ⟨none, commandsOf (numberedAll 0 (C.fill [last, nested]))⟩
    let siblings : List Node := [.element "div" .empty [.element "span" .empty [.text "1"]]]
    ∃ run entered, (addAllTo (C.fill [last, nested]) (.root none)).build = .ok program ∧
      last.stepsHere = true ∧ anyStepsHere ([] : List (Call Unit Nat)) = false ∧
      (Run.start program siblings 0).advance .default program 2 = .running run ∧
      run.traversal.pc = (C.front 0).length + (commandsOf (numberedAll 0 [last])).length ∧
      run.step .default program = .running entered ∧ entered.traversal.frame = .start [] := by
  intro C last nested program siblings
  have built : (addAllTo (C.fill ([last] ++ nested :: [])) (.root none)).build = .ok program := rfl
  have running : (Run.start program siblings 0).advance .default program 2 = .running _ := rfl
  obtain ⟨before, taken, begun, entered, sum, enters, through, first, -, -, stepped, vain, -⟩ :=
    nest_after_last_step (C := C) built rfl rfl running rfl
  refine ⟨_, entered, built, rfl, rfl, running, rfl, stepped, vain (by simp [last, tries]) ?_⟩
  -- The run comes to the step that finds nothing after one instruction.
  obtain rfl | rfl | rfl : before = 0 ∨ before = 1 ∨ before = 2 := by omega
  · obtain rfl := Progress.running.inj enters
    exact absurd first (by decide)
  · obtain rfl := Progress.running.inj enters
    exact (by simp : ∀ found ∈ [(none : Option Node)], found = none)
  · obtain rfl := Progress.running.inj enters
    exact absurd first (by decide)

/-- A loop that is not entered keeps the node found before it, and a nest behind the loop goes down
into that node. -/
theorem idle_loop_keeps_match :
    let last : Call Unit Nat := .loop () [.any] [.step (.plain "p" [.any])]
    let calls : List (Call Unit Nat) :=
      [.step (.plain "div" [.any]), last, .nest none [.step (.plain "span" [.any])]]
    let child : Node := .element "span" .empty [.text "1"]
    last.stepsHere = true ∧
      ∃ program begun run entered, (addAllTo calls (.root none)).build = .ok program ∧
        (Run.start program [.element "div" .empty [child]] 0).advance .default program 1 =
          .running begun ∧
        program.commands[begun.traversal.pc]? = some (.beginLoop 0 [.any]) ∧
        begun.step .default program = .running run ∧
        program.commands[run.traversal.pc]? = some (.push none) ∧
        run.traversal.stats.loopIterations = 0 ∧ last.tries none begun.scope = [] ∧
        run.step .default program = .running entered ∧
        entered.traversal.frame = .start [child] := by
  intro last calls child
  refine ⟨rfl, _, _, _, _, rfl, rfl, rfl, rfl, rfl, rfl, ?_, rfl, rfl⟩
  rw [tries, Scope.repeatTries]
  exact if_pos rfl

end Call

end Gleaner
