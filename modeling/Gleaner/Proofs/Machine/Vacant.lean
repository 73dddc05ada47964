import Gleaner.Proofs.Machine.Descent
import Gleaner.Proofs.Machine.Hit
import Gleaner.Proofs.Machine.Inside

/-! # Where there is nothing to match

Among no siblings nothing is found, so no nest there has siblings either, no predicate holds and no
loop begins an iteration. All that runs are the calls outside of loops and of bodies that a
predicate guards: steps miss, and peeks change the collector. The same goes for a nest where no node
was found last, as after a miss. -/

namespace Gleaner

variable {ι γ : Type}

namespace Frame

/-- Whether there are no siblings in a frame, and so no node that was found last. -/
structure Vacant (f : Frame) : Prop where
  siblings : f.siblings = []
  matched : f.matched = none

section

variable {f : Frame} (nobody : f.siblings = [])

include nobody

theorem find?_eq_none (spec : ElementSpec γ) : f.find? spec = none := by
  simp [find?, nobody, findFrom]

theorem nextMeets_eq_false (predicate : List Matchable) : f.nextMeets predicate = false := by
  simp [nextMeets, next?, nobody]

theorem Sound.vacant (sound : f.Sound) : f.Vacant := by
  refine ⟨nobody, Option.eq_none_iff_forall_not_mem.mpr fun node found => ?_⟩
  obtain ⟨position, -, there⟩ := sound.found node found
  simp [nobody] at there

end

namespace Vacant

variable {f : Frame}

theorem missed (vacant : f.Vacant) : f.missed = f := by
  rw [Frame.missed, ← vacant.matched]

theorem below (matched : f.matched = none) : f.below.Vacant := by
  rw [Frame.below, matched]
  exact ⟨rfl, rfl⟩

end Vacant

variable {siblings : List Node} {f g : Frame} {saved : List Frame}

/-- Above a frame in which no node was found last, there are no siblings. -/
theorem Stacked.vacant_of_below (stacked : f.Stacked siblings (g :: saved))
    (unmatched : g.matched = none) : f.Vacant := by
  obtain ⟨sound, shows, -⟩ := stacked
  refine sound.vacant ?_
  rw [shows, unmatched]
  rfl

/-- Where there are no siblings at the bottom, there are none anywhere. -/
theorem Stacked.vacant (stacked : f.Stacked [] saved) : f.Vacant := by
  induction saved generalizing f with
  | nil => exact stacked.1.vacant stacked.2
  | cons lower saved ih => exact stacked.vacant_of_below (ih stacked.leave).matched

/-- Nor are there any higher up. -/
theorem Stacked.vacant_above (above : List Frame)
    (stacked : f.Stacked siblings (above ++ g :: saved)) (unmatched : g.matched = none) :
    f.Vacant := by
  induction above generalizing f with
  | nil => exact stacked.vacant_of_below unmatched
  | cons lower above ih => exact stacked.vacant_of_below (ih stacked.leave).matched

end Frame

/-! ## Calls among no siblings -/

namespace Call

mutual

/-- The steps, peeks and breakpoints of a call that are neither in a loop nor in a body for when a
predicate holds, in order. Those in nests are among them, and those in second bodies. -/
def outer : Call ι γ → List (Call ι γ)
  | nest _ body => outerAll body
  | loop _ _ _ | guard _ _ _ => []
  | choice _ _ _ otherwise => outerAll otherwise
  | call => [call]

/-- The same for calls, one after the other. -/
def outerAll : List (Call ι γ) → List (Call ι γ)
  | [] => []
  | call :: rest => call.outer ++ outerAll rest

end

end Call

namespace Scope

/-- Whether calls have done to a scope what they do where nothing is found: each step counts as a
miss, and each peek changes the collector, one after the other. The count of instructions is left
out. -/
structure Idles (calls : List (Call ι γ)) (s s' : Scope γ) : Prop where
  frame : s'.frame = s.frame
  stepsMatched : s'.stats.stepsMatched = s.stats.stepsMatched
  stepsMissed : s'.stats.stepsMissed =
    s.stats.stepsMissed + (calls.filterMap Call.spec?).length
  loopIterations : s'.stats.loopIterations = s.stats.loopIterations
  collector : s'.collector =
    (calls.filterMap Call.onPeek?).foldl (fun collector f => f collector) s.collector

namespace Idles

variable {first second : List (Call ι γ)} {s s' s'' : Scope γ}

theorem trans (idles : s.Idles first s') (idles' : s'.Idles second s'') :
    s.Idles (first ++ second) s'' := by
  refine ⟨idles'.frame.trans idles.frame, idles'.stepsMatched.trans idles.stepsMatched, ?_,
    idles'.loopIterations.trans idles.loopIterations, ?_⟩
  · rw [idles'.stepsMissed, idles.stepsMissed, List.filterMap_append, List.length_append,
      Nat.add_assoc]
  · rw [idles'.collector, idles.collector, List.filterMap_append, List.foldl_append]

theorem tick (idles : s.Idles first s') : s.Idles first s'.tick :=
  ⟨idles.frame, idles.stepsMatched, idles.stepsMissed, idles.loopIterations, idles.collector⟩

theorem ticked (s : Scope γ) : s.Idles ([] : List (Call ι γ)) s.tick := ⟨rfl, rfl, rfl, rfl, rfl⟩

theorem forgotten (vacant : s.frame.Vacant) : s.Idles ([] : List (Call ι γ)) s.tick.forget :=
  ⟨vacant.missed, rfl, rfl, rfl, rfl⟩

/-- What calls do in a nest, they do to the scope around, the frame aside. -/
theorem back_up (idles : s.tick.below.Idles first s') :
    s.Idles first { s'.tick with frame := s.frame } :=
  ⟨rfl, idles.stepsMatched, idles.stepsMissed, idles.loopIterations, idles.collector⟩

end Idles

end Scope

namespace Call

open Scope

mutual

/-- Among no siblings, a call does nothing but what steps and peeks do that are outside. -/
theorem eval_idles (limit : Option Nat) :
    (call : Call ι γ) → (s : Scope γ) → s.frame.Vacant → s.Idles call.outer (call.eval limit s)
  | step spec, s, vacant => by
    have nothing := Frame.find?_eq_none vacant.siblings spec
    rw [eval, Scope.take]
    simp only [Scope.tick, nothing]
    exact ⟨vacant.missed, rfl, rfl, rfl, rfl⟩
  | stepIf predicate spec, s, vacant => by
    rw [eval, if_neg (by simp [Frame.nextMeets_eq_false vacant.siblings])]
    exact ⟨vacant.missed, rfl, rfl, rfl, rfl⟩
  | peek f, s, vacant => ⟨rfl, rfl, rfl, rfl, rfl⟩
  | breakpoint, s, vacant => ⟨rfl, rfl, rfl, rfl, rfl⟩
  | nest name body, s, vacant =>
    (evalAll_idles limit body s.tick.below (.below vacant.matched)).back_up
  | loop mark predicate body, s, vacant => by
    rw [eval, repeatBody, if_pos (by simp [Frame.nextMeets_eq_false vacant.siblings])]
    exact .ticked s
  | guard mark predicate body, s, vacant => by
    rw [eval, if_neg (by simp [Frame.nextMeets_eq_false vacant.siblings])]
    exact .forgotten vacant
  | choice mark predicate body otherwise, s, vacant => by
    have forgotten : s.Idles ([] : List (Call ι γ)) s.tick.forget := .forgotten vacant
    rw [eval, if_neg (by simp [Frame.nextMeets_eq_false vacant.siblings])]
    exact (forgotten.trans (evalAll_idles limit otherwise s.tick.forget
      (forgotten.frame ▸ vacant))).tick

theorem evalAll_idles (limit : Option Nat) :
    (calls : List (Call ι γ)) → (s : Scope γ) → s.frame.Vacant →
      s.Idles (outerAll calls) (evalAll limit calls s)
  | [], s, vacant => ⟨rfl, rfl, rfl, rfl, rfl⟩
  | call :: rest, s, vacant => by
    have first := eval_idles limit call s vacant
    exact first.trans (evalAll_idles limit rest _ (first.frame ▸ vacant))

end

end Call

/-! ## The run -/

theorem Command.hit?_eq_none {f : Frame} (nobody : f.siblings = []) (command : Command γ) :
    command.hit? f = none := by
  cases command <;> simp [hit?, Frame.hit?, Frame.find?_eq_none nobody]

namespace Traversal

variable {limit : Option Nat} {commands : List (Command γ)} {t t' : Traversal}

/-- Whether an instruction has found nothing on its way from one state to another: no node for the
collector, nor one that a loop or a condition would go on for. Those go on behind the first marker
that ends their body. -/
structure FindsNothing (commands : List (Command γ)) (t t' : Traversal) : Prop where
  hits : ∀ command, commands[t.pc]? = some command → command.hit? t.frame = none
  stepsMatched : t'.stats.stepsMatched = t.stats.stepsMatched
  loopIterations : t'.stats.loopIterations = t.stats.loopIterations
  past_loop : ∀ id predicate, commands[t.pc]? = some (.beginLoop id predicate) →
    ∃ target, Command.findForward commands (t.pc + 1) (Command.isEndLoop id) = some target ∧
      t'.pc = target + 1
  past_body : ∀ id predicate, commands[t.pc]? = some (.beginCondition id predicate) →
    ∃ target, Command.findForward commands (t.pc + 1) (Command.isBranchEnd id) = some target ∧
      t'.pc = target + 1

/-- Where a loop begins among no siblings, the run goes on behind the loop. -/
theorem execute_beginLoop (nobody : t.frame.siblings = []) {id : Nat} {predicate : List Matchable}
    (ok : t.execute limit commands (.beginLoop id predicate) = .ok t') :
    t'.stats = t.stats ∧
      ∃ target, Command.findForward commands (t.pc + 1) (Command.isEndLoop id) = some target ∧
        t'.pc = target + 1 := by
  have stays : (t.frame.nextMeets predicate) = false := Frame.nextMeets_eq_false nobody predicate
  simp only [execute, beginLoop, stays, Bool.and_false, Bool.false_eq_true, if_false] at ok
  obtain ⟨target, found, rfl⟩ := skipPast_eq_ok ok
  exact ⟨rfl, target, found, rfl⟩

/-- Where a condition begins among no siblings, the run goes on behind its first body. -/
theorem execute_beginCondition (nobody : t.frame.siblings = []) {id : Nat}
    {predicate : List Matchable}
    (ok : t.execute limit commands (.beginCondition id predicate) = .ok t') :
    t'.stats = t.stats ∧
      ∃ target, Command.findForward commands (t.pc + 1) (Command.isBranchEnd id) = some target ∧
        t'.pc = target + 1 := by
  rw [execute, if_neg (by simp [Frame.nextMeets_eq_false nobody])] at ok
  obtain ⟨target, found, rfl⟩ := skipPast_eq_ok ok
  exact ⟨rfl, target, found, rfl⟩

/-- Among no siblings, nothing is counted but misses. -/
theorem stats_of_execute (nobody : t.frame.siblings = []) {command : Command γ}
    (ok : t.execute limit commands command = .ok t') :
    t'.stats.stepsMatched = t.stats.stepsMatched ∧
      t'.stats.loopIterations = t.stats.loopIterations := by
  cases command with
  | step spec =>
    obtain rfl := Except.ok.inj ok
    simp [take, Frame.find?_eq_none nobody, Traversal.advance]
  | stepIf predicate spec =>
    obtain rfl := Except.ok.inj ok
    simp [Frame.nextMeets_eq_false nobody, Traversal.advance, forget]
  | pop =>
    simp only [execute] at ok
    split at ok
    · simp at ok
    · obtain rfl := Except.ok.inj ok
      exact ⟨rfl, rfl⟩
  | beginLoop id predicate => rw [(execute_beginLoop nobody ok).1]; exact ⟨rfl, rfl⟩
  | endLoop id =>
    simp only [execute, endLoop] at ok
    split at ok
    · simp at ok
    split at ok
    · simp at ok
    split at ok
    · obtain rfl := Except.ok.inj ok
      exact ⟨rfl, rfl⟩
    split at ok
    · simp at ok
    · obtain rfl := Except.ok.inj ok
      exact ⟨rfl, rfl⟩
  | beginCondition id predicate => rw [(execute_beginCondition nobody ok).1]; exact ⟨rfl, rfl⟩
  | elseCondition id =>
    obtain ⟨target, -, rfl⟩ := skipPast_eq_ok ok
    exact ⟨rfl, rfl⟩
  | push _ | endCondition _ | peek _ | breakpoint =>
    obtain rfl := Except.ok.inj ok
    exact ⟨rfl, rfl⟩

theorem findsNothing_of_step (nobody : t.frame.siblings = [])
    (running : t.step limit commands = .running t') : FindsNothing commands t t' := by
  obtain ⟨command, here, ok⟩ := execute_of_step running
  have counted : t.countCommand.frame.siblings = [] := nobody
  obtain ⟨matched, iterations⟩ := stats_of_execute counted ok
  refine ⟨fun other _ => Command.hit?_eq_none nobody other, matched, iterations, ?_, ?_⟩
  · intro id predicate begins
    obtain rfl := Option.some.inj (here.symm.trans begins)
    exact (execute_beginLoop counted ok).2
  · intro id predicate begins
    obtain rfl := Option.some.inj (here.symm.trans begins)
    exact (execute_beginCondition counted ok).2

end Traversal

namespace Run

open Traversal

variable {config : Config} {program : Program γ} {siblings : List Node} {collector : γ}
  {count : Nat} {run : Run γ}

/-- In a run over no siblings, no instruction finds anything. -/
theorem finds_nothing {mid next : Run γ}
    (running : (start program [] collector).advance config program count = .running mid)
    (stepped : mid.step config program = .running next) :
    FindsNothing program.commands mid.traversal next.traversal := by
  obtain ⟨places, trail⟩ := exists_trail running
  exact findsNothing_of_step trail.stacked.vacant.siblings (traversal_step stepped)

/-- Above a frame in which no node was found last, no instruction finds anything. -/
theorem finds_nothing_above {frame : Frame} {saved : List Frame} {mid next : Run γ}
    (running : (start program siblings collector).advance config program count = .running mid)
    (above : frame :: saved <:+ mid.traversal.saved) (unmatched : frame.matched = none)
    (stepped : mid.step config program = .running next) :
    FindsNothing program.commands mid.traversal next.traversal := by
  obtain ⟨places, trail⟩ := exists_trail running
  obtain ⟨frames, whole⟩ := above
  have stacked := trail.stacked
  rw [← whole] at stacked
  exact findsNothing_of_step (stacked.vacant_above frames unmatched).siblings
    (traversal_step stepped)

/-- A program that is run over no siblings finishes, and does what its calls do there. -/
theorem idles_through {calls : List (Call Unit γ)} {name : Option String}
    (built : (Call.addAllTo calls (.root name)).build = .ok program) (config : Config)
    (collector : γ) :
    let begun := start program [] collector
    ∃ count ended, begun.advance config program count = .finished ended ∧
      begun.scope.Idles (Call.outerAll calls) ended.scope := by
  intro begun
  have split : program.commands = [] ++ (Call.commandsOf (Call.numberedAll 0 calls) ++ []) := by
    simp [Call.commands_of_built built]
  have here : begun.traversal.pc = ([] : List (Command γ)).length := rfl
  obtain ⟨taken, behind, through, place, collected⟩ := goes_through config split here nofun
  have ends : behind.step config program = .finished ⟨behind.traversal, behind.collector,
      .ends behind.traversal.stats :: behind.log⟩ := by
    simp [step, Traversal.step, place, Scope.place, split, begun, start, Traversal.start]
  refine ⟨taken + 1, _, (advance_of_running through).trans ((advance_one _).trans ends), ?_⟩
  have idles := Call.evalAll_idles config.maxLoopIterations calls begun.scope ⟨rfl, rfl⟩
  have same : (⟨behind.traversal.frame, behind.traversal.stats, behind.collector⟩ : Scope γ) =
      Call.evalAll config.maxLoopIterations calls begun.scope := by
    rw [place, collected]
    rfl
  rw [← same] at idles
  exact idles

/-- A run that comes to a nest with no node found last goes past it, and does what the calls in it
do among no siblings. -/
theorem idles_past_nest {C : Context γ} {name nestName : Option String}
    {body rest : List (Call Unit γ)}
    (built : (Call.addAllTo (C.fill (.nest nestName body :: rest)) (.root name)).build =
      .ok program)
    (running : (start program siblings collector).advance config program count = .running run)
    (here : run.traversal.pc = (C.front 0).length)
    (unmatched : run.traversal.frame.matched = none) :
    let t := run.traversal
    ∃ taken behind, run.advance config program taken = .running behind ∧
      behind.traversal.pc = t.pc + ((Call.nest nestName body).numbered 0).commands.length ∧
      behind.traversal.saved = t.saved ∧ behind.traversal.loops = t.loops ∧
      run.scope.Idles (Call.outerAll body) behind.scope ∧
      ∀ n < taken, 0 < n → ∀ mid next, run.advance config program n = .running mid →
        mid.step config program = .running next →
          FindsNothing program.commands mid.traversal next.traversal := by
  intro t
  obtain ⟨taken, behind, through, place, collected, above⟩ := passes_nest built running here
  refine ⟨taken, behind, through, by rw [place, here]; rfl, by rw [place]; rfl, by rw [place]; rfl,
    ?_, ?_⟩
  · have idles := (Call.evalAll_idles config.maxLoopIterations body run.scope.tick.below
      (.below unmatched)).back_up
    have same : behind.scope =
        (Call.nest nestName body).eval config.maxLoopIterations run.scope := by
      rw [scope, place, collected]
      rfl
    rw [same]
    exact idles
  · intro n lt positive mid next reached stepped
    obtain ⟨mid', reached', kept⟩ := above n lt positive
    obtain rfl := Progress.running.inj (reached.symm.trans reached')
    exact finds_nothing_above ((advance_of_running running).trans reached) kept unmatched stepped

end Run

namespace Call

/-- Missing structure is not an error. A built program that is run over no siblings finishes. No
instruction finds anything: no step matches, and no loop begins an iteration; loops and conditions
go on behind their bodies. The collector is changed by the peeks outside of loops and of bodies that
a predicate guards, and by nothing else, and as many misses are counted as there are steps
outside. In any built program, over any siblings, the same holds of the body of a nest, wherever
it stands, if no node was found last where a run comes to it. That is so behind calls whose last try
was in vain. -/
theorem missing_structure_is_inert {calls : List (Call Unit γ)} {name : Option String}
    {program : Program γ} (built : (addAllTo calls (.root name)).build = .ok program)
    (config : Config) (collector : γ) :
    let begun := Run.start program [] collector
    (∃ count ended, begun.advance config program count = .finished ended ∧
        begun.scope.Idles (outerAll calls) ended.scope) ∧
      (∀ n mid next, begun.advance config program n = .running mid →
        mid.step config program = .running next →
          Traversal.FindsNothing program.commands mid.traversal next.traversal) ∧
      (∀ (C : Context γ) nestName body rest, calls = C.fill (.nest nestName body :: rest) →
        ∀ siblings count run,
          (Run.start program siblings collector).advance config program count = .running run →
          run.traversal.pc = (C.front 0).length → run.traversal.frame.matched = none →
          let t := run.traversal
          ∃ taken behind, run.advance config program taken = .running behind ∧
            behind.traversal.pc = t.pc + ((nest nestName body).numbered 0).commands.length ∧
            behind.traversal.saved = t.saved ∧ behind.traversal.loops = t.loops ∧
            run.scope.Idles (outerAll body) behind.scope ∧
            ∀ n < taken, 0 < n → ∀ mid next, run.advance config program n = .running mid →
              mid.step config program = .running next →
                Traversal.FindsNothing program.commands mid.traversal next.traversal) ∧
      ∀ (C : Context γ) first tried nestName body rest,
        calls = C.fill (first :: tried ++ .nest nestName body :: rest) →
        ∀ siblings count run,
          (Run.start program siblings collector).advance config program count = .running run →
          run.traversal.pc = ((C.past (first :: tried)).front 0).length →
          ∃ before taken came, before + taken = count ∧
            (Run.start program siblings collector).advance config program before = .running came ∧
            came.advance config program taken = .running run ∧
            came.traversal.pc = (C.front 0).length ∧
            ((triesAll config.maxLoopIterations (first :: tried) came.scope).getLast? = some none →
              run.traversal.frame.matched = none) := by
  intro begun
  refine ⟨Run.idles_through built config collector, fun n mid next => Run.finds_nothing, ?_, ?_⟩
  · rintro C nestName body rest rfl siblings count run running here unmatched
    exact Run.idles_past_nest built running here unmatched
  · rintro C first tried nestName body rest rfl siblings count run running here
    rw [C.front_past, List.length_append, length_commandsOf_numberedAll (C.number 0) 0] at here
    obtain ⟨before, taken, came, sum, enters, through, start, -, -, matched⟩ :=
      matched_behind built (by simp) running here
    refine ⟨before, taken, came, sum, enters, through, start, fun vain => ?_⟩
    rw [matched, lastFound, vain]
    rfl

/-- A nest with all kinds of blocks, in a program that is run over no siblings, and over one that
the first step matches and the step before the nest does not. -/
theorem missing_structure_is_inert_nested :
    let body : List (Call Unit (List Nat)) :=
      [.peek (· ++ [1]), .stepIf [.any] (.plain "b" [.any]), .loop () [.any] [.peek (· ++ [2])],
        .choice () [.any] [.peek (· ++ [3])] [.step (.plain "i" [.any]), .peek (· ++ [4])]]
    let C : Context (List Nat) := .here [.step (.plain "div" [.any])] [.peek (· ++ [5])]
    let tried : Call Unit (List Nat) := .step (.plain "p" [.any])
    let calls := C.fill [tried, .nest none body]
    let program : Program (List Nat) := ⟨none, commandsOf (numberedAll 0 calls)⟩
    let siblings : List Node := [.element "div" .empty [.element "i" .empty []]]
    (addAllTo calls (.root none)).build = .ok program ∧
      (∃ count ended, (Run.start program [] []).advance .default program count =
          .finished ended ∧
        ended.collector = [1, 4, 5] ∧ ended.traversal.stats.stepsMatched = 0 ∧
        ended.traversal.stats.stepsMissed = 3 ∧ ended.traversal.stats.loopIterations = 0) ∧
      ∃ run taken behind,
        (Run.start program siblings []).advance .default program 2 = .running run ∧
        run.traversal.pc = ((C.past [tried]).front 0).length ∧
        run.traversal.stats.stepsMatched = 1 ∧
        run.advance .default program taken = .running behind ∧
        behind.collector = [1, 4] ∧ behind.traversal.stats.stepsMatched = 1 ∧
        behind.traversal.stats.stepsMissed = 2 := by
  intro body C tried calls program siblings
  have built : (addAllTo calls (.root none)).build = .ok program := rfl
  obtain ⟨⟨count, ended, finished, idles⟩, -, nests, misses⟩ :=
    missing_structure_is_inert built .default []
  have running : (Run.start program siblings []).advance .default program 2 = .running _ := rfl
  obtain ⟨before, taken, came, sum, enters, through, there, vain⟩ :=
    misses C tried [] none body [] rfl siblings 2 _ running rfl
  have unmatched := vain ?_
  · obtain ⟨taken, behind, through, -, -, -, idles', -⟩ :=
      nests (C.past [tried]) none body [] rfl siblings 2 _ running rfl unmatched
    exact ⟨built, ⟨count, ended, finished, idles.collector, idles.stepsMatched, idles.stepsMissed,
      idles.loopIterations⟩, _, taken, behind, running, rfl, rfl, through, idles'.collector,
      idles'.stepsMatched, idles'.stepsMissed⟩
  -- The run comes to the step that finds nothing after one instruction.
  obtain rfl | rfl | rfl : before = 0 ∨ before = 1 ∨ before = 2 := by omega
  · obtain rfl := Progress.running.inj enters
    exact absurd there (by decide)
  · obtain rfl := Progress.running.inj enters
    rfl
  · obtain rfl := Progress.running.inj enters
    exact absurd there (by decide)

end Call

end Gleaner
