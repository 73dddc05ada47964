import Gleaner.Proofs.Machine.Arrival
import Gleaner.Proofs.Machine.Tally
import Gleaner.Proofs.Program.Mistake

/-! # Conditions written in different ways

A step that is taken if a predicate holds can be written as a condition around the step, and a
condition as one with a second body in which nothing is done. Wherever in a program that is done,
the program has the same first mistake, and does the same in every run, but for the number of
instructions. -/

namespace Gleaner

variable {γ : Type}

/-! ## Effects that differ in the count of instructions -/

namespace Scope

/-- Whether two effects differ in nothing but the count of instructions. -/
def Agree (effect effect' : Scope γ → Scope γ) : Prop :=
  ∀ s s', s.uncounted = s'.uncounted → (effect s).uncounted = (effect' s').uncounted

section

variable {s s' : Scope γ} (same : s.uncounted = s'.uncounted)

include same

theorem frame_eq_of_uncounted : s.frame = s'.frame := by
  have frames : s.uncounted.frame = s'.uncounted.frame := by rw [same]
  exact frames

theorem uncounted_again : s.again.uncounted = s'.again.uncounted := congrArg again same

theorem uncounted_forget : s.forget.uncounted = s'.forget.uncounted := congrArg forget same

theorem uncounted_below : s.below.uncounted = s'.below.uncounted := congrArg below same

theorem uncounted_take (spec : ElementSpec γ) :
    (s.take spec).uncounted = (s'.take spec).uncounted := by
  have alone : ∀ s : Scope γ, (s.take spec).uncounted = s.uncounted.take spec := by
    intro s
    cases found : s.frame.find? spec <;> simp [take, uncounted, found]
  rw [alone, alone, same]

end

theorem Tallies.agree {effect : Scope γ → Scope γ} (tallies : Tallies effect) :
    Agree effect effect := by
  intro s s' same
  rw [tallies.uncounted_eq s, same, ← tallies.uncounted_eq s']

theorem repeatBody_agree (limit : Option Nat) (predicate : List Matchable)
    {body body' : Scope γ → Scope γ} (agree : Agree body body') (done : Nat) :
    Agree (fun s => s.repeatBody limit predicate body done)
      fun s => s.repeatBody limit predicate body' done :=
  repeatBody_related (fun s s' => s.uncounted = s'.uncounted) limit predicate
    (fun _ _ => frame_eq_of_uncounted) (fun _ _ same => same) (fun _ _ => uncounted_again) agree
    done

end Scope

open Scope Call

/-- Blocks around bodies that agree, agree. -/
theorem Block.eval_agree (limit : Option Nat) (block : Block γ)
    {inside inside' : List (Call Unit γ)}
    (agree : Agree (evalAll limit inside) (evalAll limit inside')) :
    Agree ((block.around inside).eval limit) ((block.around inside').eval limit) := by
  intro s s' same
  have frames := frame_eq_of_uncounted same
  have within : (evalAll limit inside s.tick).tick.uncounted =
      (evalAll limit inside' s'.tick).tick.uncounted := agree _ _ same
  cases block with
  | nest name =>
    have below := agree s.tick.below s'.tick.below (uncounted_below same)
    simp only [around, eval, frames]
    exact congrArg (fun inner : Scope γ => { inner with frame := s'.frame }) below
  | loop predicate => exact repeatBody_agree limit predicate agree 0 s s' same
  | guard predicate =>
    simp only [around, eval, frames, apply_ite uncounted, within]
    exact congrArg _ (uncounted_forget same)
  | firstBody predicate otherwise =>
    have others := (evalAll_tallies limit otherwise).agree s.tick.forget s'.tick.forget
      (uncounted_forget same)
    simp only [around, eval, frames, apply_ite uncounted, within]
    exact congrArg _ others
  | secondBody predicate body =>
    have first := (evalAll_tallies limit body).agree s.tick s'.tick same
    have second := agree s.tick.forget s'.tick.forget (uncounted_forget same)
    simp only [around, eval, frames, apply_ite uncounted, uncounted_tick, first, second]

/-- Calls that agree can be put for each other in any tree. -/
theorem Context.evalAll_agree (limit : Option Nat) (C : Context γ)
    {calls calls' : List (Call Unit γ)}
    (agree : Agree (evalAll limit calls) (evalAll limit calls')) :
    Agree (evalAll limit (C.fill calls)) (evalAll limit (C.fill calls')) := by
  induction C with
  | here before after =>
    intro s s' same
    simp only [fill, evalAll_append]
    have first := (evalAll_tallies limit before).agree s s' same
    exact (evalAll_tallies limit after).agree _ _ (agree _ _ first)
  | within before block inside after ih =>
    intro s s' same
    simp only [fill, evalAll_append, evalAll]
    have first := (evalAll_tallies limit before).agree s s' same
    exact (evalAll_tallies limit after).agree _ _ (block.eval_agree limit ih _ _ first)

/-! ## One condition, two forms -/

namespace Call

/-- One call is another one, written with blocks. -/
inductive Rephrased : Call Unit γ → Call Unit γ → Prop where
  | single (predicate : List Matchable) (spec : ElementSpec γ) :
      Rephrased (.stepIf predicate spec) (.guard () predicate [.step spec])
  | block (predicate : List Matchable) (body : List (Call Unit γ)) :
      Rephrased (.guard () predicate body) (.choice () predicate body [])

namespace Rephrased

variable {call call' : Call Unit γ} (rephrased : Rephrased call call')

include rephrased

theorem stepsHere_eq : anyStepsHere [call] = anyStepsHere [call'] := by
  cases rephrased <;> simp [anyStepsHere, stepsHere]

theorem firstMistake?_eq (name : Option String) (earlier : List (Call Unit γ)) :
    firstMistake? name earlier [call] = firstMistake? name earlier [call'] := by
  cases rephrased <;>
    simp [firstMistake?_cons, placesOf, places, Place.mistake?]

theorem agree (limit : Option Nat) : Agree (evalAll limit [call]) (evalAll limit [call']) := by
  intro s s' same
  have frames := frame_eq_of_uncounted same
  cases rephrased with
  | single predicate spec =>
    have taken : (s.tick.take spec).uncounted = (s'.tick.tick.take spec).uncounted :=
      uncounted_take (show s.tick.uncounted = s'.tick.tick.uncounted from same) spec
    have skipped : s.tick.forget.uncounted = s'.tick.forget.uncounted := uncounted_forget same
    simp only [evalAll, eval, frames, apply_ite uncounted, uncounted_tick, taken, skipped]
  | block predicate body =>
    have inside := (evalAll_tallies limit body).agree s.tick s'.tick same
    have skipped : s.tick.forget.uncounted = s'.tick.forget.uncounted := uncounted_forget same
    simp only [evalAll, eval, frames, apply_ite uncounted, uncounted_tick, inside, skipped]

/-- Neither form is a loop. -/
theorem ne_loop :
    (∀ inside body, call ≠ .loop () inside body) ∧ ∀ inside body, call' ≠ .loop () inside body := by
  cases rephrased <;> simp

end Rephrased

end Call

namespace Call

/-- A condition can be written in one form or the other anywhere in a program. Both programs can be
built or both have the same first mistake. Over the same siblings, both finish with the same
collector and the same counters, but for that of instructions. If they come to the condition alike,
they leave it alike, so a nest behind it goes down into the same node. -/
theorem rephrased_runs_alike {call call' : Call Unit γ} (rephrased : Rephrased call call')
    (C : Context γ) (name : Option String) :
    let built := (addAllTo (C.fill [call]) (.root name)).build
    let built' := (addAllTo (C.fill [call']) (.root name)).build
    ((∃ program, built = .ok program) ↔ ∃ program, built' = .ok program) ∧
      (∀ mistake, built = .error mistake ↔ built' = .error mistake) ∧
      ∀ program program', built = .ok program → built' = .ok program' →
        ∀ (config : Config) (siblings : List Node) (collector : γ),
          (∃ count count' run run',
            (Run.start program siblings collector).advance config program count = .finished run ∧
              (Run.start program' siblings collector).advance config program' count' =
                .finished run' ∧
              run'.collector = run.collector ∧
              run'.traversal.stats.stepsMatched = run.traversal.stats.stepsMatched ∧
              run'.traversal.stats.stepsMissed = run.traversal.stats.stepsMissed ∧
              run'.traversal.stats.loopIterations = run.traversal.stats.loopIterations) ∧
          ∀ count count' run run',
            (Run.start program siblings collector).advance config program count = .running run →
            (Run.start program' siblings collector).advance config program' count' =
              .running run' →
            run.traversal.pc = (C.front 0).length → run'.traversal.pc = (C.front 0).length →
            run.scope.uncounted = run'.scope.uncounted →
            ∃ taken taken' behind behind',
              run.advance config program taken = .running behind ∧
                run'.advance config program' taken' = .running behind' ∧
                behind.traversal.pc = (C.front 0).length + (call.numbered 0).commands.length ∧
                behind'.traversal.pc = (C.front 0).length + (call'.numbered 0).commands.length ∧
                behind.scope.uncounted = behind'.scope.uncounted := by
  intro built built'
  have mistakes : (addAllTo (C.fill [call]) (.root name)).error =
      (addAllTo (C.fill [call']) (.root name)).error := by
    rw [error_addAllTo_root, error_addAllTo_root]
    exact (C.firstMistake?_fill rephrased.firstMistake?_eq rephrased.stepsHere_eq).1 name []
  refine ⟨?_, ?_, ?_⟩
  · rw [Builder.exists_build_eq_ok, Builder.exists_build_eq_ok, mistakes]
  · intro mistake
    rw [Builder.build_eq_error, Builder.build_eq_error, mistakes]
  intro program program' built built' config siblings collector
  refine ⟨?_, ?_⟩
  · obtain ⟨count, run, finished, collected, counted⟩ :=
      built_runs_as_eval config built siblings collector
    obtain ⟨count', run', finished', collected', counted'⟩ :=
      built_runs_as_eval config built' siblings collector
    have alike := C.evalAll_agree config.maxLoopIterations (rephrased.agree _)
      ⟨.start siblings, .zero, collector⟩ _ rfl
    simp only [uncounted, Scope.mk.injEq, Stats.mk.injEq, true_and] at alike
    obtain ⟨-, ⟨matched, missed, iterations⟩, collectors⟩ := alike
    refine ⟨count, count', run, run', finished, finished', ?_, ?_, ?_, ?_⟩
    · rw [collected, collected', collectors]
    · rw [counted, counted', matched]
    · rw [counted, counted', missed]
    · rw [counted, counted', iterations]
  · intro count count' run run' running running' here here' same
    obtain ⟨back, split⟩ := exists_split_of_built built
    obtain ⟨back', split'⟩ := exists_split_of_built built'
    obtain ⟨taken, behind, reached, place, collected⟩ :=
      Run.passes C rephrased.ne_loop.1 split running here
    obtain ⟨taken', behind', reached', place', collected'⟩ :=
      Run.passes C rephrased.ne_loop.2 split' running' here'
    refine ⟨taken, taken', behind, behind', reached, reached', ?_, ?_, ?_⟩
    · rw [place]
      rfl
    · rw [place']
      rfl
    · rw [Run.scope, Run.scope, place, place', collected, collected']
      exact rephrased.agree _ _ _ same

/-- A step that is taken if there is a sibling, with a nest behind it. -/
theorem rephrased_runs_alike_before_nest :
    let call : Call Unit Nat := .stepIf [.any] (.plain "div" [.any])
    let call' : Call Unit Nat := .guard () [.any] [.step (.plain "div" [.any])]
    let C : Context Nat := .here [] [.nest none [.step (.plain "span" [.any])]]
    let siblings : List Node := [.element "div" .empty [.element "span" .empty [.text "1"]]]
    Rephrased call call' ∧
      ∃ program program', (addAllTo (C.fill [call]) (.root none)).build = .ok program ∧
        (addAllTo (C.fill [call']) (.root none)).build = .ok program' ∧
        ∃ count count' run run',
          (Run.start program siblings 0).advance .default program count = .finished run ∧
            (Run.start program' siblings 0).advance .default program' count' = .finished run' ∧
            run'.collector = run.collector ∧
            run'.traversal.stats.stepsMatched = run.traversal.stats.stepsMatched ∧
            run'.traversal.stats.stepsMissed = run.traversal.stats.stepsMissed ∧
            run'.traversal.stats.loopIterations = run.traversal.stats.loopIterations := by
  intro call call' C siblings
  have rephrased : Rephrased call call' := .single [.any] (.plain "div" [.any])
  have alike := (rephrased_runs_alike rephrased C none).2.2 _ _ rfl rfl .default siblings 0
  exact ⟨rephrased, _, _, rfl, rfl, alike.1⟩

end Call

end Gleaner
