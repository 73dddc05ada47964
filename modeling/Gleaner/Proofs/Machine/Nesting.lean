import Gleaner.Proofs.Machine.Arrival
import Gleaner.Proofs.Machine.Tally
import Gleaner.Proofs.Program.Mistake

/-! # A nest is a run of its own

The body of a nest is compiled with numbers that follow those before it, and runs with the scopes
and loops of its surroundings below its own. All the same it can be built and it runs as a program
of its own does, from its start, over the children of the node found last. The surroundings are as
they were when it is left. -/

namespace Gleaner

variable {γ : Type}

namespace Call

/-- A nest has the effect of its body on a scope of its own, whose counters are added. -/
theorem eval_nest (limit : Option Nat) (name : Option String) (body : List (Call Unit γ))
    (s : Scope γ) :
    let inner := evalAll limit body ⟨s.frame.below, .zero, s.collector⟩
    (nest name body).eval limit s =
      ⟨s.frame,
        ⟨s.stats.commandsExecuted + inner.stats.commandsExecuted + 2,
          s.stats.stepsMatched + inner.stats.stepsMatched,
          s.stats.stepsMissed + inner.stats.stepsMissed,
          s.stats.loopIterations + inner.stats.loopIterations⟩,
        inner.collector⟩ := by
  intro inner
  have entered : s.tick.below =
      (⟨s.frame.below, .zero, s.collector⟩ : Scope γ).raised s.tick.stats := by
    simp [Scope.raised, Stats.zero_add, Scope.below, Scope.tick]
  rw [eval, entered, evalAll_tallies limit body]
  simp [inner, Scope.raised, Scope.tick, Stats.add]
  omega

/-- Apart from the step that must go before it, a nest can be built where its body can be built as
a program. -/
theorem nest_builds_iff (nestName innerName : Option String) (body : List (Call Unit γ))
    (b : Builder γ) :
    (∃ outer, ((nest nestName body).addTo b).build = .ok outer) ↔
      (∃ outer, b.build = .ok outer) ∧ b.hasStep = true ∧
        ∃ inner, (addAllTo body (.root innerName)).build = .ok inner := by
  have inside : (addAllTo body (.startAt nestName b.nextId)).error =
      firstMistake? nestName [] body :=
    (addAllTo_notes body [] (.startAt nestName b.nextId) rfl).1
  simp only [Builder.exists_build_eq_ok, error_addAllTo_root, addTo]
  rw [(b.nestGroup_notes nestName (addAllTo body)).1, inside,
    firstMistake?_eq_none_iff innerName body nestName]
  simp

/-- Wherever a program can be built that has a nest in it, the body of the nest can be built as a
program. -/
theorem exists_inner_of_built {C : Context γ} {rootName nestName : Option String}
    (innerName : Option String) {body rest : List (Call Unit γ)} {program : Program γ}
    (built : (addAllTo (C.fill (.nest nestName body :: rest)) (.root rootName)).build =
      .ok program) :
    ∃ inner, (addAllTo body (.root innerName)).build = .ok inner := by
  have sound : firstMistake? rootName [] (C.fill (.nest nestName body :: rest)) = none := by
    rw [← error_addAllTo_root, ← Builder.exists_build_eq_ok]
    exact ⟨program, built⟩
  obtain ⟨name, earlier, sound⟩ := C.exists_firstMistake?_eq_none _ _ _ sound
  have inside : firstMistake? nestName [] body = none := by
    simp only [firstMistake?_cons, Option.or_eq_none_iff] at sound
    exact sound.2.1
  rw [Builder.exists_build_eq_ok, error_addAllTo_root]
  exact (firstMistake?_eq_none_iff nestName body innerName).mp inside

/-- Wherever a nest stands in a program, it can be built exactly if its body can be built as a
program and a step goes before it. When a run comes to it, it does what that program does, run from
its start over the children of the node found last: it changes the collector alike and adds to the
counters what that program counts, and the two instructions that go down and up. Nothing else is
changed, so a nest right behind it starts at the first of the same children. -/
theorem nest_runs_as_program {C : Context γ} {rootName nestName : Option String}
    (innerName : Option String) {body rest : List (Call Unit γ)} {program : Program γ}
    (built : (addAllTo (C.fill (.nest nestName body :: rest)) (.root rootName)).build =
      .ok program)
    {config : Config} {siblings : List Node} {collector : γ} {count : Nat} {run : Run γ}
    (running : (Run.start program siblings collector).advance config program count = .running run)
    (here : run.traversal.pc = (C.front 0).length) :
    let t := run.traversal
    let children := (t.frame.matched.map Node.children).getD []
    (∀ b : Builder γ, (∃ outer, ((nest nestName body).addTo b).build = .ok outer) ↔
      (∃ outer, b.build = .ok outer) ∧ b.hasStep = true ∧
        ∃ inner, (addAllTo body (.root innerName)).build = .ok inner) ∧
    ∃ inner, (addAllTo body (.root innerName)).build = .ok inner ∧
      ∃ inner_count ended taken behind,
        (Run.start inner children run.collector).advance config inner inner_count =
          .finished ended ∧
        run.advance config program taken = .running behind ∧
        behind.collector = ended.collector ∧
        behind.traversal =
          { t with
            pc := t.pc + (inner.commands.length + 2)
            stats :=
              ⟨t.stats.commandsExecuted + ended.traversal.stats.commandsExecuted + 2,
                t.stats.stepsMatched + ended.traversal.stats.stepsMatched,
                t.stats.stepsMissed + ended.traversal.stats.stepsMissed,
                t.stats.loopIterations + ended.traversal.stats.loopIterations⟩ } ∧
        ∀ nextName nextBody after, rest = .nest nextName nextBody :: after →
          ∃ entered entered', run.step config program = .running entered ∧
            behind.step config program = .running entered' ∧
            entered.traversal.frame = .start children ∧
            entered'.traversal.frame = .start children := by
  intro t children
  refine ⟨nest_builds_iff nestName innerName body, ?_⟩
  obtain ⟨inner, built'⟩ := exists_inner_of_built innerName built
  obtain ⟨inner_count, ended, finished, collected, counted⟩ :=
    built_runs_as_eval config built' children run.collector
  obtain ⟨back, split⟩ := exists_split_of_built built
  obtain ⟨taken, behind, reached, place, collected'⟩ := Run.passes C (by simp) split running here
  have long : ∀ next, ((nest nestName body).numbered next).commands.length =
      inner.commands.length + 2 := by
    intro next
    simp [commands_of_built built', numbered, commands, length_commandsOf_numberedAll next 0]
  rw [eval_nest config.maxLoopIterations nestName body run.scope] at place collected'
  refine ⟨inner, built', inner_count, ended, taken, behind, finished, reached,
    collected'.trans collected.symm, ?_, ?_⟩
  · rw [place, long, ← here, counted]
    rfl
  rintro nextName nextBody after rfl
  obtain ⟨entered, stepped, inside⟩ := run.enters_nest config [] built here
  have here' : behind.traversal.pc =
      (C.front 0).length + (commandsOf (numberedAll 0 [nest nestName body])).length := by
    rw [place, numberedAll, numberedAll, commandsOf_singleton]
    rfl
  obtain ⟨entered', stepped', inside'⟩ := behind.enters_nest config [nest nestName body] built here'
  refine ⟨entered, entered', stepped, stepped', inside, ?_⟩
  rw [inside', place]
  rfl

/-- Two nests one behind the other, each with a step that uses up the only child. -/
theorem nest_runs_as_program_twice :
    let child : Node := .element "span" .empty [.text "1"]
    let nested : Call Unit Nat := .nest none [.step (.plain "span" [.any])]
    let C : Context Nat := .here [.step (.plain "div" [.any])] []
    let program : Program Nat := ⟨none, commandsOf (numberedAll 0 (C.fill [nested, nested]))⟩
    ∃ run, (addAllTo (C.fill [nested, nested]) (.root none)).build = .ok program ∧
      (Run.start program [.element "div" .empty [child]] 0).advance .default program 1 =
        .running run ∧
      run.traversal.pc = (C.front 0).length ∧
      ∃ taken behind entered entered', run.advance .default program taken = .running behind ∧
        run.step .default program = .running entered ∧
        behind.step .default program = .running entered' ∧
        entered.traversal.frame = .start [child] ∧ entered'.traversal.frame = .start [child] := by
  intro child nested C program
  have built : (addAllTo (C.fill [nested, nested]) (.root none)).build = .ok program := rfl
  have running : (Run.start program [.element "div" .empty [child]] 0).advance .default program 1 =
    .running _ := rfl
  refine ⟨_, built, running, rfl, ?_⟩
  obtain ⟨-, -, -, -, -, taken, behind, -, reached, -, -, again⟩ :=
    nest_runs_as_program (C := C) none built running rfl
  obtain ⟨entered, entered', stepped, stepped', inside, inside'⟩ := again none _ [] rfl
  exact ⟨taken, behind, entered, entered', reached, stepped, stepped', inside, inside'⟩

end Call

end Gleaner
