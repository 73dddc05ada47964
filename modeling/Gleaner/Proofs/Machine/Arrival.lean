import Gleaner.Proofs.Machine.Refinement
import Gleaner.Proofs.Machine.Soundness
import Gleaner.Proofs.Program.Context

/-! # Runs that arrive at a place in a tree of calls

A run comes to the instructions of calls, in whatever scopes and loops, and goes through them as
the calls mean, to come out behind them with the same scopes and loops around. All that is needed
is that the loops around began in front; then none of them has a number of a loop in the calls. -/

namespace Gleaner

variable {γ : Type}

/-- What calls read and change, as a run finds it. -/
def Run.scope (run : Run γ) : Scope γ :=
  ⟨run.traversal.frame, run.traversal.stats, run.collector⟩

namespace Call

mutual

theorem length_commands_numbered (next next' : Nat) :
    (call : Call Unit γ) →
      (call.numbered next).commands.length = (call.numbered next').commands.length
  | step _ | stepIf _ _ | peek _ | breakpoint => rfl
  | nest _ body => by
    simp [numbered, commands, length_commandsOf_numberedAll next next' body]
  | loop _ _ body | guard _ _ body => by
    simp [numbered, commands, length_commandsOf_numberedAll (next + 1) (next' + 1) body]
  | choice _ _ body otherwise => by
    simp [numbered, commands, length_commandsOf_numberedAll (next + 1) (next' + 1) body,
      length_commandsOf_numberedAll (next + 1 + blocksOf body) (next' + 1 + blocksOf body)
        otherwise]

/-- How many instructions calls have does not depend on their numbers. -/
theorem length_commandsOf_numberedAll (next next' : Nat) :
    (calls : List (Call Unit γ)) →
      (commandsOf (numberedAll next calls)).length =
        (commandsOf (numberedAll next' calls)).length
  | [] => rfl
  | call :: rest => by
    simp [numberedAll, commandsOf, length_commands_numbered next next' call,
      length_commandsOf_numberedAll (next + call.blocks) (next' + call.blocks) rest]

end

/-- In a built program, the calls in a hole stand one behind the other. -/
theorem exists_split_of_built {C : Context γ} {call : Call Unit γ} {rest : List (Call Unit γ)}
    {name : Option String} {program : Program γ}
    (built : (addAllTo (C.fill (call :: rest)) (.root name)).build = .ok program) :
    ∃ back, program.commands =
      C.front 0 ++ ((call.numbered (C.number 0)).commands ++
        (commandsOf (numberedAll (C.number 0 + call.blocks) rest) ++ back)) := by
  obtain ⟨back, split, -, -⟩ := C.exists_back 0 (call :: rest)
  refine ⟨back, ?_⟩
  rw [commands_of_built built, split, numberedAll, commandsOf, List.append_assoc]

/-- No call but a loop begins with the beginning of a loop. -/
theorem ne_beginLoop {call : Call Unit γ} (other : ∀ inside body, call ≠ .loop () inside body)
    {commands front back : List (Command γ)} {next : Nat}
    (split : commands = front ++ ((call.numbered next).commands ++ back)) (id : Nat)
    (predicate : List Matchable) :
    commands[front.length]? ≠ some (.beginLoop id predicate) := by
  rw [split, List.getElem?_append_right (Nat.le_refl _), Nat.sub_self]
  cases call with
  | loop mark inside body => exact absurd rfl (other inside body)
  | _ => simp [numbered, Call.commands]

end Call

namespace Traversal

variable {commands front rest : List (Command γ)} {t : Traversal} {places : List Nat} {next : Nat}

/-- Loops that began in the front part of a program have numbers of that part. -/
theorem Placed.loops_below (placed : Placed commands t places) (split : commands = front ++ rest)
    (numbers : Command.Numbers front (· < next)) (before : ∀ place ∈ places, place < front.length) :
    ∀ entry ∈ t.loops, entry.id < next := by
  obtain ⟨begun, -, -⟩ := placed
  generalize t.loops = loops at begun
  induction begun with
  | nil => simp
  | @cons entry place loops places begins _ ih =>
    rw [List.forall_mem_cons] at before ⊢
    obtain ⟨predicate, there⟩ := begins
    rw [split, List.getElem?_append_left before.1] at there
    exact ⟨numbers _ (List.mem_of_getElem? there) entry.id rfl, ih before.2⟩

end Traversal

namespace Run

variable {config : Config} {program : Program γ} {siblings : List Node} {collector : γ}
  {count : Nat} {run : Run γ} {calls : List (Call Unit γ)}

/-- Right behind calls, at the beginning of a nest, a run goes down to the children of the node
found last. -/
theorem enters_nest (run : Run γ) (config : Config) (calls : List (Call Unit γ)) {C : Context γ}
    {name nestName : Option String} {body rest : List (Call Unit γ)}
    (built : (Call.addAllTo (C.fill (calls ++ .nest nestName body :: rest)) (.root name)).build =
      .ok program)
    (here : run.traversal.pc =
      (C.front 0).length + (Call.commandsOf (Call.numberedAll 0 calls)).length) :
    ∃ entered, run.step config program = .running entered ∧
      entered.traversal.frame = run.traversal.frame.below := by
  rw [← C.fill_past] at built
  obtain ⟨back, split⟩ := Call.exists_split_of_built built
  rw [Call.length_commandsOf_numberedAll 0 (C.number 0), ← List.length_append, ← C.front_past]
    at here
  have pushes : program.commands[run.traversal.pc]? = some (.push nestName) :=
    Command.getElem?_of_split _ _ split here.symm
  exact ⟨_, step_of_execute pushes rfl, rfl⟩

/-- Where a run comes to a place that is not the beginning of a loop, its loops have numbers below
those of the place. -/
theorem loops_below (C : Context γ) {rest : List (Command γ)}
    (split : program.commands = C.front 0 ++ rest)
    (running : (start program siblings collector).advance config program count = .running run)
    (here : run.traversal.pc = (C.front 0).length)
    (other : ∀ id predicate,
      program.commands[run.traversal.pc]? ≠ some (.beginLoop id predicate)) :
    ∀ entry ∈ run.traversal.loops, entry.id < C.number 0 := by
  obtain ⟨places, trail⟩ := exists_trail running
  obtain ⟨-, -, numbers, -⟩ := C.exists_back 0 []
  have before := trail.placed.lt_pc fun entry _ predicate => other entry.id predicate
  rw [here] at before
  exact trail.placed.loops_below split numbers before

/-- From the beginning of calls on, a run does what they mean. -/
theorem goes_through (config : Config) {front back : List (Command γ)} {next : Nat}
    (split : program.commands =
      front ++ (Call.commandsOf (Call.numberedAll next calls) ++ back))
    (here : run.traversal.pc = front.length)
    (below : ∀ entry ∈ run.traversal.loops, entry.id < next) :
    let after := Call.evalAll config.maxLoopIterations calls run.scope
    ∃ taken behind, run.advance config program taken = .running behind ∧
      behind.traversal =
        after.place (front.length + (Call.commandsOf (Call.numberedAll next calls)).length)
          run.traversal.saved run.traversal.loops ∧
      behind.collector = after.collector := by
  intro after
  have apart : Call.ApartAll (run.traversal.loops.map LoopEntry.id) []
      (Call.numberedAll next calls) :=
    Call.apart_numberedAll next _ [] (by simpa using below) (by simp) calls
  have does : Does config program _ _ _ := Call.does_evalAll _ [] _ apart
  rw [← Call.evalAll_unmarkedAll, Call.unmarkedAll_numberedAll] at does
  obtain ⟨taken, log, running⟩ :=
    does front back split run.traversal.saved run.traversal.loops rfl run.scope run.log
  rw [← here] at running
  exact ⟨taken, _, running, by rw [here], rfl⟩

/-- Where a run comes to a call that is not a loop, it goes through it as the call means. -/
theorem passes (C : Context γ) {call : Call Unit γ} {back : List (Command γ)}
    (other : ∀ inside body, call ≠ .loop () inside body)
    (split : program.commands =
      C.front 0 ++ ((call.numbered (C.number 0)).commands ++ back))
    (running : (start program siblings collector).advance config program count = .running run)
    (here : run.traversal.pc = (C.front 0).length) :
    let after := call.eval config.maxLoopIterations run.scope
    ∃ taken behind, run.advance config program taken = .running behind ∧
      behind.traversal =
        after.place ((C.front 0).length + (call.numbered 0).commands.length)
          run.traversal.saved run.traversal.loops ∧
      behind.collector = after.collector := by
  have below := loops_below C split running here fun id predicate => by
    rw [here]
    exact Call.ne_beginLoop other split id predicate
  rw [← Call.commandsOf_singleton] at split
  have through := goes_through config
    (show program.commands = C.front 0 ++
      (Call.commandsOf (Call.numberedAll (C.number 0) [call]) ++ back) from split) here below
  simpa [Call.evalAll, Call.numberedAll, Call.length_commands_numbered 0 (C.number 0)] using through

end Run

end Gleaner
