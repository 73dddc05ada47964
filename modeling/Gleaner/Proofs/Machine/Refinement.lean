import Gleaner.Proofs.Machine.Scope
import Gleaner.Proofs.Program.Compile

/-! # Runs do what calls mean

A block of instructions laid out from calls does what the calls mean, wherever in a program it
stands and whatever scopes and loops are around it. What the calls need for that is that no loop
or condition has the number of one around it: then every search for a marker from within a block
finds the marker of that block. -/

namespace Gleaner

variable {γ : Type}

/-- Where a run is that has come to a position of the program with a scope. -/
def Scope.place (s : Scope γ) (pc : Nat) (saved : List Frame) (loops : List LoopEntry) :
    Traversal :=
  ⟨pc, s.frame, saved, loops, s.stats⟩

section

variable (s : Scope γ) (pc : Nat) (saved : List Frame) (loops : List LoopEntry)

@[simp] theorem Scope.place_pc : (s.place pc saved loops).pc = pc := rfl
@[simp] theorem Scope.place_frame : (s.place pc saved loops).frame = s.frame := rfl
@[simp] theorem Scope.place_loops : (s.place pc saved loops).loops = loops := rfl

end

namespace Command

/-- The number of the loop that an instruction begins or ends. -/
def loopId? : Command γ → Option Nat
  | beginLoop id _ | endLoop id => some id
  | _ => none

/-- The number of the condition of which an instruction ends a body. -/
def branchId? : Command γ → Option Nat
  | elseCondition id | endCondition id => some id
  | _ => none

/-- Whether no search for a marker of the given loops and conditions stops at an instruction. -/
def Avoids (loops conditions : List Nat) (command : Command γ) : Prop :=
  (∀ id ∈ loops, command.loopId? ≠ some id) ∧ ∀ id ∈ conditions, command.branchId? ≠ some id

variable {loops conditions : List Nat} {id : Nat} {command : Command γ}

theorem isBeginLoop_eq_false (other : command.loopId? ≠ some id) :
    command.isBeginLoop id = false := by
  cases command <;> simp_all [loopId?, isBeginLoop]

theorem isEndLoop_eq_false (other : command.loopId? ≠ some id) :
    command.isEndLoop id = false := by
  cases command <;> simp_all [loopId?, isEndLoop]

theorem isBranchEnd_eq_false (other : command.branchId? ≠ some id) :
    command.isBranchEnd id = false := by
  cases command <;> simp_all [branchId?, isBranchEnd]

theorem isEndCondition_eq_false (other : command.branchId? ≠ some id) :
    command.isEndCondition id = false := by
  cases command <;> simp_all [branchId?, isEndCondition]

theorem Avoids.of_loop (avoids : command.Avoids (id :: loops) conditions) :
    command.Avoids loops conditions :=
  ⟨fun other around => avoids.1 other (List.mem_cons_of_mem _ around), avoids.2⟩

theorem Avoids.of_condition (avoids : command.Avoids loops (id :: conditions)) :
    command.Avoids loops conditions :=
  ⟨avoids.1, fun other around => avoids.2 other (List.mem_cons_of_mem _ around)⟩

theorem avoids_of_loopId?_eq (marks : command.loopId? = some id) (fresh : id ∉ loops)
    (straight : command.branchId? = none) : command.Avoids loops conditions := by
  refine ⟨?_, by simp [straight]⟩
  rintro other around same
  obtain rfl : id = other := by simpa [marks] using same
  exact fresh around

theorem avoids_of_branchId?_eq (marks : command.branchId? = some id) (fresh : id ∉ conditions)
    (straight : command.loopId? = none) : command.Avoids loops conditions := by
  refine ⟨by simp [straight], ?_⟩
  rintro other around same
  obtain rfl : id = other := by simpa [marks] using same
  exact fresh around

theorem avoids_of_eq_none (loopless : command.loopId? = none)
    (straight : command.branchId? = none) : command.Avoids loops conditions := by
  simp [Avoids, loopless, straight]

end Command

namespace Call

mutual

/-- Inside loops and conditions there is no marker with one of their numbers. -/
theorem avoids_of_apart (loops conditions : List Nat) :
    (call : Call Nat γ) → call.Apart loops conditions →
      ∀ command ∈ call.commands, command.Avoids loops conditions
  | step _, _ | stepIf _ _, _ | peek _, _ | breakpoint, _ => by
    simpa [commands] using Command.avoids_of_eq_none rfl rfl
  | nest _ body, apart => by
    have inside := avoids_of_apartAll loops conditions body apart
    simpa [commands, or_imp, forall_and] using
      ⟨Command.avoids_of_eq_none rfl rfl, inside, Command.avoids_of_eq_none rfl rfl⟩
  | loop id predicate body, ⟨fresh, apart⟩ => by
    have inside := avoids_of_apartAll (id :: loops) conditions body apart
    simpa [commands, or_imp, forall_and] using
      ⟨Command.avoids_of_loopId?_eq rfl fresh rfl,
        fun command within => (inside command within).of_loop,
        Command.avoids_of_loopId?_eq rfl fresh rfl⟩
  | guard id predicate body, ⟨fresh, apart⟩ => by
    have inside := avoids_of_apartAll loops (id :: conditions) body apart
    simpa [commands, or_imp, forall_and] using
      ⟨Command.avoids_of_eq_none rfl rfl,
        fun command within => (inside command within).of_condition,
        Command.avoids_of_branchId?_eq rfl fresh rfl⟩
  | choice id predicate body otherwise, ⟨fresh, apart, apart'⟩ => by
    have inside := avoids_of_apartAll loops (id :: conditions) body apart
    have inside' := avoids_of_apartAll loops (id :: conditions) otherwise apart'
    simpa [commands, or_imp, forall_and] using
      ⟨Command.avoids_of_eq_none rfl rfl,
        fun command within => (inside command within).of_condition,
        Command.avoids_of_branchId?_eq rfl fresh rfl,
        fun command within => (inside' command within).of_condition,
        Command.avoids_of_branchId?_eq rfl fresh rfl⟩

theorem avoids_of_apartAll (loops conditions : List Nat) :
    (calls : List (Call Nat γ)) → ApartAll loops conditions calls →
      ∀ command ∈ commandsOf calls, command.Avoids loops conditions
  | [], _ => by simp [commandsOf]
  | call :: rest, ⟨apart, apart'⟩ => by
    have first := avoids_of_apart loops conditions call apart
    have others := avoids_of_apartAll loops conditions rest apart'
    simpa [commandsOf, or_imp, forall_and] using ⟨first, others⟩

end

end Call

/-! ## Markers -/

namespace Leads

variable {config : Config} {program : Program γ} {id done start target pc : Nat}
  {predicate : List Matchable} {s : Scope γ} {saved : List Frame}
  {entered loops : List LoopEntry}

/-- A condition goes into its body if the next sibling meets the predicate. -/
theorem into_body
    (begins : program.commands[pc]? = some (.beginCondition id predicate))
    (meets : s.frame.nextMeets predicate = true) :
    Leads config program (s.place pc saved loops) s.collector
      (s.tick.place (pc + 1) saved loops) s.collector := by
  refine .still begins ?_ rfl
  simp only [Traversal.execute, Traversal.countCommand_frame, Scope.place_frame, meets]
  rfl

/-- A condition goes on behind its body if the next sibling does not meet the predicate. -/
theorem past_body
    (begins : program.commands[pc]? = some (.beginCondition id predicate))
    (misses : s.frame.nextMeets predicate = false)
    (found : Command.findForward program.commands (pc + 1) (Command.isBranchEnd id) =
      some target) :
    Leads config program (s.place pc saved loops) s.collector
      (s.tick.forget.place (target + 1) saved loops) s.collector := by
  refine .still begins ?_ rfl
  simp only [Traversal.execute, Traversal.countCommand_frame, Scope.place_frame, misses]
  exact Traversal.skipPast_of_found _ _ found

/-- A loop goes into its body if it is not spent and the next sibling meets the predicate. -/
theorem into_loop (begins : program.commands[pc]? = some (.beginLoop id predicate))
    (resumed : (s.place pc saved entered).resume id = (⟨id, done, start⟩, loops))
    (going : ¬(config.maxLoopIterations.any (· ≤ done) || !s.frame.nextMeets predicate)) :
    Leads config program (s.place pc saved entered) s.collector
      (s.tick.again.place (pc + 1) saved (⟨id, done, start⟩ :: loops)) s.collector := by
  refine .still begins ?_ rfl
  have resumed : (s.place pc saved entered).countCommand.resume id = (⟨id, done, start⟩, loops) :=
    resumed
  obtain ⟨unspent, meets⟩ := Scope.goes_on_iff.mp going
  simp only [Traversal.execute, Traversal.beginLoop, resumed, LoopEntry.isSpent, unspent,
    Traversal.countCommand_frame, Scope.place_frame, meets]
  rfl

/-- A loop goes on behind its body if it is spent or the predicate does not hold. -/
theorem past_loop (begins : program.commands[pc]? = some (.beginLoop id predicate))
    (resumed : (s.place pc saved entered).resume id = (⟨id, done, start⟩, loops))
    (spent : config.maxLoopIterations.any (· ≤ done) || !s.frame.nextMeets predicate)
    (found : Command.findForward program.commands (pc + 1) (Command.isEndLoop id) =
      some target) :
    Leads config program (s.place pc saved entered) s.collector
      (s.tick.place (target + 1) saved loops) s.collector := by
  refine .still begins ?_ rfl
  have resumed : (s.place pc saved entered).countCommand.resume id = (⟨id, done, start⟩, loops) :=
    resumed
  have stops : (!config.maxLoopIterations.any (fun most => decide (most ≤ done)) &&
      s.frame.nextMeets predicate) = false := by
    rw [← Bool.not_eq_true', Bool.not_and, Bool.not_not]
    exact spent
  simp only [Traversal.execute, Traversal.beginLoop, resumed, LoopEntry.isSpent,
    Traversal.countCommand_frame, Scope.place_frame, stops]
  exact Traversal.skipPast_of_found _ _ found

/-- At its end, a loop that has used up a sibling goes back to its beginning. -/
theorem turn_back (ends : program.commands[pc]? = some (.endLoop id))
    (moved : s.frame.index ≠ start)
    (found : Command.findBackward program.commands pc (Command.isBeginLoop id) = some target) :
    Leads config program (s.place pc saved (⟨id, done, start⟩ :: loops)) s.collector
      (s.tick.place target saved (⟨id, done + 1, s.frame.index⟩ :: loops)) s.collector := by
  refine .still ends ?_ rfl
  simp only [Traversal.execute, Traversal.endLoop, Traversal.countCommand_loops,
    Scope.place_loops, ne_eq, not_true_eq_false, if_false, Traversal.countCommand_frame,
    Scope.place_frame, moved, Traversal.countCommand_pc, Scope.place_pc, found]
  rfl

/-- At its end, a loop that has used up no sibling is left. -/
theorem give_up (ends : program.commands[pc]? = some (.endLoop id))
    (idle : s.frame.index = start) :
    Leads config program (s.place pc saved (⟨id, done, start⟩ :: loops)) s.collector
      (s.tick.place (pc + 1) saved loops) s.collector := by
  refine .still ends ?_ rfl
  simp only [Traversal.execute, Traversal.endLoop, Traversal.countCommand_loops,
    Scope.place_loops, ne_eq, not_true_eq_false, if_false, Traversal.countCommand_frame,
    Scope.place_frame, idle, if_true]
  rfl

end Leads

/-! ## Blocks -/

/-- What a block of instructions does, wherever it stands in the program, with loops of the given
numbers around it. -/
def Does (config : Config) (program : Program γ) (around : List Nat) (block : List (Command γ))
    (effect : Scope γ → Scope γ) : Prop :=
  ∀ front back, program.commands = front ++ (block ++ back) →
    ∀ (saved : List Frame) (loops : List LoopEntry), loops.map LoopEntry.id = around →
      ∀ s : Scope γ,
        Leads config program (s.place front.length saved loops) s.collector
          ((effect s).place (front.length + block.length) saved loops) (effect s).collector

namespace Does

variable {config : Config} {program : Program γ} {around : List Nat}

theorem nil : Does config program around [] id :=
  fun _ _ _ _ _ _ s => .refl _ s.collector

theorem append {first second : List (Command γ)} {effect effect' : Scope γ → Scope γ}
    (does : Does config program around first effect)
    (does' : Does config program around second effect') :
    Does config program around (first ++ second) (effect' ∘ effect) := by
  intro front back split saved loops outer s
  have through := does front (second ++ back) (by simp [split]) saved loops outer s
  have through' := does' (front ++ first) back (by simp [split]) saved loops outer (effect s)
  rw [List.length_append] at through'
  rw [List.length_append, ← Nat.add_assoc]
  exact through.trans through'

/-- An instruction that goes on to the one behind it. -/
theorem single {command : Command γ} {effect : Scope γ → Scope γ}
    (executes : ∀ (s : Scope γ) pc saved loops,
      (s.place pc saved loops).countCommand.execute config.maxLoopIterations program.commands
        command = .ok ((effect s).place (pc + 1) saved loops))
    (collects : ∀ s : Scope γ, command.effect s.frame s.collector = (effect s).collector) :
    Does config program around [command] effect := by
  intro front back split saved loops _ s
  have here : program.commands[front.length]? = some command := by simp [split]
  rw [← collects s]
  exact .step here (executes s front.length saved loops)

theorem take_place (spec : ElementSpec γ) (s : Scope γ) (pc : Nat) (saved : List Frame)
    (loops : List LoopEntry) :
    ((s.place pc saved loops).countCommand.take spec).advance =
      (s.tick.take spec).place (pc + 1) saved loops := by
  cases found : s.frame.find? spec <;>
    simp [Traversal.take, Scope.take, Scope.place, Scope.tick, Traversal.countCommand,
      Traversal.advance, found]

theorem taken_eq (spec : ElementSpec γ) (s : Scope γ) :
    Command.effect.taken s.frame spec s.collector = (s.tick.take spec).collector := by
  cases found : s.frame.find? spec <;>
    simp [Command.effect.taken, Scope.take, Scope.tick, found]

theorem step (spec : ElementSpec γ) :
    Does config program around [.step spec] fun s => s.tick.take spec := by
  refine single (fun s pc saved loops => ?_) (taken_eq spec)
  rw [Traversal.execute, take_place]

theorem stepIf (predicate : List Matchable) (spec : ElementSpec γ) :
    Does config program around [.stepIf predicate spec] fun s =>
      if s.frame.nextMeets predicate then s.tick.take spec else s.tick.forget := by
  refine single (fun s pc saved loops => ?_) (fun s => ?_)
  · by_cases meets : s.frame.nextMeets predicate
    · simp [Traversal.execute, meets, take_place]
    · simp only [Traversal.execute, Traversal.countCommand_frame, Scope.place_frame, meets]
      rfl
  · by_cases meets : s.frame.nextMeets predicate
    · simp [Command.effect, meets, taken_eq]
    · simp only [Command.effect, meets]
      rfl

theorem peek (f : γ → γ) :
    Does config program around [.peek f] fun s => { s.tick with collector := f s.collector } :=
  single (fun _ _ _ _ => rfl) (fun _ => rfl)

theorem breakpoint : Does config program around [.breakpoint] Scope.tick :=
  single (fun _ _ _ _ => rfl) (fun _ => rfl)

/-- The same, with the position at which the block stands. -/
theorem leads {block : List (Command γ)} {effect : Scope γ → Scope γ}
    (does : Does config program around block effect) (front back : List (Command γ))
    (split : program.commands = front ++ (block ++ back)) (pc : Nat) (stands : front.length = pc)
    (saved : List Frame) (loops : List LoopEntry) (outer : loops.map LoopEntry.id = around)
    (s : Scope γ) :
    Leads config program (s.place pc saved loops) s.collector
      ((effect s).place (pc + block.length) saved loops) (effect s).collector := by
  subst stands
  exact does front back split saved loops outer s

theorem nest {name : Option String} {body : List (Command γ)} {effect : Scope γ → Scope γ}
    (does : Does config program around body effect) :
    Does config program around (.push name :: (body ++ [.pop])) fun s =>
      { (effect s.tick.below).tick with frame := s.frame } := by
  intro front back split saved loops outer s
  have enters : program.commands[front.length]? = some (.push name) := by simp [split]
  have leaves : program.commands[front.length + 1 + body.length]? = some .pop :=
    Command.getElem?_of_split (front ++ .push name :: body) back (by simp [split])
      (by simp; omega)
  have behind : front.length + (Command.push name :: (body ++ [.pop])).length =
      front.length + 1 + body.length + 1 := by
    simp
    omega
  have down : Leads config program (s.place front.length saved loops) s.collector
      (s.tick.below.place (front.length + 1) (s.frame :: saved) loops) s.collector :=
    .still enters rfl rfl
  have through := does.leads (front ++ [.push name]) (.pop :: back) (by simp [split])
    (front.length + 1) (by simp) (s.frame :: saved) loops outer s.tick.below
  rw [behind]
  exact (down.trans through).trans (.still leaves rfl rfl)

theorem guard {id : Nat} {predicate : List Matchable} {body : List (Command γ)}
    {effect : Scope γ → Scope γ} (does : Does config program around body effect)
    (absent : ∀ command ∈ body, command.branchId? ≠ some id) :
    Does config program around (.beginCondition id predicate :: (body ++ [.endCondition id]))
      fun s => if s.frame.nextMeets predicate then (effect s.tick).tick else s.tick.forget := by
  intro front back split saved loops outer s
  have begins : program.commands[front.length]? = some (.beginCondition id predicate) := by
    simp [split]
  have ends : program.commands[front.length + 1 + body.length]? = some (.endCondition id) :=
    Command.getElem?_of_split (front ++ .beginCondition id predicate :: body) back
      (by simp [split]) (by simp; omega)
  have behind : front.length +
      (Command.beginCondition id predicate :: (body ++ [.endCondition id])).length =
        front.length + 1 + body.length + 1 := by
    simp
    omega
  rw [behind]
  cases meets : s.frame.nextMeets predicate with
  | true =>
    simp only [meets, if_true]
    have through := does.leads (front ++ [.beginCondition id predicate])
      (.endCondition id :: back) (by simp [split]) (front.length + 1) (by simp) saved loops outer
      s.tick
    exact ((Leads.into_body begins meets).trans through).trans (.still ends rfl rfl)
  | false =>
    simp only [meets, Bool.false_eq_true, if_false]
    have found : Command.findForward program.commands (front.length + 1)
        (Command.isBranchEnd id) = some (front.length + 1 + body.length) :=
      Command.findForward_block (.beginCondition id predicate) (.endCondition id)
        (fun c inside => Command.isBranchEnd_eq_false (absent c inside))
        (by simp [Command.isBranchEnd]) front back (by simp [split]) rfl
    exact Leads.past_body begins meets found

theorem choice {id : Nat} {predicate : List Matchable} {body otherwise : List (Command γ)}
    {effect effect' : Scope γ → Scope γ} (does : Does config program around body effect)
    (does' : Does config program around otherwise effect')
    (absent : ∀ command ∈ body, command.branchId? ≠ some id)
    (absent' : ∀ command ∈ otherwise, command.branchId? ≠ some id) :
    Does config program around
      (.beginCondition id predicate ::
        (body ++ .elseCondition id :: (otherwise ++ [.endCondition id])))
      fun s => if s.frame.nextMeets predicate then (effect s.tick).tick
        else (effect' s.tick.forget).tick := by
  intro front back split saved loops outer s
  obtain ⟨turn, turn_eq⟩ : ∃ turn, turn = front.length + 1 + body.length := ⟨_, rfl⟩
  have turn_stands : (front ++ .beginCondition id predicate :: body).length = turn := by
    simp [turn_eq]
    omega
  have begins : program.commands[front.length]? = some (.beginCondition id predicate) := by
    simp [split]
  have turns : program.commands[turn]? = some (.elseCondition id) :=
    Command.getElem?_of_split _ (otherwise ++ .endCondition id :: back) (by simp [split])
      turn_stands
  have ends : program.commands[turn + 1 + otherwise.length]? = some (.endCondition id) :=
    Command.getElem?_of_split
      (front ++ .beginCondition id predicate :: (body ++ .elseCondition id :: otherwise)) back
      (by simp [split]) (by simp [turn_eq]; omega)
  have behind : front.length + (Command.beginCondition id predicate ::
      (body ++ .elseCondition id :: (otherwise ++ [.endCondition id]))).length =
        turn + 1 + otherwise.length + 1 := by
    simp [turn_eq]
    omega
  rw [behind]
  cases meets : s.frame.nextMeets predicate with
  | true =>
    simp only [meets, if_true]
    have through := does.leads (front ++ [.beginCondition id predicate])
      (.elseCondition id :: (otherwise ++ .endCondition id :: back)) (by simp [split])
      (front.length + 1) (by simp) saved loops outer s.tick
    rw [← turn_eq] at through
    have found : Command.findForward program.commands (turn + 1) (Command.isEndCondition id) =
        some (turn + 1 + otherwise.length) :=
      Command.findForward_block (.elseCondition id) (.endCondition id)
        (fun c inside => Command.isEndCondition_eq_false (absent' c inside))
        (by simp [Command.isEndCondition]) (front ++ .beginCondition id predicate :: body) back
        (by simp [split]) turn_stands
    refine ((Leads.into_body begins meets).trans through).trans (.still turns ?_ rfl)
    exact Traversal.skipPast_of_found _ _ found
  | false =>
    simp only [meets, Bool.false_eq_true, if_false]
    have found : Command.findForward program.commands (front.length + 1)
        (Command.isBranchEnd id) = some turn := by
      rw [turn_eq]
      exact Command.findForward_block (.beginCondition id predicate) (.elseCondition id)
        (fun c inside => Command.isBranchEnd_eq_false (absent c inside))
        (by simp [Command.isBranchEnd]) front
        (otherwise ++ .endCondition id :: back) (by simp [split]) rfl
    have through := does'.leads
      (front ++ .beginCondition id predicate :: (body ++ [.elseCondition id]))
      (.endCondition id :: back) (by simp [split]) (turn + 1) (by simp [turn_eq]; omega) saved
      loops outer s.tick.forget
    exact ((Leads.past_body begins meets found).trans through).trans (.still ends rfl rfl)

/-- From its beginning on, entered anew or not, a loop repeats its body. The induction is on
the siblings that are left. -/
theorem repeats {id : Nat} {predicate : List Matchable} {body : List (Command γ)}
    {effect : Scope γ → Scope γ} (does : Does config program (id :: around) body effect)
    (ahead : ∀ s : Scope γ, s.frame.Ahead (effect s).frame)
    (absent : ∀ command ∈ body, command.loopId? ≠ some id) (front back : List (Command γ))
    (split : program.commands = front ++ .beginLoop id predicate :: (body ++ .endLoop id :: back))
    (saved : List Frame) (loops : List LoopEntry) (outer : loops.map LoopEntry.id = around)
    (done : Nat) (s : Scope γ) (entered : List LoopEntry)
    (resumed : (s.place front.length saved entered).resume id =
      (⟨id, done, s.frame.index⟩, loops)) :
    let after := s.repeatBody config.maxLoopIterations predicate effect done
    Leads config program (s.place front.length saved entered) s.collector
      (after.place (front.length + 1 + body.length + 1) saved loops) after.collector := by
  have begins : program.commands[front.length]? = some (.beginLoop id predicate) := by
    simp [split]
  have ends : program.commands[front.length + 1 + body.length]? = some (.endLoop id) :=
    Command.getElem?_of_split (front ++ .beginLoop id predicate :: body) back (by simp [split])
      (by simp; omega)
  induction remains : s.frame.remaining using Nat.strongRecOn generalizing done s entered with
  | ind left ih =>
    by_cases spent : config.maxLoopIterations.any (· ≤ done) || !s.frame.nextMeets predicate
    · have found : Command.findForward program.commands (front.length + 1)
          (Command.isEndLoop id) = some (front.length + 1 + body.length) :=
        Command.findForward_block (.beginLoop id predicate) (.endLoop id)
          (fun c inside => Command.isEndLoop_eq_false (absent c inside))
          (by simp [Command.isEndLoop]) front back split rfl
      rw [Scope.repeatBody_eq _ _ ahead, if_pos spent]
      exact Leads.past_loop begins resumed spent found
    rw [Scope.repeatBody_eq _ _ ahead, if_neg spent]
    -- One iteration, up to the end of the loop.
    let after := (effect s.tick.again).tick
    have through : Leads config program _ s.collector
        ((effect s.tick.again).place (front.length + 1 + body.length) saved
          (⟨id, done, s.frame.index⟩ :: loops)) after.collector :=
      (Leads.into_loop begins resumed spent).trans
        (does.leads (front ++ [.beginLoop id predicate]) (.endLoop id :: back) (by simp [split])
          (front.length + 1) (by simp) saved _ (by simp [outer]) s.tick.again)
    by_cases stays : after.frame.index = s.frame.index
    · simp only [after] at stays
      simp only [stays, if_true]
      exact through.trans (Leads.give_up ends stays)
    · have found : Command.findBackward program.commands (front.length + 1 + body.length)
          (Command.isBeginLoop id) = some front.length :=
        Command.findBackward_block
          (fun c inside => Command.isBeginLoop_eq_false (absent c inside))
          (by simp [Command.isBeginLoop]) front (.endLoop id :: back) split
      have fewer : after.frame.remaining < left := by
        have inside := Frame.index_lt_of_nextMeets (Scope.goes_on_iff.mp spent).2
        rw [← remains]
        exact ((ahead s.tick.again).remaining_lt_iff inside).mpr stays
      have rest := ih after.frame.remaining fewer (done + 1) after
        (⟨id, done + 1, after.frame.index⟩ :: loops) (by simp [Traversal.resume, Scope.place]) rfl
      simp only [after] at stays rest
      simp only [stays, if_false]
      exact (through.trans (Leads.turn_back ends stays found)).trans rest

theorem loop {id : Nat} {predicate : List Matchable} {body : List (Command γ)}
    {effect : Scope γ → Scope γ} (does : Does config program (id :: around) body effect)
    (ahead : ∀ s : Scope γ, s.frame.Ahead (effect s).frame)
    (absent : ∀ command ∈ body, command.loopId? ≠ some id) (fresh : id ∉ around) :
    Does config program around (.beginLoop id predicate :: (body ++ [.endLoop id]))
      fun s => s.repeatBody config.maxLoopIterations predicate effect 0 := by
  intro front back split saved loops outer s
  have behind : front.length +
      (Command.beginLoop id predicate :: (body ++ [.endLoop id])).length =
        front.length + 1 + body.length + 1 := by
    simp
    omega
  have resumed : (s.place front.length saved loops).resume id =
      (⟨id, 0, s.frame.index⟩, loops) := by
    cases loops with
    | nil => rfl
    | cons entry outside =>
      have other : entry.id ≠ id := by
        rintro rfl
        apply fresh
        simp [← outer]
      simp [Traversal.resume, Scope.place, other]
  rw [behind]
  exact does.repeats ahead absent front back (by simp [split]) saved loops outer 0 s loops resumed

end Does

namespace Call

variable {config : Config} {program : Program γ}

mutual

/-- The instructions of a call do what the call means. -/
theorem does_eval (loops conditions : List Nat) :
    (call : Call Nat γ) → call.Apart loops conditions →
      Does config program loops call.commands (call.eval config.maxLoopIterations)
  | step spec, _ => .step spec
  | stepIf predicate spec, _ => .stepIf predicate spec
  | peek f, _ => .peek f
  | breakpoint, _ => .breakpoint
  | nest _ body, apart => .nest (does_evalAll loops conditions body apart)
  | loop id _ body, ⟨fresh, apart⟩ => by
    have avoids := avoids_of_apartAll (id :: loops) conditions body apart
    exact .loop (does_evalAll (id :: loops) conditions body apart) (evalAll_ahead _ body)
      (fun command inside => (avoids command inside).1 id (List.mem_cons_self ..)) fresh
  | guard id _ body, ⟨_, apart⟩ => by
    have avoids := avoids_of_apartAll loops (id :: conditions) body apart
    exact .guard (does_evalAll loops (id :: conditions) body apart)
      (fun command inside => (avoids command inside).2 id (List.mem_cons_self ..))
  | choice id _ body otherwise, ⟨_, apart, apart'⟩ => by
    have avoids := avoids_of_apartAll loops (id :: conditions) body apart
    have avoids' := avoids_of_apartAll loops (id :: conditions) otherwise apart'
    exact .choice (does_evalAll loops (id :: conditions) body apart)
      (does_evalAll loops (id :: conditions) otherwise apart')
      (fun command inside => (avoids command inside).2 id (List.mem_cons_self ..))
      (fun command inside => (avoids' command inside).2 id (List.mem_cons_self ..))

theorem does_evalAll (loops conditions : List Nat) :
    (calls : List (Call Nat γ)) → ApartAll loops conditions calls →
      Does config program loops (commandsOf calls) (evalAll config.maxLoopIterations calls)
  | [], _ => .nil
  | call :: rest, ⟨apart, apart'⟩ =>
    (does_eval loops conditions call apart).append (does_evalAll loops conditions rest apart')

end

end Call

/-- A program whose instructions do what an effect says finishes with that effect. -/
theorem Does.finishes {config : Config} {program : Program γ} {effect : Scope γ → Scope γ}
    (does : Does config program [] program.commands effect) (siblings : List Node)
    (collector : γ) :
    let result := effect ⟨.start siblings, .zero, collector⟩
    ∃ count run, (Run.start program siblings collector).advance config program count =
        .finished run ∧
      run.collector = result.collector ∧ run.traversal.stats = result.stats := by
  intro result
  have leads := does [] [] (by simp) [] [] rfl ⟨.start siblings, .zero, collector⟩
  obtain ⟨count, log, finished⟩ := leads.finishes (by simp [Scope.place]) rfl
    [.begins program.name program.commands.length siblings.length]
  exact ⟨count, _, finished, rfl, rfl⟩

namespace Call

/-- A program laid out from calls finishes, with the collector and the counters that the calls
lead to, if no loop or condition has the number of one around it. -/
theorem runs_as_eval (config : Config) (name : Option String) (calls : List (Call Nat γ))
    (apart : ApartAll [] [] calls) (siblings : List Node) (collector : γ) :
    let program : Program γ := ⟨name, commandsOf calls⟩
    let result := evalAll config.maxLoopIterations calls ⟨.start siblings, .zero, collector⟩
    ∃ count run, (Run.start program siblings collector).advance config program count =
        .finished run ∧
      run.collector = result.collector ∧ run.traversal.stats = result.stats :=
  (does_evalAll [] [] calls apart).finishes siblings collector

/-- Two loops with one number, side by side, and a condition with that number in one of them. All
three are entered. -/
theorem runs_as_eval_repeated_numbers :
    let calls : List (Call Nat Nat) :=
      [.loop 0 [.any] [.step (.plain "p" [.any]), .nest none [.guard 0 [.any] [.peek (· + 1)]]],
        .loop 0 [] [.peek (· + 10), .breakpoint]]
    let program : Program Nat := ⟨none, commandsOf calls⟩
    let siblings : List Node :=
      [.element "p" .empty [.text "1"], .element "p" .empty [.text "2"], .element "b" .empty []]
    let result := evalAll (some 2) calls ⟨.start siblings, .zero, 0⟩
    ApartAll [] [] calls ∧
      ∃ count run, (Run.start program siblings 0).advance ⟨false, some 2, false⟩ program count =
          .finished run ∧
        run.collector = result.collector ∧ run.traversal.stats = result.stats := by
  intro calls program siblings result
  have apart : ApartAll [] [] calls := by simp [calls, ApartAll, Apart]
  exact ⟨apart, runs_as_eval ⟨false, some 2, false⟩ none calls apart siblings 0⟩

/-- The same of programs whose closures add to the builders that they are given; the calls are
read as they are made, without numbers. -/
theorem built_runs_as_eval (config : Config) {name : Option String} {calls : List (Call Unit γ)}
    {program : Program γ} (built : (addAllTo calls (.root name)).build = .ok program)
    (siblings : List Node) (collector : γ) :
    let result := evalAll config.maxLoopIterations calls ⟨.start siblings, .zero, collector⟩
    ∃ count run, (Run.start program siblings collector).advance config program count =
        .finished run ∧
      run.collector = result.collector ∧ run.traversal.stats = result.stats := by
  have does : Does config program [] (commandsOf (numberedAll 0 calls))
      (evalAll config.maxLoopIterations (numberedAll 0 calls)) :=
    does_evalAll [] [] _ (apart_numberedAll_zero calls)
  rw [← commands_of_built built, ← evalAll_unmarkedAll, unmarkedAll_numberedAll] at does
  exact does.finishes siblings collector

end Call

end Gleaner
