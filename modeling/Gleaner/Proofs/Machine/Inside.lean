import Gleaner.Proofs.Machine.Balance
import Gleaner.Proofs.Machine.Passage

/-! # Inside a nest

From where a run goes down into a nest to where it comes back up, the frames that it came with stay
where they are, below those of the nest. The text of the program opens the nest around every
instruction in between, and the run has entered what the text opens. -/

namespace Gleaner

variable {γ : Type}

/-! ## The text inside a nest -/

namespace Bracket

variable {opened next : List Bracket}

theorem close_append {bracket : Bracket} (closed : close bracket opened = some next)
    (around : List Bracket) : close bracket (opened ++ around) = some (next ++ around) := by
  rw [close_eq_some] at closed ⊢
  rw [closed, List.cons_append]

/-- An instruction opens and closes the same with more brackets around. -/
theorem read_append {command : Command γ} (reads : read opened command = some next)
    (around : List Bracket) : read (opened ++ around) command = some (next ++ around) := by
  cases command with
  | step _ | stepIf _ _ | peek _ | breakpoint | push _ | beginLoop _ _ | beginCondition _ _ =>
    obtain rfl := Option.some.inj reads
    rfl
  | pop | endLoop _ => exact close_append reads around
  | elseCondition id =>
    obtain ⟨left, closed, rfl⟩ := Option.map_eq_some_iff.mp reads
    exact Option.map_eq_some_iff.mpr ⟨_, close_append closed around, rfl⟩
  | endCondition id =>
    rcases Option.or_eq_some_iff.mp reads with closed | ⟨-, closed⟩
    · exact Option.or_eq_some_iff.mpr (.inl (close_append closed around))
    · obtain rfl := close_eq_some.mp closed
      simp [read, close]

theorem readAll_append_around {commands : List (Command γ)}
    (reads : readAll opened commands = some next) (around : List Bracket) :
    readAll (opened ++ around) commands = some (next ++ around) := by
  induction commands generalizing opened with
  | nil =>
    obtain rfl := Option.some.inj reads
    rfl
  | cons command rest ih =>
    obtain ⟨behind, reads_one, reads_rest⟩ := Option.bind_eq_some_iff.mp reads
    rw [readAll_cons, read_append reads_one around]
    exact ih reads_rest

/-- Everywhere between the two ends of a nest, the nest is open inside what is open around it. -/
theorem openAt_within_nest {commands front body back : List (Command γ)} {name : Option String}
    (split : commands = front ++ .push name :: (body ++ back)) (balanced : Balanced body)
    (opens : openAt commands front.length = some opened) {offset : Nat}
    (le : offset ≤ body.length) :
    ∃ inner, openAt commands (front.length + (offset + 1)) = some (inner ++ nest :: opened) := by
  obtain ⟨inner, inside⟩ := balanced.exists_openAt offset
  refine ⟨inner, ?_⟩
  have before : readAll [] front = some opened := by
    rwa [openAt, split, List.take_left] at opens
  have upto : commands.take (front.length + (offset + 1)) =
      front ++ .push name :: body.take offset := by
    rw [split, List.take_length_add_append, List.take_succ_cons,
      List.take_append_of_le_length le]
  rw [openAt, upto, readAll_append, before]
  exact readAll_append_around inside (nest :: opened)

end Bracket

/-! ## The run inside a nest -/

namespace Traversal

open Command

variable {limit : Option Nat} {commands : List (Command γ)} {t t' : Traversal}

/-- An instruction enters one scope at most, or leaves one. -/
theorem Move.saved_cases (move : Move limit commands t t') :
    t'.saved = t.saved ∨ t'.saved = t.frame :: t.saved ∨ ∃ frame, t.saved = frame :: t'.saved := by
  cases move with
  | enter => exact .inr (.inl rfl)
  | leave here within => exact .inr (.inr ⟨_, within⟩)
  | along | begin | skip | finish | again | branch | join => exact .inl rfl

/-- From within a block that does not begin with a loop, a run does not come back to its first
instruction. -/
theorem Move.first_lt (move : Move limit commands t t') {own : Nat → Prop} {first behind : Nat}
    (owns : Owns commands own first behind)
    (other : ∀ id predicate, commands[first]? ≠ some (.beginLoop id predicate))
    (later : first < t.pc) (before : t.pc < behind) : first < t'.pc := by
  rcases move.pc_cases with next | ⟨target, id, lt, jumped, -, -⟩ |
    ⟨id, predicate, lt, marks, begins⟩
  · omega
  · omega
  · have native : own id := (owns t.pc id marks).mpr ⟨Nat.le_of_lt later, before⟩
    have le := ((owns t'.pc id ⟨_, begins, rfl⟩).mp native).1
    refine Nat.lt_of_le_of_ne le ?_
    rintro rfl
    exact other id predicate begins

/-- On course, a run between the two ends of a nest has more frames saved than at its beginning. -/
theorem OnCourse.saved_lt {front body back : List (Command γ)} {name : Option String}
    (onCourse : OnCourse commands t) (onCourse' : OnCourse commands t')
    (split : commands = front ++ .push name :: (body ++ back)) (balanced : Bracket.Balanced body)
    (here : t.pc = front.length) (later : front.length < t'.pc)
    (before : t'.pc < front.length + (body.length + 2)) : t.saved.length < t'.saved.length := by
  obtain ⟨opened, opens, nests, -⟩ := onCourse
  obtain ⟨opened', opens', nests', -⟩ := onCourse'
  obtain ⟨offset, place⟩ := Nat.exists_eq_add_of_lt later
  rw [here] at opens
  have le : offset ≤ body.length := by omega
  obtain ⟨inner, inside⟩ := Bracket.openAt_within_nest split balanced opens le
  rw [place, Nat.add_assoc, inside] at opens'
  obtain rfl := Option.some.inj opens'
  rw [nests, nests', Bracket.nests_append, Bracket.nests_nest]
  omega

/-- The frames at the bottom stay there as long as more are saved. -/
theorem Move.suffix_saved (move : Move limit commands t t') {frame : Frame} {saved : List Frame}
    (kept : frame :: saved <:+ t.saved) (deep : saved.length < t'.saved.length) :
    frame :: saved <:+ t'.saved := by
  rcases move.saved_cases with same | entered | ⟨left, within⟩
  · rwa [same]
  · rw [entered]
    exact kept.trans (List.suffix_cons ..)
  · rw [within] at kept
    rcases List.suffix_cons_iff.mp kept with whole | kept
    · rw [(List.cons.inj whole).2] at deep
      exact absurd deep (Nat.lt_irrefl _)
    · exact kept

end Traversal

/-- In a built program, the markers with the numbers of a call are among the instructions of that
call. -/
theorem Call.exists_owns_of_built {C : Context γ} {call : Call Unit γ} {rest : List (Call Unit γ)}
    {name : Option String} {program : Program γ}
    (built : (addAllTo (C.fill (call :: rest)) (.root name)).build = .ok program) :
    let block := (call.numbered (C.number 0)).commands
    ∃ own back, program.commands = C.front 0 ++ (block ++ back) ∧
      Command.Owns program.commands own (C.front 0).length
        ((C.front 0).length + block.length) := by
  intro block
  obtain ⟨back, split, earlier, later⟩ := C.exists_back 0 (call :: rest)
  have inside := numbers_numbered (C.number 0) call
  have others := numbers_numberedAll (C.number 0 + call.blocks) rest
  rw [← commands_of_built built, numberedAll, commandsOf, List.append_assoc] at split
  rw [blocksOf] at later
  refine ⟨fun id => C.number 0 ≤ id ∧ id < C.number 0 + call.blocks, _, split, ?_⟩
  refine Command.owns_of_split split (earlier.mono fun id below => by omega) inside ?_
  exact Command.Numbers.append_iff.mpr
    ⟨others.mono fun id between => by omega, later.mono fun id aside => by omega⟩

namespace Run

open Command Traversal

variable {config : Config} {program : Program γ} {siblings : List Node} {collector : γ}
  {count : Nat} {run : Run γ}

/-- A run that goes down into a nest keeps the frames that it came with at the bottom, as long as it
is not behind the nest. -/
theorem suffix_saved_of_nest {front body back : List (Command γ)} {name : Option String}
    {own : Nat → Prop} (never : program.NeverBreaks)
    (whole : Bracket.Balanced program.commands) (balanced : Bracket.Balanced body)
    (split : program.commands = front ++ .push name :: (body ++ back))
    (owns : Owns program.commands own front.length (front.length + (body.length + 2)))
    (running : (start program siblings collector).advance config program count = .running run)
    (here : run.traversal.pc = front.length) {taken : Nat}
    (inside : ∀ n ≤ taken, ∀ mid, run.advance config program n = .running mid →
      mid.traversal.pc < front.length + (body.length + 2)) :
    ∀ n ≤ taken, 0 < n → ∀ mid, run.advance config program n = .running mid →
      front.length < mid.traversal.pc ∧
        run.traversal.frame :: run.traversal.saved <:+ mid.traversal.saved := by
  have pushes : program.commands[front.length]? = some (.push name) := by simp [split]
  have onCourse : ∀ n mid, run.advance config program n = .running mid →
      OnCourse program.commands mid.traversal := by
    intro n mid onward
    exact onCourse_of_neverBreaks whole never ((advance_of_running running).trans onward)
  intro n
  induction n with
  | zero => intro _ positive; exact absurd positive (Nat.lt_irrefl 0)
  | succ n ih =>
    intro le _ mid onward
    obtain ⟨last, reached, stepped⟩ := advance_succ_running onward
    have move := move_of_step (traversal_step stepped)
    have course := onCourse (n + 1) mid onward
    have before := inside (n + 1) le mid onward
    rcases Nat.eq_zero_or_pos n with rfl | positive
    · -- The first instruction goes down into the nest.
      obtain rfl : run = last := by simpa [advance] using reached
      rw [← here] at pushes
      obtain rfl := Progress.running.inj (stepped.symm.trans (step_of_execute pushes rfl))
      exact ⟨by simp [← here, Traversal.advance, Traversal.enter], List.suffix_refl _⟩
    · obtain ⟨later, kept⟩ := ih (Nat.le_of_succ_le le) positive last reached
      have later' := move.first_lt owns (by simp [pushes]) later
        (inside n (Nat.le_of_succ_le le) last reached)
      have deep := (onCourse 0 run rfl).saved_lt course split balanced here later' before
      exact ⟨later', move.suffix_saved kept deep⟩

/-- Where a run comes to a nest, it goes through it as the nest means. In between, the frames that
it came with are at the bottom. -/
theorem passes_nest {C : Context γ} {name nestName : Option String}
    {body rest : List (Call Unit γ)}
    (built : (Call.addAllTo (C.fill (.nest nestName body :: rest)) (.root name)).build =
      .ok program)
    (running : (start program siblings collector).advance config program count = .running run)
    (here : run.traversal.pc = (C.front 0).length) :
    let after := (Call.nest nestName body).eval config.maxLoopIterations run.scope
    ∃ taken behind, run.advance config program taken = .running behind ∧
      behind.traversal =
        after.place ((C.front 0).length + ((Call.nest nestName body).numbered 0).commands.length)
          run.traversal.saved run.traversal.loops ∧
      behind.collector = after.collector ∧
      ∀ n < taken, 0 < n → ∃ mid, run.advance config program n = .running mid ∧
        run.traversal.frame :: run.traversal.saved <:+ mid.traversal.saved := by
  intro after
  obtain ⟨own, back, split, owns⟩ := Call.exists_owns_of_built built
  have straight := Call.ne_beginLoop (by simp) split
  have below := loops_below C split running here (by rwa [here])
  -- The nest is gone through in the program that ends behind it, where no run goes further.
  let short : Program γ :=
    ⟨none, C.front 0 ++ ((Call.nest nestName body).numbered (C.number 0)).commands⟩
  have longer : program.commands = short.commands ++ back := by simp [short, split]
  have laid_out : short.commands = C.front 0 ++
      (Call.commandsOf (Call.numberedAll (C.number 0) [Call.nest nestName body]) ++ []) := by
    simp [short, Call.numberedAll]
  obtain ⟨taken, behind, alone, place, collected⟩ := goes_through config laid_out here below
  have onward : ∀ n < taken, ∃ mid, run.advance config program n = .running mid ∧
      mid.traversal.pc < short.commands.length := by
    intro n lt
    obtain ⟨mid, next, reached, stepped⟩ := exists_step_of_lt alone lt
    obtain ⟨command, there, -⟩ := execute_of_step (traversal_step stepped)
    exact ⟨mid, advance_append longer reached, (List.getElem?_eq_some_iff.mp there).1⟩
  refine ⟨taken, behind, advance_append longer alone, ?_, collected, ?_⟩
  · simpa [Call.evalAll, Call.numberedAll, Call.length_commands_numbered 0 (C.number 0)] using place
  intro n lt positive
  obtain ⟨mid, reached, -⟩ := onward n lt
  refine ⟨mid, reached, ?_⟩
  simp only [Call.numbered, Call.commands, List.cons_append, List.append_assoc,
    List.length_cons, List.length_append, List.length_nil] at split owns
  have before : ∀ k < taken, ∀ mid, run.advance config program k = .running mid →
      mid.traversal.pc < (C.front 0).length +
        ((Call.commandsOf (Call.numberedAll (C.number 0) body)).length + 2) := by
    intro k lt mid reached
    obtain ⟨mid', reached', inside⟩ := onward k lt
    obtain rfl := Progress.running.inj (reached.symm.trans reached')
    simpa [short, Call.numbered, Call.commands] using inside
  have kept := suffix_saved_of_nest (Call.neverBreaks_of_built built)
    (Call.balanced_of_built built) (Call.balanced_commandsOf _) split owns running here
    (fun k le mid reached => before k (Nat.lt_of_le_of_lt le lt) mid reached)
  exact (kept n (Nat.le_refl n) positive mid reached).2

end Run

end Gleaner
