import Gleaner.Proofs.Machine.Arrival

/-! # Every way through a block

The instructions of calls are entered at their beginning only: every jump is between markers of
one number, and those of the calls are all among their own instructions. So a run that has come out
behind calls has come in at their beginning, with none of their loops entered, and has gone through
them once, as they mean. -/

namespace Gleaner

variable {γ : Type}

/-! ## A program that is cut off -/

namespace Command

variable {commands : List (Command γ)} (more : List (Command γ)) {start stop target : Nat}
  {test : Command γ → Bool}

theorem findForward_append (found : findForward commands start test = some target) :
    findForward (commands ++ more) start test = some target := by
  obtain ⟨offset, at_offset, rfl⟩ := Option.map_eq_some_iff.mp found
  rw [findForward, List.drop_append, List.findIdx?_append, at_offset]
  rfl

theorem findBackward_append (inside : stop ≤ commands.length) :
    findBackward (commands ++ more) stop test = findBackward commands stop test := by
  rw [findBackward, List.take_append_of_le_length inside, findBackward]

end Command

namespace Traversal

variable {limit : Option Nat} {commands : List (Command γ)} (more : List (Command γ))
  {t t' : Traversal}

theorem skipPast_append {test : Command γ → Bool} {marker : Marker} {id : Nat}
    (ok : t.skipPast commands test marker id = .ok t') :
    t.skipPast (commands ++ more) test marker id = .ok t' := by
  obtain ⟨target, found, rfl⟩ := skipPast_eq_ok ok
  exact skipPast_of_found marker id (Command.findForward_append more found)

/-- What is carried out without fault in a program is carried out alike where the program goes
on. -/
theorem execute_append {command : Command γ} (inside : t.pc < commands.length)
    (ok : t.execute limit commands command = .ok t') :
    t.execute limit (commands ++ more) command = .ok t' := by
  cases command with
  | step _ | stepIf _ _ | push _ | pop | endCondition _ | peek _ | breakpoint => exact ok
  | beginLoop id predicate =>
    simp only [execute, beginLoop] at ok ⊢
    split at ok
    case isTrue going => rwa [if_pos going]
    case isFalse going =>
      rw [if_neg going]
      exact skipPast_append more ok
  | endLoop id =>
    simp only [execute, endLoop] at ok ⊢
    rwa [Command.findBackward_append more (Nat.le_of_lt inside)]
  | beginCondition id predicate =>
    simp only [execute] at ok ⊢
    split at ok
    case isTrue meets => rwa [if_pos meets]
    case isFalse misses =>
      rw [if_neg misses]
      exact skipPast_append more ok
  | elseCondition id => exact skipPast_append more ok

end Traversal

namespace Run

variable {config : Config} {short program : Program γ} {more : List (Command γ)} {run run' : Run γ}
  {count : Nat}

theorem step_append (longer : program.commands = short.commands ++ more)
    (running : run.step config short = .running run') :
    run.step config program = .running run' := by
  obtain ⟨command, here, ok⟩ := Traversal.execute_of_step (traversal_step running)
  have inside : run.traversal.pc < short.commands.length := (List.getElem?_eq_some_iff.mp here).1
  have here' : program.commands[run.traversal.pc]? = some command := by
    rw [longer, List.getElem?_append_left inside, here]
  have ok' := Traversal.execute_append (t := run.traversal.countCommand) more inside ok
  rw [← longer] at ok'
  rw [step_of_execute here' ok', ← step_of_execute here ok, running]

/-- As long as it goes on, a run goes on alike where the program goes on. -/
theorem advance_append (longer : program.commands = short.commands ++ more)
    (running : run.advance config short count = .running run') :
    run.advance config program count = .running run' := by
  induction count generalizing run' with
  | zero => exact running
  | succ count ih =>
    obtain ⟨before, reached, stepped⟩ := advance_succ_running running
    rw [advance_of_running (ih reached), advance_one]
    exact step_append longer stepped

end Run

/-! ## The ways into a block -/

namespace Command

/-- Whether an instruction of a program is a marker of a number. -/
def Marks (commands : List (Command γ)) (pc id : Nat) : Prop :=
  ∃ command, commands[pc]? = some command ∧ command.number? = some id

/-- Whether the markers with certain numbers are those at the positions from `first` on and before
`behind`. -/
def Owns (commands : List (Command γ)) (own : Nat → Prop) (first behind : Nat) : Prop :=
  ∀ pc id, Marks commands pc id → (own id ↔ first ≤ pc ∧ pc < behind)

theorem owns_of_split {commands front block back : List (Command γ)} {own : Nat → Prop}
    (split : commands = front ++ (block ++ back)) (before : Numbers front fun id => ¬own id)
    (inside : Numbers block own) (behind : Numbers back fun id => ¬own id) :
    Owns commands own front.length (front.length + block.length) := by
  rintro pc id ⟨command, there, marked⟩
  rw [split] at there
  rcases Nat.lt_or_ge pc front.length with early | later
  · rw [List.getElem?_append_left early] at there
    have foreign := before command (List.mem_of_getElem? there) id marked
    exact iff_of_false foreign (by omega)
  rw [List.getElem?_append_right later] at there
  rcases Nat.lt_or_ge (pc - front.length) block.length with within | late
  · rw [List.getElem?_append_left within] at there
    have native := inside command (List.mem_of_getElem? there) id marked
    exact iff_of_true native (by omega)
  · rw [List.getElem?_append_right late] at there
    have foreign := behind command (List.mem_of_getElem? there) id marked
    exact iff_of_false foreign (by omega)

variable {command : Command γ} {id : Nat}

theorem number?_of_isEndLoop (ends : command.isEndLoop id = true) : command.number? = some id := by
  cases command <;> simp_all [isEndLoop, number?]

theorem number?_of_isBranchEnd (ends : command.isBranchEnd id = true) :
    command.number? = some id := by
  cases command <;> simp_all [isBranchEnd, number?]

theorem number?_of_isEndCondition (ends : command.isEndCondition id = true) :
    command.number? = some id := by
  cases command <;> simp_all [isEndCondition, number?]

end Command

namespace Traversal

open Command

variable {limit : Option Nat} {commands : List (Command γ)} {t t' : Traversal}

/-- A run goes on to the next instruction, or from a marker behind one that follows, or from the end
of a loop to a beginning before it; the markers have the same number. -/
theorem Move.pc_cases (move : Move limit commands t t') :
    t'.pc = t.pc + 1 ∨
      (∃ target id, t.pc < target ∧ t'.pc = target + 1 ∧ Marks commands t.pc id ∧
        Marks commands target id) ∨
      ∃ id predicate, t'.pc < t.pc ∧ Marks commands t.pc id ∧
        commands[t'.pc]? = some (.beginLoop id predicate) := by
  cases move with
  | along | enter | leave | begin | finish => exact .inl rfl
  | skip here resumed found =>
    obtain ⟨le, command, there, met⟩ := findForward_bounds found
    exact .inr (.inl ⟨_, _, le, rfl, ⟨_, here, rfl⟩, _, there, number?_of_isEndLoop met⟩)
  | branch here found =>
    obtain ⟨le, command, there, met⟩ := findForward_bounds found
    exact .inr (.inl ⟨_, _, le, rfl, ⟨_, here, rfl⟩, _, there, number?_of_isBranchEnd met⟩)
  | join here found =>
    obtain ⟨le, command, there, met⟩ := findForward_bounds found
    exact .inr (.inl ⟨_, _, le, rfl, ⟨_, here, rfl⟩, _, there, number?_of_isEndCondition met⟩)
  | @again target entry around stats here within moved found =>
    obtain ⟨lt, command, there, met⟩ := findBackward_bounds found
    cases command with
    | beginLoop id predicate =>
      obtain rfl : id = entry.id := by simpa [isBeginLoop] using met
      exact .inr (.inr ⟨_, predicate, lt, ⟨_, here, rfl⟩, there⟩)
    | _ => simp [isBeginLoop] at met

variable {own : Nat → Prop} {first behind : Nat}

/-- Past the first instruction of a block, and to the instruction behind it, a run comes from
within. -/
theorem Move.from_within (move : Move limit commands t t') (owns : Owns commands own first behind)
    (straight : ∀ id predicate, commands[behind]? ≠ some (.beginLoop id predicate))
    (later : first < t'.pc) (le : t'.pc ≤ behind) : first ≤ t.pc ∧ t.pc < behind := by
  rcases move.pc_cases with next | ⟨target, id, lt, jumped, marks, marks'⟩ |
    ⟨id, predicate, lt, marks, begins⟩
  · omega
  · have native : own id := (owns target id marks').mpr (by omega)
    exact (owns t.pc id marks).mp native
  · have other : t'.pc ≠ behind := by
      rintro same
      rw [same] at begins
      exact straight id predicate begins
    have native : own id := (owns t'.pc id ⟨_, begins, rfl⟩).mpr (by omega)
    exact (owns t.pc id marks).mp native

/-- To the first instruction of a block, a run comes from before or from within. -/
theorem Move.to_first (move : Move limit commands t t') (owns : Owns commands own first behind)
    (long : first < behind) (there : t'.pc = first) :
    t.pc < first ∨ first < t.pc ∧ t.pc < behind := by
  rcases move.pc_cases with next | ⟨target, id, lt, jumped, marks, marks'⟩ |
    ⟨id, predicate, lt, marks, begins⟩
  · omega
  · omega
  · have native : own id := (owns t'.pc id ⟨_, begins, rfl⟩).mpr (by omega)
    have within := (owns t.pc id marks).mp native
    omega

/-- Where a loop has been entered is where the run is, or where it had been entered before. -/
theorem mem_track {places : List Nat} {place : Nat} (member : place ∈ t.track t' places) :
    place = t.pc ∨ place ∈ places := by
  unfold track at member
  split at member
  · exact List.mem_cons.mp member
  · exact .inr (List.mem_of_mem_drop member)

end Traversal

/-! ## Runs that come out of a block -/

namespace Run

open Command Traversal

variable {config : Config} {program : Program γ} {siblings : List Node} {collector : γ}
  {count : Nat} {run : Run γ}

/-- On its way, a run goes on at every instruction. -/
theorem exists_step_of_lt {m n : Nat} {run' : Run γ}
    (running : run.advance config program n = .running run') (lt : m < n) :
    ∃ mid next, run.advance config program m = .running mid ∧
      mid.step config program = .running next := by
  obtain ⟨more, rfl⟩ := Nat.exists_eq_add_of_lt lt
  rw [Nat.add_assoc, Nat.add_comm more, advance_add] at running
  cases reached : run.advance config program m with
  | running mid =>
    rw [reached] at running
    simp only at running
    rw [advance_add, advance_one] at running
    cases stepped : mid.step config program with
    | running next => exact ⟨mid, next, rfl, stepped⟩
    | finished _ | broken _ _ => simp [stepped] at running
  | finished _ | broken _ _ => simp [reached] at running

/-- A run that is in a block or right behind it has come in at its beginning, in loops that began in
front of the block, and has not been behind it since. -/
theorem exists_entry {own : Nat → Prop} {front rest : List (Command γ)} {next behind : Nat}
    (split : program.commands = front ++ rest) (numbers : Numbers front (· < next))
    (owns : Owns program.commands own front.length behind) (long : front.length < behind)
    (straight : ∀ id predicate, program.commands[behind]? ≠ some (.beginLoop id predicate))
    (running : (start program siblings collector).advance config program count = .running run)
    (inside : front.length ≤ run.traversal.pc) (le : run.traversal.pc ≤ behind) :
    ∃ before taken begun, before + taken = count ∧
      (start program siblings collector).advance config program before = .running begun ∧
      begun.advance config program taken = .running run ∧
      begun.traversal.pc = front.length ∧ (∀ entry ∈ begun.traversal.loops, entry.id < next) ∧
      ∀ n < taken, ∀ mid, begun.advance config program n = .running mid →
        mid.traversal.pc ≠ behind := by
  induction count generalizing run with
  | zero =>
    obtain rfl : start program siblings collector = run := by simpa [advance] using running
    have first : (start program siblings collector).traversal.pc = front.length :=
      (Nat.le_zero.mp inside).symm
    exact ⟨0, 0, _, rfl, rfl, rfl, first, by simp [start, Traversal.start], by simp⟩
  | succ count ih =>
    obtain ⟨last, reached, stepped⟩ := advance_succ_running running
    have move := move_of_step (traversal_step stepped)
    -- From within the block, the run has come in where the last state has.
    have onward : front.length ≤ last.traversal.pc → last.traversal.pc < behind →
        ∃ before taken begun, before + taken = count + 1 ∧
          (start program siblings collector).advance config program before = .running begun ∧
          begun.advance config program taken = .running run ∧
          begun.traversal.pc = front.length ∧
          (∀ entry ∈ begun.traversal.loops, entry.id < next) ∧
          ∀ n < taken, ∀ mid, begun.advance config program n = .running mid →
            mid.traversal.pc ≠ behind := by
      intro within lt
      obtain ⟨before, taken, begun, sum, enters, through, first, below, never⟩ :=
        ih reached within (Nat.le_of_lt lt)
      refine ⟨before, taken + 1, begun, by omega, enters, ?_, first, below, ?_⟩
      · rw [advance_of_running through, advance_one, stepped]
      · intro n upto mid on_way
        rcases Nat.lt_succ_iff_lt_or_eq.mp upto with earlier | rfl
        · exact never n earlier mid on_way
        · obtain rfl : last = mid := by simpa [through] using on_way
          exact Nat.ne_of_lt lt
    rcases Nat.lt_or_eq_of_le inside with later | first
    · obtain ⟨within, lt⟩ := move.from_within owns straight later le
      exact onward within lt
    rcases move.to_first owns long first.symm with early | ⟨within, lt⟩
    · obtain ⟨places, trail⟩ := exists_trail reached
      have trail' := trail.step (traversal_step stepped)
      have before : ∀ place ∈ last.traversal.track run.traversal places, place < front.length := by
        intro place member
        rcases mem_track member with rfl | member
        · exact early
        · exact Nat.lt_of_le_of_lt (trail.placed.le_pc place member) early
      exact ⟨count + 1, 0, run, rfl, running, rfl, first.symm,
        trail'.placed.loops_below split numbers before, by simp⟩
    · exact onward (Nat.le_of_lt within) lt

/-- A run that comes behind a block only once, and goes through it as calls mean, has done what they
mean. -/
theorem eq_of_goes_through {calls : List (Call Unit γ)} {front back : List (Command γ)}
    {next taken : Nat} {begun : Run γ}
    (split : program.commands = front ++ (Call.commandsOf (Call.numberedAll next calls) ++ back))
    (first : begun.traversal.pc = front.length)
    (below : ∀ entry ∈ begun.traversal.loops, entry.id < next)
    (through : begun.advance config program taken = .running run)
    (here : run.traversal.pc =
      front.length + (Call.commandsOf (Call.numberedAll next calls)).length)
    (never : ∀ n < taken, ∀ mid, begun.advance config program n = .running mid →
      mid.traversal.pc ≠ front.length + (Call.commandsOf (Call.numberedAll next calls)).length) :
    let after := Call.evalAll config.maxLoopIterations calls begun.scope
    run.traversal = after.place run.traversal.pc begun.traversal.saved begun.traversal.loops ∧
      run.collector = after.collector := by
  intro after
  -- The calls are gone through in the program that ends behind them, where no run goes further.
  let short : Program γ := ⟨none, front ++ Call.commandsOf (Call.numberedAll next calls)⟩
  have laid_out : short.commands =
      front ++ (Call.commandsOf (Call.numberedAll next calls) ++ []) := by simp [short]
  have longer : program.commands = short.commands ++ back := by simp [short, split]
  obtain ⟨taken', behind, alone, place, collected⟩ := goes_through config laid_out first below
  have through' := advance_append longer alone
  have same : taken = taken' := by
    rcases Nat.lt_trichotomy taken taken' with early | same | late
    · obtain ⟨mid, onward, reached, stepped⟩ := exists_step_of_lt alone early
      obtain rfl : run = mid := by simpa [through] using advance_append longer reached
      obtain ⟨command, there, -⟩ := execute_of_step (traversal_step stepped)
      have inside := (List.getElem?_eq_some_iff.mp there).1
      simp only [here, short, List.length_append] at inside
      omega
    · exact same
    · exact absurd (by rw [place]; rfl) (never taken' late behind through')
  rw [same, through'] at through
  obtain rfl := Progress.running.inj through
  exact ⟨by rw [place]; rfl, collected⟩

end Run

namespace Call

open Command

theorem commands_ne_nil (call : Call Nat γ) : call.commands ≠ [] := by
  cases call <;> simp [commands]

/-- A run that has come behind calls has come to their beginning before, in loops that began in
front of them, and has done from there what they mean. -/
theorem came_through {C : Context γ} {first call : Call Unit γ} {calls rest : List (Call Unit γ)}
    {name : Option String} {program : Program γ}
    (built : (addAllTo (C.fill (first :: calls ++ call :: rest)) (.root name)).build = .ok program)
    (other : ∀ inside body, call ≠ .loop () inside body) {config : Config} {siblings : List Node}
    {collector : γ} {count : Nat} {run : Run γ}
    (running : (Run.start program siblings collector).advance config program count = .running run)
    (here : run.traversal.pc =
      (C.front 0).length + (commandsOf (numberedAll 0 (first :: calls))).length) :
    ∃ before taken begun, before + taken = count ∧
      (Run.start program siblings collector).advance config program before = .running begun ∧
      begun.advance config program taken = .running run ∧
      begun.traversal.pc = (C.front 0).length ∧
      let after := evalAll config.maxLoopIterations (first :: calls) begun.scope
      run.traversal = after.place run.traversal.pc begun.traversal.saved begun.traversal.loops ∧
        run.collector = after.collector := by
  obtain ⟨back, split, numbers, behind⟩ := C.exists_back 0 (first :: calls ++ call :: rest)
  have inside := numbers_numberedAll (C.number 0) (first :: calls)
  have later := numbers_numberedAll (C.number 0 + blocksOf (first :: calls)) (call :: rest)
  rw [← commands_of_built built, numberedAll_append, commandsOf_append, List.append_assoc] at split
  rw [blocksOf_append] at behind
  rw [length_commandsOf_numberedAll 0 (C.number 0)] at here
  have owns := owns_of_split split (numbers.mono fun id below => by omega) inside
    (Numbers.append_iff.mpr
      ⟨later.mono fun id between => by omega, behind.mono fun id aside => by omega⟩)
  have long : 0 < (commandsOf (numberedAll (C.number 0) (first :: calls))).length := by
    rw [numberedAll, commandsOf, List.length_append]
    exact Nat.add_pos_left (List.length_pos_iff.mpr (commands_ne_nil _)) _
  rw [← C.fill_past] at built
  obtain ⟨_, split'⟩ := exists_split_of_built built
  have straight := ne_beginLoop other split'
  rw [C.front_past, List.length_append] at straight
  obtain ⟨before, taken, begun, sum, enters, through, start, below, never⟩ :=
    Run.exists_entry split numbers owns (by omega) straight running (by omega) (by omega)
  refine ⟨before, taken, begun, sum, enters, through, start, ?_⟩
  exact Run.eq_of_goes_through split start below through here never

end Call

end Gleaner
