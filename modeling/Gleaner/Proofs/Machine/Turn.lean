import Gleaner.Proofs.Machine.Course
import Gleaner.Proofs.Program.Bracket

/-! # A balanced program and its run, side by side

What one instruction of a balanced program does to the nests and loops that its text opens, and to
the frames and loops that the run keeps. The two go together, but for one thing: a jump can land
inside blocks that the run has not entered, so that the text is deeper than the run. -/

namespace Gleaner

variable {γ : Type}

/-- What a straight instruction opens and closes is neither a nest nor a loop. -/
theorem Bracket.core_of_straight {command : Command γ} (straight : command.isStraight = true)
    {opened next : List Bracket} (reads : read opened command = some next) :
    core next = core opened := by
  cases command with
  | step _ | stepIf _ _ | peek _ | breakpoint =>
    obtain rfl : opened = next := by simpa [read] using reads
    rfl
  | beginCondition id predicate =>
    obtain rfl : body id :: opened = next := by simpa [read] using reads
    simp
  | endCondition id =>
    rcases Option.or_eq_some_iff.mp reads with closed | ⟨-, closed⟩ <;>
    · obtain rfl := close_eq_some.mp closed
      simp
  | _ => simp [Command.isStraight] at straight

namespace Traversal

variable {limit : Option Nat} {commands : List (Command γ)} {t t' : Traversal}

/-- The loops around the present instruction that have been entered; a loop is not around its own
beginning. -/
def around (commands : List (Command γ)) (t : Traversal) : List LoopEntry :=
  match commands[t.pc]? with
  | some (.beginLoop id _) => (t.resume id).2
  | _ => t.loops

/-- Whether an instruction begins a loop and goes on into its body. -/
def goesIn (commands : List (Command γ)) (t t' : Traversal) : Bool :=
  match commands[t.pc]? with
  | some (.beginLoop _ _) => t'.pc = t.pc + 1
  | _ => false

theorem around_of_resume {id : Nat} {predicate : List Matchable} {entry : LoopEntry}
    {outer : List LoopEntry} (here : commands[t.pc]? = some (.beginLoop id predicate))
    (resumed : t.resume id = (entry, outer)) : t.around commands = outer := by
  simp [around, here, resumed]

theorem around_eq_loops {command : Command γ} (here : commands[t.pc]? = some command)
    (other : ∀ id predicate, command ≠ .beginLoop id predicate) : t.around commands = t.loops := by
  unfold around
  rw [here]
  split
  case h_1 id predicate same => exact absurd (Option.some.inj same) (other id predicate)
  case h_2 => rfl

theorem goesIn_eq_false {command : Command γ} (here : commands[t.pc]? = some command)
    (other : ∀ id predicate, command ≠ .beginLoop id predicate) :
    t.goesIn commands t' = false := by
  unfold goesIn
  rw [here]
  split
  case h_1 id predicate same => exact absurd (Option.some.inj same) (other id predicate)
  case h_2 => rfl

/-- All loops that have been entered are around the present instruction, or all but the innermost
one, which is about to be resumed. -/
theorem around_cases (commands : List (Command γ)) (t : Traversal) :
    t.around commands = t.loops ∨ ∃ entry, t.loops = entry :: t.around commands := by
  unfold around
  split
  case h_1 id predicate here =>
    cases resumed : t.resume id with
    | mk entry outer =>
      rcases resume_cases resumed with ⟨-, rfl, -⟩ | ⟨within, -⟩
      · exact .inl rfl
      · exact .inr ⟨entry, within⟩
  case h_2 => exact .inl rfl

theorem around_suffix (commands : List (Command γ)) (t : Traversal) :
    t.around commands <:+ t.loops := by
  rcases t.around_cases commands with whole | ⟨entry, within⟩
  · exact ⟨[], whole⟩
  · exact ⟨[entry], within.symm⟩

/-- A loop that is gone back to is about to be resumed, so it is not around its beginning. -/
theorem around_gone_back {entry : LoopEntry} {outer : List LoopEntry} {n : Nat}
    (found : Command.findBackward commands t.pc (Command.isBeginLoop entry.id) = some t'.pc)
    (goes_on : t'.loops = { entry with iterations := n, start := t'.frame.index } :: outer) :
    t'.around commands = outer := by
  obtain ⟨-, command, there, met⟩ := Command.findBackward_bounds found
  cases command with
  | beginLoop id predicate =>
    obtain rfl : id = entry.id := by simpa [Command.isBeginLoop] using met
    have resumed : t'.resume entry.id =
        ({ entry with iterations := n, start := t'.frame.index }, outer) := by
      simp [resume, goes_on]
    exact around_of_resume there resumed
  | _ => simp [Command.isBeginLoop] at met

/-- How an instruction changes the nests and loops that the text opens, and with them the frames
and loops of the run. Where it jumps, the text can be `deeper` than what the run has entered. -/
inductive Turn (limit : Option Nat) (commands : List (Command γ)) (t t' : Traversal) :
    List Bracket → List Bracket → Prop where
  /-- The run goes on, or skips a body. A loop that was about to be resumed is left. -/
  | onward {text : List Bracket} (deeper : List Bracket) (looked : t.frame.Looked t'.frame)
      (scopes : t'.saved = t.saved) (loops : t'.loops = t.around commands)
      (outside : t.goesIn commands t' = false) : Turn limit commands t t' text (deeper ++ text)
  | enter {text : List Bracket} (frame : t'.frame = t.frame.below)
      (scopes : t'.saved = t.frame :: t.saved) (loops : t'.loops = t.loops)
      (whole : t.around commands = t.loops) (outside : t.goesIn commands t' = false) :
      Turn limit commands t t' text (.nest :: text)
  | leave {text : List Bracket} (scopes : t.saved = t'.frame :: t'.saved)
      (loops : t'.loops = t.loops) (whole : t.around commands = t.loops)
      (outside : t.goesIn commands t' = false) : Turn limit commands t t' (.nest :: text) text
  | begin {text : List Bracket} {id : Nat} {entry : LoopEntry}
      (resumed : t.resume id = (entry, t.around commands)) (unspent : entry.isSpent limit = false)
      (room : t.frame.index < t.frame.siblings.length) (frame : t'.frame = t.frame)
      (scopes : t'.saved = t.saved) (loops : t'.loops = entry :: t.around commands)
      (inside : t.goesIn commands t' = true) : Turn limit commands t t' text (.loop id :: text)
  | finish {text : List Bracket} {entry : LoopEntry} (within : t.loops = entry :: t'.loops)
      (whole : t.around commands = t.loops) (frame : t'.frame = t.frame)
      (scopes : t'.saved = t.saved) (outside : t.goesIn commands t' = false) :
      Turn limit commands t t' (.loop entry.id :: text) text
  | again {text : List Bracket} {entry : LoopEntry} (deeper : List Bracket)
      (within : t.loops = entry :: t'.around commands) (whole : t.around commands = t.loops)
      (moved : t.frame.index ≠ entry.start) (frame : t'.frame = t.frame)
      (scopes : t'.saved = t.saved)
      (loops : t'.loops =
        { entry with iterations := entry.iterations + 1, start := t.frame.index } ::
          t'.around commands)
      (outside : t.goesIn commands t' = false) :
      Turn limit commands t t' (.loop entry.id :: text) (deeper ++ text)

/-- One instruction of a balanced program. -/
theorem Move.turn (balanced : Bracket.Balanced commands) (move : Move limit commands t t')
    {opened : List Bracket} (opens : Bracket.openAt commands t.pc = some opened) :
    ∃ opened', Bracket.openAt commands t'.pc = some opened' ∧
      Turn limit commands t t' (Bracket.core opened) (Bracket.core opened') := by
  cases move with
  | @along command frame stats here straight looked =>
    obtain ⟨next, opens', reads⟩ := balanced.read here opens
    have other : ∀ id predicate, command ≠ .beginLoop id predicate := by
      rintro id predicate rfl
      simp [Command.isStraight] at straight
    refine ⟨next, opens', ?_⟩
    rw [Bracket.core_of_straight straight reads]
    exact .onward [] looked rfl (around_eq_loops here other).symm (goesIn_eq_false here other)
  | enter here =>
    obtain ⟨next, opens', reads⟩ := balanced.read here opens
    obtain rfl : .nest :: opened = next := by simpa [Bracket.read] using reads
    exact ⟨_, opens', .enter rfl rfl rfl (around_eq_loops here (by simp))
      (goesIn_eq_false here (by simp))⟩
  | leave here within =>
    obtain ⟨next, opens', reads⟩ := balanced.read here opens
    obtain rfl := Bracket.close_eq_some.mp reads
    exact ⟨_, opens', .leave within rfl (around_eq_loops here (by simp))
      (goesIn_eq_false here (by simp))⟩
  | begin here resumed unspent meets =>
    obtain ⟨next, opens', reads⟩ := balanced.read here opens
    obtain rfl : .loop _ :: opened = next := by simpa [Bracket.read] using reads
    obtain rfl := around_of_resume here resumed
    exact ⟨_, opens', .begin resumed unspent (Frame.index_lt_of_nextMeets meets) rfl rfl rfl
      (by simp [goesIn, here])⟩
  | skip here resumed found =>
    obtain ⟨next, opens', reads⟩ := balanced.read here opens
    obtain rfl : .loop _ :: opened = next := by simpa [Bracket.read] using reads
    obtain ⟨inner, behind⟩ := balanced.openAt_forward opens' found
    have later := (Command.findForward_bounds found).1
    refine ⟨_, behind, ?_⟩
    rw [Bracket.core_append]
    exact .onward _ .stays rfl (around_of_resume here resumed).symm
      (by simp only [goesIn, here]; simp; omega)
  | finish here within idle =>
    obtain ⟨next, opens', reads⟩ := balanced.read here opens
    obtain rfl := Bracket.close_eq_some.mp reads
    exact ⟨_, opens', .finish within (around_eq_loops here (by simp)) rfl rfl
      (goesIn_eq_false here (by simp))⟩
  | @again target entry outer stats here within moved found =>
    obtain ⟨next, -, reads⟩ := balanced.read here opens
    obtain rfl := Bracket.close_eq_some.mp reads
    obtain ⟨inner, opens'⟩ := Bracket.openAt_backward opens found
    have resumes : around commands ⟨target, t.frame, t.saved,
        { entry with iterations := entry.iterations + 1, start := t.frame.index } :: outer,
        stats⟩ = outer := around_gone_back found rfl
    refine ⟨_, opens', ?_⟩
    rw [Bracket.core_append]
    exact .again _ (by rw [resumes, within]) (around_eq_loops here (by simp)) moved rfl rfl
      (by rw [resumes]) (goesIn_eq_false here (by simp))
  | branch here found =>
    obtain ⟨next, opens', reads⟩ := balanced.read here opens
    obtain rfl : .body _ :: opened = next := by simpa [Bracket.read] using reads
    obtain ⟨inner, behind⟩ := balanced.openAt_forward opens' found
    refine ⟨_, behind, ?_⟩
    rw [Bracket.core_append]
    exact .onward _ .missed rfl (around_eq_loops here (by simp)).symm
      (goesIn_eq_false here (by simp))
  | join here found =>
    obtain ⟨next, opens', reads⟩ := balanced.read here opens
    obtain ⟨outer, closed, rfl⟩ := Option.map_eq_some_iff.mp reads
    obtain rfl := Bracket.close_eq_some.mp closed
    obtain ⟨inner, behind⟩ := balanced.openAt_forward opens' found
    refine ⟨_, behind, ?_⟩
    rw [Bracket.core_append, Bracket.core_body]
    exact .onward _ .stays rfl (around_eq_loops here (by simp)).symm
      (goesIn_eq_false here (by simp))

end Traversal

end Gleaner
