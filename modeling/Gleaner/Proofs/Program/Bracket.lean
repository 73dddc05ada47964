import Gleaner.Proofs.Machine.Search
import Mathlib.Data.List.Induction

/-! # Brackets in programs

A program read from left to right opens and closes nests, loops and the bodies of conditions. A
program is balanced where every marker closes what was opened last. From a position inside a
bracket of a balanced program, the search for the end of that bracket never leaves it: it stops
at the end itself, or at one before it that has the same number. -/

namespace Gleaner

variable {γ : Type}

/-- What a marker opens. -/
inductive Bracket where
  | nest
  | loop (id : Nat)
  /-- The body of a condition that runs if the predicate holds. -/
  | body (id : Nat)
  /-- The body of a condition that runs if not. -/
  | otherwise (id : Nat)
deriving DecidableEq

namespace Bracket

/-- Leaves a bracket, if it is the innermost one. -/
def close (bracket : Bracket) : List Bracket → Option (List Bracket)
  | [] => none
  | top :: around => if top = bracket then some around else none

/-- The open brackets behind an instruction, innermost first, unless it closes what is not open. -/
def read (opened : List Bracket) : Command γ → Option (List Bracket)
  | .push _ => some (nest :: opened)
  | .pop => close nest opened
  | .beginLoop id _ => some (loop id :: opened)
  | .endLoop id => close (loop id) opened
  | .beginCondition id _ => some (body id :: opened)
  | .elseCondition id => (close (body id) opened).map (otherwise id :: ·)
  | .endCondition id => (close (body id) opened).or (close (otherwise id) opened)
  | _ => some opened

/-- The open brackets behind a list of instructions. -/
def readAll (opened : List Bracket) (commands : List (Command γ)) : Option (List Bracket) :=
  commands.foldlM read opened

/-- Whether every marker closes what was opened last, and all is closed in the end. -/
def Balanced (commands : List (Command γ)) : Prop := readAll [] commands = some []

/-- The brackets that the text of a program opens around a position. -/
def openAt (commands : List (Command γ)) (pc : Nat) : Option (List Bracket) :=
  readAll [] (commands.take pc)

/-- How many nests are open. -/
def nests (opened : List Bracket) : Nat := opened.count nest

/-- The numbers of the loops that are open, innermost first. -/
def loopIds : List Bracket → List Nat
  | [] => []
  | loop id :: around => id :: loopIds around
  | _ :: around => loopIds around

/-- Whether the search for the end of a bracket stops at an instruction. -/
def isEnd : Bracket → Command γ → Bool
  | nest, .pop => true
  | nest, _ => false
  | loop id, command => command.isEndLoop id
  | body id, command => command.isBranchEnd id
  | otherwise id, command => command.isEndCondition id

section

variable (id : Nat) (inner around : List Bracket)

@[simp] theorem nests_nest : nests (nest :: around) = nests around + 1 := by simp [nests]
@[simp] theorem nests_loop : nests (loop id :: around) = nests around := by simp [nests]
@[simp] theorem nests_body : nests (body id :: around) = nests around := by simp [nests]
@[simp] theorem nests_otherwise : nests (otherwise id :: around) = nests around := by
  simp [nests]

@[simp] theorem nests_append : nests (inner ++ around) = nests inner + nests around := by
  simp [nests]

@[simp] theorem loopIds_nest : loopIds (nest :: around) = loopIds around := rfl
@[simp] theorem loopIds_loop : loopIds (loop id :: around) = id :: loopIds around := rfl
@[simp] theorem loopIds_body : loopIds (body id :: around) = loopIds around := rfl
@[simp] theorem loopIds_otherwise : loopIds (otherwise id :: around) = loopIds around := rfl

@[simp] theorem loopIds_append : loopIds (inner ++ around) = loopIds inner ++ loopIds around := by
  induction inner with
  | nil => rfl
  | cons bracket inner ih => cases bracket <;> simp [ih]

end

theorem close_eq_some {bracket : Bracket} {opened around : List Bracket} :
    close bracket opened = some around ↔ opened = bracket :: around := by
  cases opened with
  | nil => simp [close]
  | cons top opened => by_cases same : top = bracket <;> simp [close, same]

@[simp] theorem readAll_nil (opened : List Bracket) :
    readAll opened ([] : List (Command γ)) = some opened := rfl

@[simp] theorem readAll_cons (opened : List Bracket) (command : Command γ)
    (commands : List (Command γ)) :
    readAll opened (command :: commands) = (read opened command).bind (readAll · commands) := rfl

theorem readAll_append (opened : List Bracket) (front back : List (Command γ)) :
    readAll opened (front ++ back) = (readAll opened front).bind (readAll · back) :=
  List.foldlM_append

theorem openAt_succ {commands : List (Command γ)} {pc : Nat} {command : Command γ}
    (here : commands[pc]? = some command) :
    openAt commands (pc + 1) = (openAt commands pc).bind (read · command) := by
  rw [openAt, List.take_add_one, here, readAll_append]
  simp [openAt]

/-- An instruction closes the innermost bracket at most. -/
theorem read_cons {top : Bracket} {around next : List Bracket} {command : Command γ}
    (reads : read (top :: around) command = some next) : ∃ inner, next = inner ++ around := by
  cases command with
  | step _ | stepIf _ _ | peek _ | breakpoint =>
    obtain rfl : top :: around = next := by simpa [read] using reads
    exact ⟨[top], rfl⟩
  | push name =>
    obtain rfl : nest :: top :: around = next := by simpa [read] using reads
    exact ⟨[nest, top], rfl⟩
  | beginLoop id predicate =>
    obtain rfl : loop id :: top :: around = next := by simpa [read] using reads
    exact ⟨[loop id, top], rfl⟩
  | beginCondition id predicate =>
    obtain rfl : body id :: top :: around = next := by simpa [read] using reads
    exact ⟨[body id, top], rfl⟩
  | pop | endLoop id =>
    obtain ⟨-, rfl⟩ := List.cons.inj (close_eq_some.mp reads)
    exact ⟨[], rfl⟩
  | elseCondition id =>
    obtain ⟨left, closed, rfl⟩ := Option.map_eq_some_iff.mp reads
    obtain ⟨-, rfl⟩ := List.cons.inj (close_eq_some.mp closed)
    exact ⟨[otherwise id], rfl⟩
  | endCondition id =>
    rcases Option.or_eq_some_iff.mp reads with closed | ⟨-, closed⟩ <;>
    · obtain ⟨-, rfl⟩ := List.cons.inj (close_eq_some.mp closed)
      exact ⟨[], rfl⟩

/-- An instruction opens one bracket at most. -/
theorem length_read_le {opened next : List Bracket} {command : Command γ}
    (reads : read opened command = some next) : next.length ≤ opened.length + 1 := by
  cases command with
  | step _ | stepIf _ _ | peek _ | breakpoint =>
    obtain rfl : opened = next := by simpa [read] using reads
    exact Nat.le_succ _
  | push _ | beginLoop _ _ | beginCondition _ _ =>
    obtain rfl : _ :: opened = next := by simpa [read] using reads
    exact Nat.le_refl _
  | pop | endLoop _ =>
    obtain rfl := close_eq_some.mp reads
    exact Nat.le_add_right_of_le (Nat.le_succ _)
  | elseCondition _ =>
    obtain ⟨left, closed, rfl⟩ := Option.map_eq_some_iff.mp reads
    obtain rfl := close_eq_some.mp closed
    exact Nat.le_succ _
  | endCondition _ =>
    rcases Option.or_eq_some_iff.mp reads with closed | ⟨-, closed⟩ <;>
    · obtain rfl := close_eq_some.mp closed
      exact Nat.le_add_right_of_le (Nat.le_succ _)

theorem length_readAll_le {opened next : List Bracket} {commands : List (Command γ)}
    (reads : readAll opened commands = some next) :
    next.length ≤ opened.length + commands.length := by
  induction commands generalizing opened with
  | nil =>
    obtain rfl : opened = next := by simpa using reads
    exact Nat.le_refl _
  | cons command commands ih =>
    obtain ⟨behind, reads_one, reads_rest⟩ := Option.bind_eq_some_iff.mp reads
    have one := length_read_le reads_one
    have rest := ih reads_rest
    rw [List.length_cons]
    omega

/-- A program opens no more than it has instructions. -/
theorem length_openAt_le {commands : List (Command γ)} {pc : Nat} {opened : List Bracket}
    (opens : openAt commands pc = some opened) : opened.length ≤ commands.length := by
  have le := length_readAll_le opens
  rw [List.length_nil, Nat.zero_add, List.length_take] at le
  exact Nat.le_trans le (Nat.min_le_right ..)

/-- An instruction that does not end a bracket leaves it open. -/
theorem read_inner {inner around next : List Bracket} {bracket : Bracket} {command : Command γ}
    (reads : read (inner ++ bracket :: around) command = some next)
    (stays : bracket.isEnd command = false) : ∃ inner', next = inner' ++ bracket :: around := by
  cases inner with
  | cons top inner =>
    obtain ⟨opens, rfl⟩ := read_cons reads
    exact ⟨opens ++ inner, by simp⟩
  | nil =>
    rw [List.nil_append] at reads
    cases command with
    | step _ | stepIf _ _ | peek _ | breakpoint =>
      exact ⟨[], by simpa [read, eq_comm] using reads⟩
    | push name => exact ⟨[nest], by simpa [read, eq_comm] using reads⟩
    | beginLoop id predicate => exact ⟨[loop id], by simpa [read, eq_comm] using reads⟩
    | beginCondition id predicate => exact ⟨[body id], by simpa [read, eq_comm] using reads⟩
    | pop | endLoop id =>
      obtain ⟨rfl, -⟩ := List.cons.inj (close_eq_some.mp reads)
      simp [isEnd, Command.isEndLoop] at stays
    | elseCondition id =>
      obtain ⟨left, closed, -⟩ := Option.map_eq_some_iff.mp reads
      obtain ⟨rfl, -⟩ := List.cons.inj (close_eq_some.mp closed)
      simp [isEnd, Command.isBranchEnd] at stays
    | endCondition id =>
      rcases Option.or_eq_some_iff.mp reads with closed | ⟨-, closed⟩ <;>
      · obtain ⟨rfl, -⟩ := List.cons.inj (close_eq_some.mp closed)
        simp [isEnd, Command.isBranchEnd, Command.isEndCondition] at stays

theorem readAll_find_end {inner around final : List Bracket} {bracket : Bracket}
    {rest : List (Command γ)} (reads : readAll (inner ++ bracket :: around) rest = some final)
    (closes : final.length ≤ around.length) :
    ∃ k after, rest.findIdx? bracket.isEnd = some k ∧
      readAll (inner ++ bracket :: around) (rest.take (k + 1)) = some (after ++ around) := by
  induction rest generalizing inner with
  | nil =>
    obtain rfl : inner ++ bracket :: around = final := by simpa using reads
    simp at closes
    omega
  | cons command rest ih =>
    obtain ⟨next, reads_one, reads_rest⟩ := Option.bind_eq_some_iff.mp reads
    by_cases ends : bracket.isEnd command
    · have kept : ∃ after, next = after ++ around := by
        cases inner with
        | nil => exact read_cons reads_one
        | cons top inner =>
          obtain ⟨opens, rfl⟩ := read_cons reads_one
          exact ⟨opens ++ inner ++ [bracket], by simp⟩
      obtain ⟨after, rfl⟩ := kept
      exact ⟨0, after, by simp [List.findIdx?_cons, ends], by simp [reads_one]⟩
    · obtain ⟨inner', rfl⟩ := read_inner reads_one (by simpa using ends)
      obtain ⟨k, after, found, behind⟩ := ih reads_rest
      refine ⟨k + 1, after, ?_, ?_⟩
      · simp [List.findIdx?_cons, ends, found]
      · simpa [reads_one] using behind

/-- From inside a bracket of a balanced program, the search for its end stops within it or at
its end, so all stays open that is open around it. -/
theorem exists_findForward {commands : List (Command γ)} (balanced : Balanced commands)
    {start : Nat} {bracket : Bracket} {around : List Bracket}
    (within : openAt commands start = some (bracket :: around)) :
    ∃ target inner, Command.findForward commands start bracket.isEnd = some target ∧
      openAt commands (target + 1) = some (inner ++ around) := by
  have reads : readAll ([] ++ bracket :: around) (commands.drop start) = some [] := by
    have all := balanced
    rw [Balanced, ← List.take_append_drop start commands, readAll_append] at all
    rw [openAt] at within
    simpa [within] using all
  obtain ⟨k, inner, found, behind⟩ := readAll_find_end reads (by simp)
  refine ⟨start + k, inner, by simp [Command.findForward, found], ?_⟩
  rw [openAt] at within ⊢
  rw [Nat.add_assoc, List.take_add, readAll_append, within]
  exact behind

/-- Up to any position, a balanced program closes nothing that is not open. -/
theorem Balanced.exists_openAt {commands : List (Command γ)} (balanced : Balanced commands)
    (pc : Nat) : ∃ opened, openAt commands pc = some opened := by
  have all := balanced
  rw [Balanced, ← List.take_append_drop pc commands, readAll_append] at all
  obtain ⟨opened, before, -⟩ := Option.bind_eq_some_iff.mp all
  exact ⟨opened, before⟩

theorem Balanced.read {commands : List (Command γ)} (balanced : Balanced commands) {pc : Nat}
    {command : Command γ} (here : commands[pc]? = some command) {opened : List Bracket}
    (opens : openAt commands pc = some opened) :
    ∃ next, openAt commands (pc + 1) = some next ∧ Bracket.read opened command = some next := by
  obtain ⟨next, behind⟩ := balanced.exists_openAt (pc + 1)
  refine ⟨next, behind, ?_⟩
  rw [openAt_succ here, opens] at behind
  exact behind

/-- Behind the last instruction of a balanced program, nothing is open. -/
theorem Balanced.openAt_end {commands : List (Command γ)} (balanced : Balanced commands)
    {pc : Nat} (behind : commands[pc]? = none) : openAt commands pc = some [] := by
  rw [openAt, List.take_of_length_le (List.getElem?_eq_none_iff.mp behind)]
  exact balanced

/-- Behind the end of a bracket that a search from within has found, all is open that is open
around the bracket. -/
theorem Balanced.openAt_forward {commands : List (Command γ)} (balanced : Balanced commands)
    {start target : Nat} {bracket : Bracket} {around : List Bracket}
    (within : openAt commands start = some (bracket :: around))
    (found : Command.findForward commands start bracket.isEnd = some target) :
    ∃ inner, openAt commands (target + 1) = some (inner ++ around) := by
  obtain ⟨target', inner, found', behind⟩ := exists_findForward balanced within
  obtain rfl : target = target' := Option.some.inj (found.symm.trans found')
  exact ⟨inner, behind⟩

/-- A loop that is open behind an instruction was open before it, if not begun by it. -/
theorem read_loop {opened inner around : List Bracket} {id : Nat} {command : Command γ}
    (reads : read opened command = some (inner ++ loop id :: around))
    (old : command.isBeginLoop id = false) : ∃ inner', opened = inner' ++ loop id :: around := by
  cases command with
  | step _ | stepIf _ _ | peek _ | breakpoint =>
    exact ⟨inner, by simpa [read] using reads⟩
  | push _ | beginCondition _ _ =>
    cases inner with
    | nil => simp [read] at reads
    | cons top inner => exact ⟨inner, by simp_all [read]⟩
  | beginLoop other predicate =>
    cases inner with
    | nil => simp_all [read, Command.isBeginLoop]
    | cons top inner => exact ⟨inner, by simp_all [read]⟩
  | pop | endLoop _ =>
    obtain rfl := close_eq_some.mp reads
    exact ⟨_ :: inner, rfl⟩
  | elseCondition other =>
    obtain ⟨left, closed, same⟩ := Option.map_eq_some_iff.mp reads
    obtain rfl := close_eq_some.mp closed
    cases inner with
    | nil => simp at same
    | cons top inner => exact ⟨body other :: inner, by simp_all⟩
  | endCondition other =>
    rcases Option.or_eq_some_iff.mp reads with closed | ⟨-, closed⟩ <;>
    · obtain rfl := close_eq_some.mp closed
      exact ⟨_ :: inner, rfl⟩

/-- From the end of a loop, the search for its beginning stops at it or behind it. -/
theorem exists_lastBegin {commands : List (Command γ)} {id : Nat} {inner around : List Bracket}
    (reads : readAll [] commands = some (inner ++ loop id :: around)) :
    ∃ target opened inner', lastIndex? (Command.isBeginLoop id) commands = some target ∧
      readAll [] (commands.take target) = some opened ∧
      loop id :: opened = inner' ++ loop id :: around := by
  induction commands using List.reverseRecOn generalizing inner with
  | nil => simp at reads
  | append_singleton commands command ih =>
    rw [readAll_append] at reads
    obtain ⟨opened, reads_front, reads_last⟩ := Option.bind_eq_some_iff.mp reads
    have read_last : read opened command = some (inner ++ loop id :: around) := by
      simpa using reads_last
    rw [lastIndex?_append]
    by_cases begins : command.isBeginLoop id
    · refine ⟨commands.length, opened, inner, by simp [lastIndex?, begins],
        by simpa using reads_front, ?_⟩
      cases command with
      | beginLoop other predicate =>
        obtain rfl : other = id := by simpa [Command.isBeginLoop] using begins
        simpa [read] using read_last
      | _ => simp [Command.isBeginLoop] at begins
    · obtain ⟨inner', rfl⟩ := read_loop read_last (by simpa using begins)
      obtain ⟨target, opened, before, found, reads_target, same⟩ := ih reads_front
      have lt : target < commands.length := by
        obtain ⟨x, there, -⟩ := lastIndex?_eq_some found
        exact (List.getElem?_eq_some_iff.mp there).1
      refine ⟨target, opened, before, by simp [lastIndex?, begins, found], ?_, same⟩
      rwa [List.take_append_of_le_length (by omega)]

theorem exists_findBackward {commands : List (Command γ)} {pc id : Nat} {around : List Bracket}
    (within : openAt commands pc = some (loop id :: around)) :
    ∃ target opened inner, Command.findBackward commands pc (Command.isBeginLoop id) = some target ∧
      openAt commands target = some opened ∧ loop id :: opened = inner ++ loop id :: around := by
  have reads : readAll [] (commands.take pc) = some ([] ++ loop id :: around) := within
  obtain ⟨target, opened, inner, found, before, same⟩ := exists_lastBegin reads
  have lt := (Command.findBackward_bounds found).1
  refine ⟨target, opened, inner, found, ?_, same⟩
  rwa [List.take_take, Nat.min_eq_left (Nat.le_of_lt lt)] at before

/-- Before the beginning that a search from the end of a loop has found, all is open that is open
around the loop. -/
theorem openAt_backward {commands : List (Command γ)} {pc target id : Nat}
    {around : List Bracket} (within : openAt commands pc = some (loop id :: around))
    (found : Command.findBackward commands pc (Command.isBeginLoop id) = some target) :
    ∃ inner, openAt commands target = some (inner ++ around) := by
  obtain ⟨target', opened, inner, found', opens, same⟩ := exists_findBackward within
  obtain rfl : target = target' := Option.some.inj (found.symm.trans found')
  cases inner with
  | nil =>
    obtain ⟨-, rfl⟩ := List.cons.inj same
    exact ⟨[], opens⟩
  | cons top inner =>
    obtain ⟨-, rfl⟩ := List.cons.inj same
    exact ⟨inner ++ [loop id], by simpa using opens⟩

/-! ## What a run keeps on its stacks -/

/-- Whether a run that passes a bracket enters something: a scope or a loop. -/
def isEntered : Bracket → Bool
  | nest | loop _ => true
  | body _ | otherwise _ => false

/-- The nests and loops among brackets. -/
def core (opened : List Bracket) : List Bracket := opened.filter isEntered

section

variable (id : Nat) (opened : List Bracket)

@[simp] theorem core_nil : core [] = [] := rfl
@[simp] theorem core_nest : core (nest :: opened) = nest :: core opened := rfl
@[simp] theorem core_loop : core (loop id :: opened) = loop id :: core opened := rfl
@[simp] theorem core_body : core (body id :: opened) = core opened := rfl
@[simp] theorem core_otherwise : core (otherwise id :: opened) = core opened := rfl

@[simp] theorem core_append (inner : List Bracket) :
    core (inner ++ opened) = core inner ++ core opened := List.filter_append ..

theorem length_core : (core opened).length = nests opened + (loopIds opened).length := by
  induction opened with
  | nil => rfl
  | cons bracket opened ih =>
    cases bracket with
    | nest | loop id =>
      simp [ih]
      omega
    | body id | otherwise id => simp [ih]

@[simp] theorem nests_core : nests (core opened) = nests opened := by
  induction opened with
  | nil => rfl
  | cons bracket opened ih => cases bracket <;> simp [ih]

@[simp] theorem loopIds_core : loopIds (core opened) = loopIds opened := by
  induction opened with
  | nil => rfl
  | cons bracket opened ih => cases bracket <;> simp [ih]

end

end Bracket

end Gleaner
