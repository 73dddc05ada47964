import Gleaner.Program.Builder
import Gleaner.Proofs.Program.Bracket

/-! # Calls of a builder as a tree

A program as it is written: a list of calls, of which nests, loops and conditions have calls in
their bodies. Loops and conditions carry a mark. Calls as they are made are marked by nothing;
calls as they are compiled are marked by numbers, and can be laid out as instructions. The
numbers need not be those that a builder gives out. -/

namespace Gleaner

/-- A call of a builder. Every method of a builder is one of these: `html` and the other named
elements are steps, `loopAll` is a loop with the predicate `[.any]`. -/
inductive Call (ι γ : Type) where
  | step (spec : ElementSpec γ)
  | stepIf (predicate : List Matchable) (spec : ElementSpec γ)
  | peek (f : γ → γ)
  | breakpoint
  | nest (name : Option String) (body : List (Call ι γ))
  | loop (mark : ι) (predicate : List Matchable) (body : List (Call ι γ))
  /-- A condition without a second body. -/
  | guard (mark : ι) (predicate : List Matchable) (body : List (Call ι γ))
  /-- A condition with a body for when the predicate does not hold. -/
  | choice (mark : ι) (predicate : List Matchable) (body otherwise : List (Call ι γ))

namespace Call

variable {ι γ : Type}

mutual

/-- The instructions of a call, its body in place between the markers. -/
def commands : Call Nat γ → List (Command γ)
  | step spec => [.step spec]
  | stepIf predicate spec => [.stepIf predicate spec]
  | peek f => [.peek f]
  | breakpoint => [.breakpoint]
  | nest name body => .push name :: (commandsOf body ++ [.pop])
  | loop id predicate body => .beginLoop id predicate :: (commandsOf body ++ [.endLoop id])
  | guard id predicate body =>
    .beginCondition id predicate :: (commandsOf body ++ [.endCondition id])
  | choice id predicate body otherwise =>
    .beginCondition id predicate ::
      (commandsOf body ++ .elseCondition id :: (commandsOf otherwise ++ [.endCondition id]))

/-- The instructions of calls, one after the other. -/
def commandsOf : List (Call Nat γ) → List (Command γ)
  | [] => []
  | call :: rest => call.commands ++ commandsOf rest

end

@[simp] theorem commandsOf_append (first second : List (Call Nat γ)) :
    commandsOf (first ++ second) = commandsOf first ++ commandsOf second := by
  induction first with
  | nil => rfl
  | cons call rest ih => simp [commandsOf, ih]

@[simp] theorem commandsOf_singleton (call : Call Nat γ) : commandsOf [call] = call.commands := by
  simp [commandsOf]

/-- The spec of a step. -/
def spec? : Call ι γ → Option (ElementSpec γ)
  | step spec => some spec
  | _ => none

/-- What a peek does to the collector. -/
def onPeek? : Call ι γ → Option (γ → γ)
  | peek f => some f
  | _ => none

mutual

/-- A call without its marks. -/
def unmarked : Call ι γ → Call Unit γ
  | step spec => step spec
  | stepIf predicate spec => stepIf predicate spec
  | peek f => peek f
  | breakpoint => breakpoint
  | nest name body => nest name (unmarkedAll body)
  | loop _ predicate body => loop () predicate (unmarkedAll body)
  | guard _ predicate body => guard () predicate (unmarkedAll body)
  | choice _ predicate body otherwise =>
    choice () predicate (unmarkedAll body) (unmarkedAll otherwise)

/-- Calls without their marks. -/
def unmarkedAll : List (Call ι γ) → List (Call Unit γ)
  | [] => []
  | call :: rest => call.unmarked :: unmarkedAll rest

end

mutual

/-- How many loops and conditions a call has, itself included. -/
def blocks : Call ι γ → Nat
  | nest _ body => blocksOf body
  | loop _ _ body | guard _ _ body => blocksOf body + 1
  | choice _ _ body otherwise => blocksOf body + blocksOf otherwise + 1
  | _ => 0

/-- How many loops and conditions calls have. -/
def blocksOf : List (Call ι γ) → Nat
  | [] => 0
  | call :: rest => call.blocks + blocksOf rest

end

mutual

/-- A call with its loops and conditions numbered from `next` on, as they begin. -/
def numbered (next : Nat) : Call Unit γ → Call Nat γ
  | step spec => step spec
  | stepIf predicate spec => stepIf predicate spec
  | peek f => peek f
  | breakpoint => breakpoint
  | nest name body => nest name (numberedAll next body)
  | loop _ predicate body => loop next predicate (numberedAll (next + 1) body)
  | guard _ predicate body => guard next predicate (numberedAll (next + 1) body)
  | choice _ predicate body otherwise =>
    choice next predicate (numberedAll (next + 1) body)
      (numberedAll (next + 1 + blocksOf body) otherwise)

/-- Calls with their loops and conditions numbered from `next` on, as they begin. -/
def numberedAll (next : Nat) : List (Call Unit γ) → List (Call Nat γ)
  | [] => []
  | call :: rest => call.numbered next :: numberedAll (next + call.blocks) rest

end

mutual

/-- Makes a call; each closure adds the calls of its body to the builder that it is given. -/
def addTo : Call Unit γ → Builder γ → Builder γ
  | step spec, b => b.step spec
  | stepIf predicate spec, b => b.stepIf predicate spec
  | peek f, b => b.peek f
  | breakpoint, b => b.breakpoint
  | nest name body, b => b.nestGroup name (addAllTo body)
  | loop _ predicate body, b => b.loopWhile predicate (addAllTo body)
  | guard _ predicate body, b => b.executeIf predicate (addAllTo body)
  | choice _ predicate body otherwise, b =>
    b.executeIfElse predicate (addAllTo body) (addAllTo otherwise)

/-- Makes calls, one after the other. -/
def addAllTo : List (Call Unit γ) → Builder γ → Builder γ
  | [], b => b
  | call :: rest, b => addAllTo rest (call.addTo b)

end

mutual

/-- Whether no loop has the number of a loop around it, and no condition that of a condition
around it; `loops` and `conditions` are the numbers around the call. -/
def Apart (loops conditions : List Nat) : Call Nat γ → Prop
  | nest _ body => ApartAll loops conditions body
  | loop id _ body => id ∉ loops ∧ ApartAll (id :: loops) conditions body
  | guard id _ body => id ∉ conditions ∧ ApartAll loops (id :: conditions) body
  | choice id _ body otherwise =>
    id ∉ conditions ∧ ApartAll loops (id :: conditions) body ∧
      ApartAll loops (id :: conditions) otherwise
  | _ => True

/-- Whether the same holds of all calls of a list. -/
def ApartAll (loops conditions : List Nat) : List (Call Nat γ) → Prop
  | [] => True
  | call :: rest => call.Apart loops conditions ∧ ApartAll loops conditions rest

end

/-! ## Laid out calls are balanced -/

mutual

theorem readAll_commands (opened : List Bracket) :
    (call : Call Nat γ) → Bracket.readAll opened call.commands = some opened
  | step _ | stepIf _ _ | peek _ | breakpoint => rfl
  | nest _ body | loop _ _ body | guard _ _ body => by
    simp [commands, Bracket.readAll_append, readAll_commandsOf _ body, Bracket.read,
      Bracket.close]
  | choice _ _ body otherwise => by
    simp [commands, Bracket.readAll_append, readAll_commandsOf _ body,
      readAll_commandsOf _ otherwise, Bracket.read, Bracket.close]

theorem readAll_commandsOf (opened : List Bracket) :
    (calls : List (Call Nat γ)) → Bracket.readAll opened (commandsOf calls) = some opened
  | [] => rfl
  | call :: rest => by
    simp [commandsOf, Bracket.readAll_append, readAll_commands _ call,
      readAll_commandsOf _ rest]

end

theorem balanced_commandsOf (calls : List (Call Nat γ)) :
    Bracket.Balanced (commandsOf calls) := readAll_commandsOf [] calls

/-! ## Numbers -/

mutual

theorem unmarked_numbered (next : Nat) :
    (call : Call Unit γ) → (call.numbered next).unmarked = call
  | step _ | stepIf _ _ | peek _ | breakpoint => rfl
  | nest _ body | loop _ _ body | guard _ _ body => by
    simp [numbered, unmarked, unmarkedAll_numberedAll _ body]
  | choice _ _ body otherwise => by
    simp [numbered, unmarked, unmarkedAll_numberedAll _ body,
      unmarkedAll_numberedAll _ otherwise]

theorem unmarkedAll_numberedAll (next : Nat) :
    (calls : List (Call Unit γ)) → unmarkedAll (numberedAll next calls) = calls
  | [] => rfl
  | call :: rest => by
    simp [numberedAll, unmarkedAll, unmarked_numbered _ call, unmarkedAll_numberedAll _ rest]

end

end Call

/-- The number of a loop or condition that an instruction begins. -/
def Command.begun? {γ : Type} : Command γ → Option Nat
  | beginLoop id _ | beginCondition id _ => some id
  | _ => none

namespace Call

variable {γ : Type}

mutual

theorem begun_numbered (next : Nat) :
    (call : Call Unit γ) →
      (call.numbered next).commands.filterMap Command.begun? = List.range' next call.blocks
  | step _ | stepIf _ _ | peek _ | breakpoint => rfl
  | nest _ body => by
    simp [numbered, commands, blocks, Command.begun?, List.filterMap_cons,
      begun_numberedAll _ body]
  | loop _ _ body | guard _ _ body => by
    simp [numbered, commands, blocks, Command.begun?, List.filterMap_cons,
      begun_numberedAll _ body, List.range'_succ]
  | choice _ _ body otherwise => by
    simp [numbered, commands, blocks, Command.begun?, List.filterMap_cons,
      begun_numberedAll _ body, begun_numberedAll _ otherwise, List.range'_succ,
      ← List.range'_append_1]

theorem begun_numberedAll (next : Nat) :
    (calls : List (Call Unit γ)) →
      (commandsOf (numberedAll next calls)).filterMap Command.begun? =
        List.range' next (blocksOf calls)
  | [] => rfl
  | call :: rest => by
    simp [numberedAll, commandsOf, blocksOf, begun_numbered _ call, begun_numberedAll _ rest,
      ← List.range'_append_1]

end

mutual

/-- Numbers from `next` on differ from all numbers below that are around. -/
theorem apart_numbered (next : Nat) (loops conditions : List Nat)
    (loops_below : ∀ id ∈ loops, id < next) (conditions_below : ∀ id ∈ conditions, id < next) :
    (call : Call Unit γ) → (call.numbered next).Apart loops conditions
  | step _ | stepIf _ _ | peek _ | breakpoint => trivial
  | nest _ body => apart_numberedAll next loops conditions loops_below conditions_below body
  | loop _ _ body => by
    refine ⟨fun around => Nat.lt_irrefl _ (loops_below _ around), ?_⟩
    exact apart_numberedAll (next + 1) (next :: loops) conditions
      (by simpa using fun id around => Nat.lt_succ_of_lt (loops_below id around))
      (fun id around => Nat.lt_succ_of_lt (conditions_below id around)) body
  | guard _ _ body => by
    refine ⟨fun around => Nat.lt_irrefl _ (conditions_below _ around), ?_⟩
    exact apart_numberedAll (next + 1) loops (next :: conditions)
      (fun id around => Nat.lt_succ_of_lt (loops_below id around))
      (by simpa using fun id around => Nat.lt_succ_of_lt (conditions_below id around)) body
  | choice _ _ body otherwise => by
    refine ⟨fun around => Nat.lt_irrefl _ (conditions_below _ around), ?_, ?_⟩
    · exact apart_numberedAll (next + 1) loops (next :: conditions)
        (fun id around => Nat.lt_succ_of_lt (loops_below id around))
        (by simpa using fun id around => Nat.lt_succ_of_lt (conditions_below id around)) body
    · have later : ∀ id, id < next → id < next + 1 + blocksOf body := by
        intro id below
        omega
      exact apart_numberedAll _ loops (next :: conditions)
        (fun id around => later id (loops_below id around))
        (by simpa using ⟨by omega, fun id around => later id (conditions_below id around)⟩)
        otherwise

theorem apart_numberedAll (next : Nat) (loops conditions : List Nat)
    (loops_below : ∀ id ∈ loops, id < next) (conditions_below : ∀ id ∈ conditions, id < next) :
    (calls : List (Call Unit γ)) → ApartAll loops conditions (numberedAll next calls)
  | [] => trivial
  | call :: rest => by
    refine ⟨apart_numbered next loops conditions loops_below conditions_below call, ?_⟩
    have later : ∀ id, id < next → id < next + call.blocks := by
      intro id below
      omega
    exact apart_numberedAll _ loops conditions (fun id around => later id (loops_below id around))
      (fun id around => later id (conditions_below id around)) rest

end

/-- As a builder numbers them, calls are apart. -/
theorem apart_numberedAll_zero (calls : List (Call Unit γ)) :
    ApartAll [] [] (numberedAll 0 calls) :=
  apart_numberedAll 0 [] [] (by simp) (by simp) calls

end Call

end Gleaner
