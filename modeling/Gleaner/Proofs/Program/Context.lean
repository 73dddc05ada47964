import Gleaner.Proofs.Program.Compile

/-! # Places in a tree of calls

A tree of calls with a hole in one of its bodies, at any depth. Wherever the hole is, the
instructions of what is put into it stand in one piece, numbered from a number that depends on the
hole alone. No marker outside has one of the numbers inside, and those in front are lower. -/

namespace Gleaner

variable {γ : Type}

namespace Call

theorem blocksOf_append {ι : Type} (first second : List (Call ι γ)) :
    blocksOf (first ++ second) = blocksOf first + blocksOf second := by
  induction first with
  | nil => simp [blocksOf]
  | cons call rest ih => simp [blocksOf, ih, Nat.add_assoc]

theorem numberedAll_append (next : Nat) (first second : List (Call Unit γ)) :
    numberedAll next (first ++ second) =
      numberedAll next first ++ numberedAll (next + blocksOf first) second := by
  induction first generalizing next with
  | nil => simp [numberedAll, blocksOf]
  | cons call rest ih => simp [numberedAll, blocksOf, ih, Nat.add_assoc]

end Call

/-- The number of the loop or condition that an instruction is a marker of. -/
def Command.number? : Command γ → Option Nat
  | beginLoop id _ | endLoop id => some id
  | beginCondition id _ | elseCondition id | endCondition id => some id
  | _ => none

/-- Whether all markers among instructions have numbers that meet a condition. -/
def Command.Numbers (commands : List (Command γ)) (meets : Nat → Prop) : Prop :=
  ∀ command ∈ commands, ∀ id, command.number? = some id → meets id

namespace Command.Numbers

variable {commands front back : List (Command γ)} {command : Command γ} {meets meets' : Nat → Prop}

@[simp] theorem nil : Numbers ([] : List (Command γ)) meets := by simp [Numbers]

@[simp] theorem cons_iff :
    Numbers (command :: commands) meets ↔
      (∀ id, command.number? = some id → meets id) ∧ Numbers commands meets := by
  simp [Numbers]

@[simp] theorem append_iff :
    Numbers (front ++ back) meets ↔ Numbers front meets ∧ Numbers back meets := by
  simp only [Numbers, List.forall_mem_append]

theorem mono (numbers : Numbers commands meets) (further : ∀ id, meets id → meets' id) :
    Numbers commands meets' :=
  fun command member id same => further id (numbers command member id same)

end Command.Numbers

namespace Call

open Command

mutual

/-- A call that is numbered from a number on has no others than those that it uses up. -/
theorem numbers_numbered (next : Nat) :
    (call : Call Unit γ) →
      Numbers (call.numbered next).commands fun id => next ≤ id ∧ id < next + call.blocks
  | step _ | stepIf _ _ | peek _ | breakpoint => by simp [numbered, commands, number?]
  | nest _ body => by
    have inside := numbers_numberedAll next body
    simpa [numbered, commands, number?, blocks] using inside
  | loop _ _ body | guard _ _ body => by
    have inside := numbers_numberedAll (next + 1) body
    have own : next < next + (blocksOf body + 1) := by omega
    simp only [numbered, commands, blocks, Numbers.cons_iff, Numbers.append_iff, number?,
      Option.some.injEq, forall_eq', Numbers.nil, and_true]
    exact ⟨⟨Nat.le_refl _, own⟩, inside.mono fun id between => by omega, Nat.le_refl _, own⟩
  | choice _ _ body otherwise => by
    have inside := numbers_numberedAll (next + 1) body
    have inside' := numbers_numberedAll (next + 1 + blocksOf body) otherwise
    have own : next < next + (blocksOf body + blocksOf otherwise + 1) := by omega
    simp only [numbered, commands, blocks, Numbers.cons_iff, Numbers.append_iff, number?,
      Option.some.injEq, forall_eq', Numbers.nil, and_true]
    exact ⟨⟨Nat.le_refl _, own⟩, inside.mono fun id between => by omega,
      ⟨Nat.le_refl _, own⟩, inside'.mono fun id between => by omega, Nat.le_refl _, own⟩

theorem numbers_numberedAll (next : Nat) :
    (calls : List (Call Unit γ)) →
      Numbers (commandsOf (numberedAll next calls)) fun id =>
        next ≤ id ∧ id < next + blocksOf calls
  | [] => Numbers.nil
  | call :: rest => by
    have first := numbers_numbered next call
    have others := numbers_numberedAll (next + call.blocks) rest
    simp only [numberedAll, commandsOf, blocksOf, Numbers.append_iff]
    exact ⟨first.mono fun id between => by omega, others.mono fun id between => by omega⟩

end

end Call

/-! ## A block with an open body -/

/-- A nest, a loop or a condition of which one body is left open. -/
inductive Block (γ : Type) where
  | nest (name : Option String)
  | loop (predicate : List Matchable)
  | guard (predicate : List Matchable)
  /-- A condition with two bodies, of which the first is left open. -/
  | firstBody (predicate : List Matchable) (otherwise : List (Call Unit γ))
  /-- A condition with two bodies, of which the second is left open. -/
  | secondBody (predicate : List Matchable) (body : List (Call Unit γ))

namespace Block

/-- The block with calls in its open body. -/
def around (inside : List (Call Unit γ)) : Block γ → Call Unit γ
  | nest name => .nest name inside
  | loop predicate => .loop () predicate inside
  | guard predicate => .guard () predicate inside
  | firstBody predicate otherwise => .choice () predicate inside otherwise
  | secondBody predicate body => .choice () predicate body inside

/-- The number that the open body of a block begins with, if the block gets the number `next`. -/
def number (next : Nat) : Block γ → Nat
  | nest _ => next
  | loop _ | guard _ | firstBody _ _ => next + 1
  | secondBody _ body => next + 1 + Call.blocksOf body

/-- The instructions of a block in front of its open body. -/
def front (next : Nat) : Block γ → List (Command γ)
  | nest name => [.push name]
  | loop predicate => [.beginLoop next predicate]
  | guard predicate | firstBody predicate _ => [.beginCondition next predicate]
  | secondBody predicate body =>
    .beginCondition next predicate ::
      (Call.commandsOf (Call.numberedAll (next + 1) body) ++ [.elseCondition next])

theorem le_number (next : Nat) (block : Block γ) : next ≤ block.number next := by
  cases block with
  | nest => exact Nat.le_refl _
  | loop | guard | firstBody => exact Nat.le_succ _
  | secondBody predicate body =>
    simp only [number]
    omega

theorem number_le (next : Nat) (block : Block γ) (inside : List (Call Unit γ)) :
    block.number next + Call.blocksOf inside ≤ next + (block.around inside).blocks := by
  cases block with
  | nest | loop | guard | firstBody | secondBody =>
    simp only [number, around, Call.blocks]
    omega

open Command Call in
/-- A block is laid out around its open body. -/
theorem exists_back (next : Nat) (block : Block γ) (inside : List (Call Unit γ)) :
    ∃ back, ((block.around inside).numbered next).commands =
        block.front next ++ (commandsOf (numberedAll (block.number next) inside) ++ back) ∧
      Numbers (block.front next) (· < block.number next) ∧
      Numbers back fun id =>
        id < block.number next ∨ block.number next + blocksOf inside ≤ id := by
  cases block with
  | nest name =>
    exact ⟨[.pop], by simp [around, numbered, commands, front, number, number?]⟩
  | loop predicate =>
    exact ⟨[.endLoop next], by simp [around, numbered, commands, front, number, number?]⟩
  | guard predicate =>
    exact ⟨[.endCondition next], by simp [around, numbered, commands, front, number, number?]⟩
  | firstBody predicate otherwise =>
    have behind := numbers_numberedAll (next + 1 + blocksOf inside) otherwise
    refine ⟨.elseCondition next ::
      (commandsOf (numberedAll (next + 1 + blocksOf inside) otherwise) ++ [.endCondition next]),
      by simp [around, numbered, commands, front, number], by simp [front, number, number?], ?_⟩
    simpa [number, number?] using behind.mono fun id between => by omega
  | secondBody predicate body =>
    have before := numbers_numberedAll (next + 1) body
    refine ⟨[.endCondition next], by simp [around, numbered, commands, front, number], ?_, ?_⟩
    · have own : next < next + 1 + blocksOf body := by omega
      simpa [front, number, number?, own] using before.mono fun id between => between.2
    · have own : next < next + 1 + blocksOf body := by omega
      simp [number, number?, own]

end Block

/-! ## A tree with a hole -/

/-- A tree of calls with a hole in one of its bodies. -/
inductive Context (γ : Type) where
  /-- The hole is here, between calls of one body. -/
  | here (before after : List (Call Unit γ))
  /-- The hole is in the open body of a block. -/
  | within (before : List (Call Unit γ)) (block : Block γ) (inside : Context γ)
      (after : List (Call Unit γ))

namespace Context

/-- The tree with calls in the hole. -/
def fill (calls : List (Call Unit γ)) : Context γ → List (Call Unit γ)
  | here before after => before ++ (calls ++ after)
  | within before block inside after => before ++ block.around (inside.fill calls) :: after

/-- The number that the hole begins with, if the tree begins with the number `next`. -/
def number (next : Nat) : Context γ → Nat
  | here before _ => next + Call.blocksOf before
  | within before block inside _ => inside.number (block.number (next + Call.blocksOf before))

/-- The instructions in front of the hole. -/
def front (next : Nat) : Context γ → List (Command γ)
  | here before _ => Call.commandsOf (Call.numberedAll next before)
  | within before block inside _ =>
    Call.commandsOf (Call.numberedAll next before) ++
      (block.front (next + Call.blocksOf before) ++
        inside.front (block.number (next + Call.blocksOf before)))

theorem le_number (C : Context γ) (next : Nat) : next ≤ C.number next := by
  induction C generalizing next with
  | here before after => exact Nat.le_add_right ..
  | within before block inside after ih =>
    have to_block := block.le_number (next + Call.blocksOf before)
    have to_hole := ih (block.number (next + Call.blocksOf before))
    rw [number]
    omega

open Command Call

theorem number_le (C : Context γ) (next : Nat) (calls : List (Call Unit γ)) :
    C.number next + blocksOf calls ≤ next + blocksOf (C.fill calls) := by
  induction C generalizing next with
  | here before after =>
    simp only [number, fill, blocksOf_append]
    omega
  | within before block inside after ih =>
    have from_hole := ih (block.number (next + blocksOf before))
    have from_block := block.number_le (next + blocksOf before) (inside.fill calls)
    simp only [number, fill, blocksOf_append, blocksOf]
    omega

/-- A tree is laid out around what is in its hole. -/
theorem exists_back (C : Context γ) (next : Nat) (calls : List (Call Unit γ)) :
    ∃ back, commandsOf (numberedAll next (C.fill calls)) =
        C.front next ++ (commandsOf (numberedAll (C.number next) calls) ++ back) ∧
      Numbers (C.front next) (· < C.number next) ∧
      Numbers back fun id => id < C.number next ∨ C.number next + blocksOf calls ≤ id := by
  induction C generalizing next with
  | here before after =>
    have earlier := numbers_numberedAll next before
    have later := numbers_numberedAll (next + blocksOf before + blocksOf calls) after
    refine ⟨_, ?_, earlier.mono fun id between => between.2,
      later.mono fun id between => .inr between.1⟩
    simp [fill, front, number, numberedAll_append]
  | within before block inside after ih =>
    obtain ⟨start, start_eq⟩ : ∃ start, start = next + blocksOf before := ⟨_, rfl⟩
    obtain ⟨ends, laid_out, opens, closes⟩ := block.exists_back start (inside.fill calls)
    obtain ⟨back, laid_out', inner, outer⟩ := ih (block.number start)
    have earlier := numbers_numberedAll next before
    have later := numbers_numberedAll (start + (block.around (inside.fill calls)).blocks) after
    have to_block := block.le_number start
    have to_hole := inside.le_number (block.number start)
    have from_hole := inside.number_le (block.number start) calls
    have from_block := block.number_le start (inside.fill calls)
    refine ⟨back ++ (ends ++ commandsOf (numberedAll
      (start + (block.around (inside.fill calls)).blocks) after)), ?_, ?_, ?_⟩
    · simp [fill, front, number, numberedAll_append, numberedAll, commandsOf, ← start_eq, laid_out,
        laid_out']
    · simp only [front, number, ← start_eq, Numbers.append_iff]
      exact ⟨earlier.mono fun id between => by omega, opens.mono fun id below => by omega, inner⟩
    · simp only [number, ← start_eq, Numbers.append_iff]
      exact ⟨outer, closes.mono fun id aside => by omega, later.mono fun id between => by omega⟩

/-- The tree with calls in front of the hole. -/
def past (calls : List (Call Unit γ)) : Context γ → Context γ
  | here before after => here (before ++ calls) after
  | within before block inside after => within before block (inside.past calls) after

section

variable (C : Context γ) (calls more : List (Call Unit γ)) (next : Nat)

theorem fill_past : (C.past calls).fill more = C.fill (calls ++ more) := by
  induction C with
  | here before after => simp [past, fill]
  | within before block inside after ih => simp [past, fill, ih]

theorem front_past :
    (C.past calls).front next = C.front next ++ commandsOf (numberedAll (C.number next) calls) := by
  induction C generalizing next with
  | here before after => simp [past, front, number, numberedAll_append]
  | within before block inside after ih => simp [past, front, number, ih]

end

end Context

end Gleaner
