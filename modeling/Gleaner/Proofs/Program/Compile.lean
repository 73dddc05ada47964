import Gleaner.Proofs.Program.Call

/-! # What a builder compiles

What each call of a builder does to its instructions and to its counter. Where every closure
adds to the builder that it is given, the result is the tree of calls laid out, numbered in the
order in which loops and conditions begin. Where closures return builders from elsewhere, the
numbers can be any, but the instructions are balanced all the same. -/

namespace Gleaner

variable {γ : Type}

namespace Builder

section

variable (b inner : Builder γ) (name : Option String) (predicate : List Matchable)
  (spec : ElementSpec γ) (body otherwise : Builder γ → Builder γ)

@[simp] theorem startAt_commands (next : Nat) :
    (startAt name next : Builder γ).commands = [] := rfl

@[simp] theorem startAt_nextId (next : Nat) :
    (startAt name next : Builder γ).nextId = next := rfl

@[simp] theorem fail_commands (error : BuildError) : (b.fail error).commands = b.commands := rfl

@[simp] theorem fail_nextId (error : BuildError) : (b.fail error).nextId = b.nextId := rfl

@[simp] theorem require_commands (tag : String) (matchables : List Matchable) :
    (b.require tag matchables).commands = b.commands := by
  unfold require
  split <;> rfl

@[simp] theorem require_nextId (tag : String) (matchables : List Matchable) :
    (b.require tag matchables).nextId = b.nextId := by
  unfold require
  split <;> rfl

@[simp] theorem add_commands (command : Command γ) :
    (b.add command).commands = b.commands ++ [command] := rfl

@[simp] theorem add_nextId (command : Command γ) : (b.add command).nextId = b.nextId := rfl

@[simp] theorem absorb_commands : (b.absorb inner).commands = b.commands ++ inner.commands := rfl

@[simp] theorem absorb_nextId : (b.absorb inner).nextId = inner.nextId := rfl

@[simp] theorem absorbLevel_commands :
    (b.absorbLevel inner).commands = b.commands ++ inner.commands := rfl

@[simp] theorem absorbLevel_nextId : (b.absorbLevel inner).nextId = inner.nextId := rfl

theorem step_commands : (b.step spec).commands = b.commands ++ [.step spec] := by
  simp [step]

theorem step_nextId : (b.step spec).nextId = b.nextId := by simp [step]

theorem stepIf_commands :
    (b.stepIf predicate spec).commands = b.commands ++ [.stepIf predicate spec] := by
  simp [stepIf, requirePredicate]

theorem stepIf_nextId : (b.stepIf predicate spec).nextId = b.nextId := by
  simp [stepIf, requirePredicate]

theorem nestGroup_commands :
    (b.nestGroup name body).commands =
      b.commands ++ .push name :: ((body (startAt name b.nextId)).commands ++ [.pop]) := by
  unfold nestGroup
  split <;> simp [absorbNest]

theorem nestGroup_nextId :
    (b.nestGroup name body).nextId = (body (startAt name b.nextId)).nextId := by
  unfold nestGroup
  split <;> rfl

theorem loopWhile_commands :
    (b.loopWhile predicate body).commands =
      b.commands ++ .beginLoop b.nextId predicate ::
        ((body (startAt none (b.nextId + 1))).commands ++ [.endLoop b.nextId]) := by
  simp [loopWhile, requirePredicate, claimId]

theorem loopWhile_nextId :
    (b.loopWhile predicate body).nextId = (body (startAt none (b.nextId + 1))).nextId := by
  simp [loopWhile, requirePredicate, claimId]

theorem executeIf_commands :
    (b.executeIf predicate body).commands =
      b.commands ++ .beginCondition b.nextId predicate ::
        ((body (startAt none (b.nextId + 1))).commands ++ [.endCondition b.nextId]) := by
  simp [executeIf, beginCondition, requirePredicate, claimId]

theorem executeIf_nextId :
    (b.executeIf predicate body).nextId = (body (startAt none (b.nextId + 1))).nextId := by
  simp [executeIf, beginCondition, requirePredicate, claimId]

theorem executeIfElse_commands :
    (b.executeIfElse predicate body otherwise).commands =
      b.commands ++ .beginCondition b.nextId predicate ::
        ((body (startAt none (b.nextId + 1))).commands ++ .elseCondition b.nextId ::
          ((otherwise (startAt none (body (startAt none (b.nextId + 1))).nextId)).commands ++
            [.endCondition b.nextId])) := by
  simp [executeIfElse, beginCondition, requirePredicate, claimId]

theorem executeIfElse_nextId :
    (b.executeIfElse predicate body otherwise).nextId =
      (otherwise (startAt none (body (startAt none (b.nextId + 1))).nextId)).nextId := by
  simp [executeIfElse, beginCondition, requirePredicate, claimId]

end

theorem build_commands {b : Builder γ} {program : Program γ} (built : b.build = .ok program) :
    program.commands = b.commands := by
  unfold build at built
  split at built
  · simp at built
  · obtain rfl : _ = program := by simpa using built
    rfl

end Builder

namespace Call

open Builder

mutual

/-- A call lays its instructions out behind those that are there, numbered from the counter on,
and leaves the counter behind the numbers used. -/
theorem addTo_compiles :
    (call : Call Unit γ) → (b : Builder γ) →
      (call.addTo b).commands = b.commands ++ (call.numbered b.nextId).commands ∧
        (call.addTo b).nextId = b.nextId + call.blocks
  | step spec, b => ⟨step_commands b spec, step_nextId b spec⟩
  | stepIf predicate spec, b =>
    ⟨stepIf_commands b predicate spec, stepIf_nextId b predicate spec⟩
  | peek _, _ | breakpoint, _ => ⟨rfl, rfl⟩
  | nest name body, b => by
    obtain ⟨inside, counter⟩ := addAllTo_compiles body (startAt name b.nextId)
    refine ⟨?_, by simp [addTo, nestGroup_nextId, counter, blocks]⟩
    simp [addTo, nestGroup_commands, inside, numbered, commands]
  | loop _ predicate body, b => by
    obtain ⟨inside, counter⟩ := addAllTo_compiles body (startAt none (b.nextId + 1))
    refine ⟨?_, by simp [addTo, loopWhile_nextId, counter, blocks]; omega⟩
    simp [addTo, loopWhile_commands, inside, numbered, commands]
  | guard _ predicate body, b => by
    obtain ⟨inside, counter⟩ := addAllTo_compiles body (startAt none (b.nextId + 1))
    refine ⟨?_, by simp [addTo, executeIf_nextId, counter, blocks]; omega⟩
    simp [addTo, executeIf_commands, inside, numbered, commands]
  | choice _ predicate body otherwise, b => by
    obtain ⟨inside, counter⟩ := addAllTo_compiles body (startAt none (b.nextId + 1))
    obtain ⟨inside', counter'⟩ :=
      addAllTo_compiles otherwise (startAt none (b.nextId + 1 + blocksOf body))
    rw [startAt_nextId] at counter counter'
    refine ⟨?_, by simp [addTo, executeIfElse_nextId, counter, counter', blocks]; omega⟩
    simp [addTo, executeIfElse_commands, inside, counter, inside', numbered, commands]

theorem addAllTo_compiles :
    (calls : List (Call Unit γ)) → (b : Builder γ) →
      (addAllTo calls b).commands = b.commands ++ commandsOf (numberedAll b.nextId calls) ∧
        (addAllTo calls b).nextId = b.nextId + blocksOf calls
  | [], b => by simp [addAllTo, numberedAll, commandsOf, blocksOf]
  | call :: rest, b => by
    obtain ⟨inside, counter⟩ := addTo_compiles call b
    obtain ⟨inside', counter'⟩ := addAllTo_compiles rest (call.addTo b)
    simp [addAllTo, inside', counter', inside, counter, numberedAll, commandsOf, blocksOf,
      Nat.add_assoc]

end

section

variable {name : Option String} {calls : List (Call Unit γ)} {program : Program γ}

theorem commands_of_built (built : (addAllTo calls (root name)).build = .ok program) :
    program.commands = commandsOf (numberedAll 0 calls) :=
  (build_commands built).trans (addAllTo_compiles calls (root name)).1

theorem balanced_of_built (built : (addAllTo calls (root name)).build = .ok program) :
    Bracket.Balanced program.commands := by
  rw [commands_of_built built]
  exact balanced_commandsOf _

end

/-- A program whose closures add to the builders that they are given is its calls laid out in
order. Its markers are balanced, and its loops and conditions are numbered without gaps from 0
on in the order in which they begin. This holds of the builder, whether or not a mistake keeps
it from being built. -/
theorem compiles_in_order (name : Option String) (calls : List (Call Unit γ)) :
    let b := addAllTo calls (root name)
    ∃ numbered : List (Call Nat γ), unmarkedAll numbered = calls ∧
      b.commands = commandsOf numbered ∧ Bracket.Balanced b.commands ∧
      b.nextId = blocksOf calls ∧
      b.commands.filterMap Command.begun? = List.range b.nextId ∧
      (b.commands.filterMap Command.begun?).Nodup := by
  intro b
  obtain ⟨laid_out, counter⟩ := addAllTo_compiles calls (root name)
  have laid_out : b.commands = commandsOf (numberedAll 0 calls) := laid_out
  have counter : b.nextId = blocksOf calls := counter.trans (Nat.zero_add _)
  have begun : b.commands.filterMap Command.begun? = List.range b.nextId := by
    rw [laid_out, begun_numberedAll, counter, List.range_eq_range']
  refine ⟨numberedAll 0 calls, unmarkedAll_numberedAll 0 calls, laid_out, ?_, counter, begun, ?_⟩
  · rw [laid_out]
    exact balanced_commandsOf _
  · rw [begun]
    exact List.nodup_range

end Call

/-! ## Builders from elsewhere -/

/-- The builders that can be had at all. A closure may return any of them, whatever builder it
is given. -/
inductive Builder.Made : Builder γ → Prop where
  | startAt (name : Option String) (next : Nat) : Made (startAt name next)
  | step {b : Builder γ} (spec : ElementSpec γ) : Made b → Made (b.step spec)
  | stepIf {b : Builder γ} (predicate : List Matchable) (spec : ElementSpec γ) :
      Made b → Made (b.stepIf predicate spec)
  | peek {b : Builder γ} (f : γ → γ) : Made b → Made (b.peek f)
  | breakpoint {b : Builder γ} : Made b → Made b.breakpoint
  | nestGroup {b : Builder γ} (name : Option String) (body : Builder γ → Builder γ) :
      Made b → Made (body (.startAt name b.nextId)) → Made (b.nestGroup name body)
  | loopWhile {b : Builder γ} (predicate : List Matchable) (body : Builder γ → Builder γ) :
      Made b → Made (body (.startAt none (b.nextId + 1))) → Made (b.loopWhile predicate body)
  | executeIf {b : Builder γ} (predicate : List Matchable) (body : Builder γ → Builder γ) :
      Made b → Made (body (.startAt none (b.nextId + 1))) → Made (b.executeIf predicate body)
  | executeIfElse {b : Builder γ} (predicate : List Matchable)
      (body otherwise : Builder γ → Builder γ) :
      Made b → Made (body (.startAt none (b.nextId + 1))) →
      Made (otherwise (.startAt none (body (.startAt none (b.nextId + 1))).nextId)) →
      Made (b.executeIfElse predicate body otherwise)

/-- Whatever closures return, the instructions of a builder are calls laid out; the numbers of
these calls can be any. -/
theorem Builder.Made.exists_calls {b : Builder γ} (made : b.Made) :
    ∃ calls : List (Call Nat γ), b.commands = Call.commandsOf calls := by
  induction made with
  | startAt name next => exact ⟨[], rfl⟩
  | step spec _ ih =>
    obtain ⟨calls, laid_out⟩ := ih
    exact ⟨calls ++ [.step spec], by simp [step_commands, laid_out, Call.commands]⟩
  | stepIf predicate spec _ ih =>
    obtain ⟨calls, laid_out⟩ := ih
    exact ⟨calls ++ [.stepIf predicate spec], by simp [stepIf_commands, laid_out, Call.commands]⟩
  | peek f _ ih =>
    obtain ⟨calls, laid_out⟩ := ih
    exact ⟨calls ++ [.peek f], by simp [Builder.peek, laid_out, Call.commands]⟩
  | breakpoint _ ih =>
    obtain ⟨calls, laid_out⟩ := ih
    exact ⟨calls ++ [.breakpoint], by simp [Builder.breakpoint, laid_out, Call.commands]⟩
  | @nestGroup b name body _ _ ih ih_body =>
    obtain ⟨calls, laid_out⟩ := ih
    obtain ⟨inside, laid_out'⟩ := ih_body
    refine ⟨calls ++ [.nest name inside], ?_⟩
    simp [nestGroup_commands, laid_out, laid_out', Call.commands]
  | @loopWhile b predicate body _ _ ih ih_body =>
    obtain ⟨calls, laid_out⟩ := ih
    obtain ⟨inside, laid_out'⟩ := ih_body
    refine ⟨calls ++ [.loop b.nextId predicate inside], ?_⟩
    simp [loopWhile_commands, laid_out, laid_out', Call.commands]
  | @executeIf b predicate body _ _ ih ih_body =>
    obtain ⟨calls, laid_out⟩ := ih
    obtain ⟨inside, laid_out'⟩ := ih_body
    refine ⟨calls ++ [.guard b.nextId predicate inside], ?_⟩
    simp [executeIf_commands, laid_out, laid_out', Call.commands]
  | @executeIfElse b predicate body otherwise _ _ _ ih ih_body ih_otherwise =>
    obtain ⟨calls, laid_out⟩ := ih
    obtain ⟨inside, laid_out'⟩ := ih_body
    obtain ⟨inside', laid_out''⟩ := ih_otherwise
    refine ⟨calls ++ [.choice b.nextId predicate inside inside'], ?_⟩
    simp [executeIfElse_commands, laid_out, laid_out', laid_out'', Call.commands]

/-- However they are numbered, the markers of a built program are balanced. -/
theorem Builder.Made.balanced {b : Builder γ} (made : b.Made) {program : Program γ}
    (built : b.build = .ok program) : Bracket.Balanced program.commands := by
  obtain ⟨calls, laid_out⟩ := made.exists_calls
  rw [build_commands built, laid_out]
  exact Call.balanced_commandsOf calls

end Gleaner
