import Gleaner.Machine.Run
import Gleaner.Proofs.Machine.Course

/-! # What steps find

A step finds the nearest sibling from the cursor on that meets its spec. Said once: which sibling
an instruction finds, and what that does to the frame, to the counters and to the collector. -/

namespace Gleaner

variable {γ : Type}

/-- What stands before the first node that meets a test does not meet it. -/
theorem findFrom_passed {test : Node → Bool} {start position : Nat} {nodes : List Node}
    {node : Node} (found : findFrom test start nodes = some (node, position)) {i : Nat}
    {other : Node} (le : start ≤ i) (before : i < position)
    (there : nodes[i - start]? = some other) : test other = false := by
  induction nodes generalizing start with
  | nil => simp [findFrom] at found
  | cons head rest ih =>
    simp only [findFrom] at found
    split at found
    case isTrue met =>
      obtain ⟨rfl, rfl⟩ : head = node ∧ start = position := by simpa using found
      omega
    case isFalse unmet =>
      rcases Nat.eq_or_lt_of_le le with rfl | lt
      · obtain rfl : head = other := by simpa using there
        simpa using unmet
      · have later : i - start = i - (start + 1) + 1 := by omega
        rw [later, List.getElem?_cons_succ] at there
        exact ih found lt there

theorem ElementSpec.accepts_iff {spec : ElementSpec γ} {node : Node} :
    spec.accepts node = true ↔
      (∃ name, node.tagName? = some name ∧ sameName name spec.tag = true) ∧
        ∀ matchable ∈ spec.matchables, matchable.accepts node = true := by
  simp [accepts, Matchable.allAccept, Option.any_eq_true]

/-- A sibling that a step has found, with its position and the spec that it meets. -/
structure Hit (γ : Type) where
  spec : ElementSpec γ
  node : Node
  position : Nat

/-- Whether a hit is the first of the siblings from a position on that meets the spec. -/
structure Hit.Nearest (siblings : List Node) (first : Nat) (hit : Hit γ) : Prop where
  le : first ≤ hit.position
  there : siblings[hit.position]? = some hit.node
  meets : hit.spec.accepts hit.node = true
  passed : ∀ position node, first ≤ position → position < hit.position →
    siblings[position]? = some node → hit.spec.accepts node = false

/-- The sibling that a step for a spec finds. -/
def Frame.hit? (f : Frame) (spec : ElementSpec γ) : Option (Hit γ) :=
  (f.find? spec).map fun found => ⟨spec, found.1, found.2⟩

theorem Frame.nearest_of_hit? {f : Frame} {spec : ElementSpec γ} {hit : Hit γ}
    (found : f.hit? spec = some hit) : hit.Nearest f.siblings f.index := by
  obtain ⟨⟨node, position⟩, finds, rfl⟩ := Option.map_eq_some_iff.mp found
  obtain ⟨le, there, meets⟩ := Frame.find?_eq_some finds
  refine ⟨le, there, meets, ?_⟩
  intro i other from_cursor before there'
  refine findFrom_passed finds from_cursor before ?_
  rw [List.getElem?_drop, Nat.add_sub_cancel' from_cursor]
  exact there'

namespace Command

/-- The sibling that an instruction finds, by the frame that it is carried out in. -/
def hit? (frame : Frame) : Command γ → Option (Hit γ)
  | step spec => frame.hit? spec
  | stepIf predicate spec => if frame.nextMeets predicate then frame.hit? spec else none
  | _ => none

/-- The spec of an instruction that looks for a node. -/
def sought? : Command γ → Option (ElementSpec γ)
  | step spec | stepIf _ spec => some spec
  | _ => none

/-- Whether an instruction enters or leaves a scope. -/
def isScope : Command γ → Bool
  | push _ | pop => true
  | _ => false

/-- What an instruction does to the collector without a node. -/
def onPeek? : Command γ → Option (γ → γ)
  | peek f => some f
  | _ => none

theorem nearest_of_hit? {frame : Frame} {command : Command γ} {hit : Hit γ}
    (found : command.hit? frame = some hit) : hit.Nearest frame.siblings frame.index := by
  cases command with
  | step spec => exact Frame.nearest_of_hit? found
  | stepIf predicate spec =>
    simp only [hit?] at found
    split at found
    · exact Frame.nearest_of_hit? found
    · simp at found
  | _ => simp [hit?] at found

theorem sought?_of_hit? {frame : Frame} {command : Command γ} {hit : Hit γ}
    (found : command.hit? frame = some hit) : command.sought? = some hit.spec := by
  have keeps : ∀ spec : ElementSpec γ, frame.hit? spec = some hit → spec = hit.spec := by
    intro spec hits
    obtain ⟨_, -, rfl⟩ := Option.map_eq_some_iff.mp hits
    rfl
  cases command with
  | step spec => rw [sought?, keeps spec found]
  | stepIf predicate spec =>
    simp only [hit?] at found
    split at found
    · rw [sought?, keeps spec found]
    · simp at found
  | _ => simp [hit?] at found

theorem effect_taken (frame : Frame) (spec : ElementSpec γ) (collector : γ) :
    effect.taken frame spec collector =
      (frame.hit? spec).elim collector fun hit => hit.spec.collect hit.node collector := by
  unfold effect.taken Frame.hit?
  cases frame.find? spec <;> rfl

/-- An instruction that finds a sibling hands that to the collector; of the others, only a peek does
anything to it. -/
theorem effect_eq (frame : Frame) (command : Command γ) (collector : γ) :
    command.effect frame collector =
      match command.hit? frame with
      | some hit => hit.spec.collect hit.node collector
      | none => (command.onPeek?.getD id) collector := by
  cases command with
  | step spec =>
    simp only [effect, effect_taken, hit?, onPeek?, Option.getD_none, id_eq]
    cases frame.hit? spec <;> rfl
  | stepIf predicate spec =>
    cases met : frame.nextMeets predicate with
    | false => simp [effect, hit?, onPeek?, met]
    | true =>
      simp only [effect, effect_taken, hit?, onPeek?, met, if_true, Option.getD_none, id_eq]
      cases frame.hit? spec <;> rfl
  | _ => rfl

end Command

namespace Traversal

variable {limit : Option Nat} {commands : List (Command γ)} {t t' : Traversal}
  {command : Command γ}

/-- What an instruction that stays among the same siblings does to the frames: the cursor goes
behind the sibling that is found, if any, and otherwise stays. -/
structure OnLevel (command : Command γ) (t t' : Traversal) : Prop where
  siblings : t'.frame.siblings = t.frame.siblings
  index : t'.frame.index = (command.hit? t.frame).elim t.frame.index (·.position + 1)
  saved : t'.saved = t.saved
  matched : t'.stats.stepsMatched =
    t.stats.stepsMatched + (command.hit? t.frame).toList.length

theorem OnLevel.of_eq (nothing : command.hit? t.frame = none)
    (siblings : t'.frame.siblings = t.frame.siblings) (index : t'.frame.index = t.frame.index)
    (saved : t'.saved = t.saved) (matched : t'.stats.stepsMatched = t.stats.stepsMatched) :
    OnLevel command t t' := by
  refine ⟨siblings, ?_, saved, ?_⟩
  · rw [nothing]
    exact index
  · rw [nothing]
    exact matched

theorem OnLevel.of_take {spec : ElementSpec γ} (hits : command.hit? t.frame = t.frame.hit? spec)
    (taken : t' = (t.take spec).advance) : OnLevel command t t' := by
  subst taken
  unfold take Frame.hit? at *
  cases found : t.frame.find? spec with
  | none =>
    rw [found] at hits
    exact .of_eq hits rfl rfl rfl rfl
  | some hit =>
    rw [found] at hits
    exact ⟨rfl, by rw [hits]; rfl, rfl, by rw [hits]; rfl⟩

/-- A step that finds a sibling goes on behind it and keeps it. -/
theorem execute_of_hit? {hit : Hit γ} (found : command.hit? t.frame = some hit) :
    ∃ stats, t.execute limit commands command =
      .ok ⟨t.pc + 1, t.frame.found hit.node hit.position, t.saved, t.loops, stats⟩ := by
  have takes : ∀ spec, t.frame.hit? spec = some hit → ∃ stats, (t.take spec).advance =
      ⟨t.pc + 1, t.frame.found hit.node hit.position, t.saved, t.loops, stats⟩ := by
    intro spec hits
    obtain ⟨⟨node, position⟩, finds, rfl⟩ := Option.map_eq_some_iff.mp hits
    simp only [take, finds]
    exact ⟨_, rfl⟩
  cases command with
  | step spec =>
    obtain ⟨stats, taken⟩ := takes spec found
    exact ⟨stats, by rw [execute, taken]⟩
  | stepIf predicate spec =>
    simp only [Command.hit?] at found
    split at found
    · rename_i met
      obtain ⟨stats, taken⟩ := takes spec found
      exact ⟨stats, by rw [execute, if_pos met, taken]⟩
    · simp at found
  | _ => simp [Command.hit?] at found

theorem onLevel_of_execute (level : command.isScope = false)
    (ok : t.execute limit commands command = .ok t') : OnLevel command t t' := by
  cases command with
  | step spec => exact .of_take rfl (by simpa [execute] using ok.symm)
  | stepIf predicate spec =>
    simp only [execute, Except.ok.injEq] at ok
    cases met : t.frame.nextMeets predicate with
    | false =>
      rw [met] at ok
      subst ok
      exact .of_eq (by simp [Command.hit?, met]) rfl rfl rfl rfl
    | true =>
      rw [met] at ok
      exact .of_take (by simp [Command.hit?, met]) ok.symm
  | push name | pop => simp [Command.isScope] at level
  | beginLoop id predicate =>
    simp only [execute, beginLoop] at ok
    split at ok
    · obtain rfl := Except.ok.inj ok
      exact .of_eq rfl rfl rfl rfl rfl
    · obtain ⟨target, -, rfl⟩ := skipPast_eq_ok ok
      exact .of_eq rfl rfl rfl rfl rfl
  | endLoop id =>
    simp only [execute, endLoop] at ok
    split at ok
    · simp at ok
    split at ok
    · simp at ok
    split at ok
    · obtain rfl := Except.ok.inj ok
      exact .of_eq rfl rfl rfl rfl rfl
    split at ok
    · simp at ok
    · obtain rfl := Except.ok.inj ok
      exact .of_eq rfl rfl rfl rfl rfl
  | beginCondition id predicate =>
    simp only [execute] at ok
    split at ok
    · obtain rfl := Except.ok.inj ok
      exact .of_eq rfl rfl rfl rfl rfl
    · obtain ⟨target, -, rfl⟩ := skipPast_eq_ok ok
      exact .of_eq rfl rfl rfl rfl rfl
  | elseCondition id =>
    obtain ⟨target, -, rfl⟩ := skipPast_eq_ok ok
    exact .of_eq rfl rfl rfl rfl rfl
  | endCondition id | peek f | breakpoint =>
    obtain rfl := Except.ok.inj ok
    exact .of_eq rfl rfl rfl rfl rfl

end Traversal

end Gleaner
