import Gleaner.Proofs.Machine.Arrival

/-! # Loops around one step

A predicate looks at the next sibling, the step in the loop at all that are left. What such a loop
gathers has a closed form in two cases. If the step finds every sibling that the predicate holds
for, these are the siblings up to the first for which it does not hold. If the predicate holds for
all siblings that are left, these are all that the step finds; then one iteration may be in vain. In
both cases the limit cuts off the rest. -/

namespace Gleaner

variable {α γ : Type}

/-- The members of a list as far as a limit allows. -/
def upTo (limit : Option Nat) (l : List α) : List α := limit.elim l l.take

section

variable {limit : Option Nat} {done : Nat}

/-- Nothing is left of a limit that has been reached. -/
theorem upTo_spent (spent : limit.any (· ≤ done) = true) (l : List α) :
    upTo (limit.map (· - done)) l = [] := by
  obtain ⟨most, rfl, le⟩ := (Option.any_eq_true ..).mp spent
  have reached : most - done = 0 := Nat.sub_eq_zero_of_le (by simpa using le)
  simp [upTo, reached]

/-- A limit that has not been reached allows one more. -/
theorem upTo_cons (unspent : limit.any (· ≤ done) = false) (x : α) (l : List α) :
    upTo (limit.map (· - done)) (x :: l) = x :: upTo (limit.map (· - (done + 1))) l := by
  cases limit with
  | none => rfl
  | some most =>
    have room : most - done = most - (done + 1) + 1 := by
      simp at unspent
      omega
    simp [upTo, room]

@[simp] theorem upTo_nil (limit : Option Nat) : upTo limit ([] : List α) = [] := by
  cases limit <;> simp [upTo]

end

namespace Frame

variable {f : Frame} {node : Node} {position : Nat} {spec : ElementSpec γ}

theorem find?_eq_find?_rest (f : Frame) (spec : ElementSpec γ) :
    f.find? spec = f.rest.find? (spec.accepts ·.1) :=
  findFrom_eq_find?_zipIdx ..

theorem rest_eq_nil (behind : f.next? = none) : f.rest = [] := by
  have le : f.siblings.length ≤ f.index := List.getElem?_eq_none_iff.mp behind
  simp [rest, List.drop_eq_nil_of_le le]

theorem rest_eq_cons (there : f.next? = some node) (matched : Option Node) :
    f.rest = (node, f.index) :: rest ⟨f.siblings, f.index + 1, matched⟩ := by
  obtain ⟨inside, rfl⟩ := List.getElem?_eq_some_iff.mp there
  rw [rest, List.drop_eq_getElem_cons inside, List.zipIdx_cons]
  rfl

theorem takeWhile_rest_eq_nil {predicate : List Matchable}
    (misses : f.nextMeets predicate = false) :
    f.rest.takeWhile (Matchable.allAccept predicate ·.1) = [] := by
  cases next : f.next? with
  | none => rw [rest_eq_nil next, List.takeWhile_nil]
  | some node =>
    have unmet : ¬Matchable.allAccept predicate node = true := by
      simpa [nextMeets, next] using misses
    rw [rest_eq_cons next none]
    exact List.takeWhile_cons_of_neg unmet

/-- If a predicate holds for all siblings that are left, it fails for the next one only where there
is none. -/
theorem next?_eq_none_of_holds {predicate : List Matchable}
    (holds : ∀ sibling ∈ f.rest, Matchable.allAccept predicate sibling.1 = true)
    (misses : f.nextMeets predicate = false) : f.next? = none := by
  cases next : f.next? with
  | none => rfl
  | some node =>
    have first := holds (node, f.index) (by simp [rest_eq_cons next none])
    simp [nextMeets, next, first] at misses

/-- The siblings that are left behind one of those that are left. -/
theorem rest_append {passed later : List (Node × Nat)}
    (split : f.rest = passed ++ (node, position) :: later) (matched : Option Node) :
    later = rest ⟨f.siblings, position + 1, matched⟩ := by
  induction passed generalizing f with
  | nil =>
    cases next : f.next? with
    | none => simp [rest_eq_nil next] at split
    | some other =>
      rw [rest_eq_cons next matched] at split
      obtain ⟨same, rfl⟩ := List.cons.inj split
      obtain ⟨-, rfl⟩ := Prod.mk.inj same
      rfl
  | cons first passed ih =>
    cases next : f.next? with
    | none => simp [rest_eq_nil next] at split
    | some other =>
      rw [rest_eq_cons next matched] at split
      exact ih (f := ⟨f.siblings, f.index + 1, matched⟩) (List.cons.inj split).2

/-- What a step finds is behind siblings that do not meet its spec. -/
theorem exists_rest_eq (found : f.find? spec = some (node, position)) :
    spec.accepts node = true ∧
      ∃ passed, f.rest = passed ++ (node, position) :: (f.found node position).rest ∧
        ∀ other ∈ passed, ¬spec.accepts other.1 = true := by
  rw [find?_eq_find?_rest, List.find?_eq_some_iff_append] at found
  obtain ⟨met, passed, later, split, unmet⟩ := found
  refine ⟨met, passed, ?_, fun other member => by simpa using unmet other member⟩
  rw [split, rest_append split (some node)]
  rfl

/-- The siblings that a step finds one after the other are all that meet its spec. -/
theorem filter_rest_eq_cons (found : f.find? spec = some (node, position)) :
    f.rest.filter (spec.accepts ·.1) =
      (node, position) :: (f.found node position).rest.filter (spec.accepts ·.1) := by
  obtain ⟨met, passed, split, unmet⟩ := exists_rest_eq found
  rw [split, List.filter_append, List.filter_cons, if_pos met, List.filter_eq_nil_iff.mpr unmet]
  rfl

theorem filter_rest_eq_nil (found : f.find? spec = none) :
    f.rest.filter (spec.accepts ·.1) = [] := by
  rw [find?_eq_find?_rest, List.find?_eq_none] at found
  exact List.filter_eq_nil_iff.mpr found

/-- How many iterations in vain a loop makes after a number of others: one, if siblings are left and
the limit is not reached. -/
def vain (f : Frame) (limit : Option Nat) (done : Nat) : Nat :=
  if f.index < f.siblings.length ∧ ∀ most ∈ limit, done < most then 1 else 0

section

variable {limit : Option Nat} {done : Nat}

theorem vain_of_spent (spent : limit.any (· ≤ done) = true) : f.vain limit done = 0 := by
  obtain ⟨most, reached, le⟩ := (Option.any_eq_true ..).mp spent
  exact if_neg fun going => Nat.not_lt_of_le (of_decide_eq_true le) (going.2 most reached)

theorem vain_of_behind (behind : f.next? = none) : f.vain limit done = 0 :=
  if_neg fun going => Nat.not_le_of_lt going.1 (List.getElem?_eq_none_iff.mp behind)

theorem vain_of_unspent (unspent : limit.any (· ≤ done) = false)
    (inside : f.index < f.siblings.length) : f.vain limit done = 1 := by
  refine if_pos ⟨inside, ?_⟩
  rintro most rfl
  simpa using unspent

end

end Frame

/-! ## What is gathered -/

namespace Scope

/-- Whether a loop around a step has visited siblings, with a number of iterations in vain at its
end: the node of each visit goes to the collector, one after the other. -/
structure Gathers (spec : ElementSpec γ) (visited : List (Node × Nat)) (vain : Nat)
    (s s' : Scope γ) : Prop where
  siblings : s'.frame.siblings = s.frame.siblings
  index : s'.frame.index = visited.getLast?.elim s.frame.index (·.2 + 1)
  stepsMatched : s'.stats.stepsMatched = s.stats.stepsMatched + visited.length
  stepsMissed : s'.stats.stepsMissed = s.stats.stepsMissed + vain
  loopIterations : s'.stats.loopIterations = s.stats.loopIterations + (visited.length + vain)
  collector : s'.collector =
    visited.foldl (fun collector visit => spec.collect visit.1 collector) s.collector

variable {spec : ElementSpec γ} {predicate : List Matchable} {limit : Option Nat} {s : Scope γ}

/-- The body of a loop around a step. -/
def stepBody (spec : ElementSpec γ) (s : Scope γ) : Scope γ := s.tick.take spec

theorem stepBody_ahead (spec : ElementSpec γ) (s : Scope γ) :
    s.frame.Ahead (s.stepBody spec).frame :=
  s.tick.take_ahead spec

theorem Gathers.nothing (s : Scope γ) : s.Gathers spec [] 0 s.tick := ⟨rfl, rfl, rfl, rfl, rfl, rfl⟩

theorem stepBody_of_missed (missed : s.frame.find? spec = none) :
    s.stepBody spec = ⟨s.frame.missed,
      { s.tick.stats with stepsMissed := s.stats.stepsMissed + 1 }, s.collector⟩ := by
  simp [stepBody, take, tick, missed]

theorem stepBody_of_found {node : Node} {position : Nat}
    (found : s.frame.find? spec = some (node, position)) :
    s.stepBody spec = ⟨s.frame.found node position,
      { s.tick.stats with stepsMatched := s.stats.stepsMatched + 1 },
      spec.collect node s.collector⟩ := by
  simp [stepBody, take, tick, found]

/-- An iteration in which the step finds nothing. -/
theorem Gathers.in_vain (missed : s.frame.find? spec = none) :
    s.Gathers spec [] 1 (s.tick.again.stepBody spec).tick := by
  rw [stepBody_of_missed (s := s.tick.again) missed]
  exact ⟨rfl, rfl, rfl, rfl, rfl, rfl⟩

/-- An iteration in which the step finds a sibling, and then what is gathered from there on. -/
theorem Gathers.cons {visited : List (Node × Nat)} {vain position : Nat} {node : Node}
    {s' : Scope γ} (found : s.frame.find? spec = some (node, position))
    (later : Gathers spec visited vain (s.tick.again.stepBody spec).tick s') :
    s.Gathers spec ((node, position) :: visited) vain s' := by
  rw [stepBody_of_found (s := s.tick.again) found] at later
  obtain ⟨siblings, index, matched, missed, iterations, collector⟩ := later
  refine ⟨siblings, ?_, ?_, missed, ?_, collector⟩
  · rw [index, List.getLast?_cons]
    cases visited.getLast? <;> rfl
  · rw [matched, List.length_cons]
    simp [tick, again]
    omega
  · rw [iterations, List.length_cons]
    simp [tick, again]
    omega

section

variable {done : Nat}

theorem repeatBody_of_stops
    (stops : limit.any (· ≤ done) = true ∨ s.frame.nextMeets predicate = false) :
    s.repeatBody limit predicate (stepBody spec) done = s.tick := by
  rw [repeatBody, if_pos (by simpa using stops)]

variable (unspent : limit.any (· ≤ done) = false) (meets : s.frame.nextMeets predicate = true)

include unspent meets

theorem repeatBody_of_missed (missed : s.frame.find? spec = none) :
    s.repeatBody limit predicate (stepBody spec) done = (s.tick.again.stepBody spec).tick := by
  have stays : (s.tick.again.stepBody spec).tick.frame.index = s.frame.index := by
    rw [stepBody_of_missed (s := s.tick.again) missed]
    rfl
  rw [repeatBody_eq _ _ (stepBody_ahead spec), if_neg (goes_on_iff.mpr ⟨unspent, meets⟩)]
  exact if_pos stays

/-- After a sibling was found, fewer are left, and the loop goes on there. -/
theorem repeatBody_of_found {node : Node} {position : Nat}
    (found : s.frame.find? spec = some (node, position)) :
    let after := (s.tick.again.stepBody spec).tick
    s.repeatBody limit predicate (stepBody spec) done =
        after.repeatBody limit predicate (stepBody spec) (done + 1) ∧
      after.frame = s.frame.found node position ∧
      after.frame.remaining < s.frame.remaining := by
  intro after
  have place : after.frame = s.frame.found node position := by
    simp only [after]
    rw [stepBody_of_found (s := s.tick.again) found]
    rfl
  have moved : after.frame.index ≠ s.frame.index := by
    have le := (Frame.find?_eq_some found).1
    rw [place]
    exact Nat.ne_of_gt (Nat.lt_succ_of_le le)
  refine ⟨?_, place, ?_⟩
  · rw [repeatBody_eq _ _ (stepBody_ahead spec), if_neg (goes_on_iff.mpr ⟨unspent, meets⟩)]
    exact if_neg moved
  · have inside := Frame.index_lt_of_nextMeets meets
    exact ((stepBody_ahead spec s.tick.again).remaining_lt_iff inside).mpr moved

end

variable (limit predicate spec)

/-- If the step finds every sibling that the predicate holds for, a loop gathers the siblings up to
the first for which it does not hold. -/
theorem repeatBody_gathers_while (done : Nat) (s : Scope γ)
    (finds : ∀ sibling ∈ s.frame.rest,
      Matchable.allAccept predicate sibling.1 = true → spec.accepts sibling.1 = true) :
    let visited := upTo (limit.map (· - done))
      (s.frame.rest.takeWhile (Matchable.allAccept predicate ·.1))
    let after := s.repeatBody limit predicate (stepBody spec) done
    s.Gathers spec visited 0 after ∧ after.frame.index = s.frame.index + visited.length := by
  induction remains : s.frame.remaining using Nat.strongRecOn generalizing done s with
  | ind left ih =>
    intro visited after
    cases spent : limit.any (· ≤ done) with
    | true =>
      have stops : after = s.tick := repeatBody_of_stops (.inl spent)
      have nobody : visited = [] := upTo_spent spent _
      rw [stops, nobody]
      exact ⟨.nothing s, rfl⟩
    | false =>
      cases meets : s.frame.nextMeets predicate with
      | false =>
        have stops : after = s.tick := repeatBody_of_stops (.inr meets)
        have nobody : visited = [] := by
          simp only [visited, Frame.takeWhile_rest_eq_nil meets, upTo_nil]
        rw [stops, nobody]
        exact ⟨.nothing s, rfl⟩
      | true =>
        obtain ⟨node, there, met⟩ := (Option.any_eq_true ..).mp meets
        have rest := Frame.rest_eq_cons there (some node)
        rw [rest] at finds
        obtain ⟨first, later⟩ := List.forall_mem_cons.mp finds
        have found : s.frame.find? spec = some (node, s.frame.index) := by
          rw [Frame.find?_eq_find?_rest, rest]
          exact List.find?_cons_of_pos (first met)
        obtain ⟨goes_on, place, fewer⟩ := repeatBody_of_found spent meets found
        rw [remains] at fewer
        obtain ⟨gathers, index⟩ := ih _ fewer (done + 1) (s.tick.again.stepBody spec).tick
          (by rw [place]; exact later) rfl
        have split : visited = (node, s.frame.index) :: upTo (limit.map (· - (done + 1)))
            ((s.tick.again.stepBody spec).tick.frame.rest.takeWhile
              (Matchable.allAccept predicate ·.1)) := by
          simp only [visited, rest, place]
          rw [List.takeWhile_cons, if_pos met, upTo_cons spent]
          rfl
        simp only [after]
        rw [goes_on, split]
        refine ⟨.cons found gathers, ?_⟩
        rw [index, place, List.length_cons]
        simp only [Frame.found]
        omega

/-- If the predicate holds for all siblings that are left, a loop gathers all that the step finds.
Its last iteration is in vain if siblings are left behind those and the limit allows it. -/
theorem repeatBody_gathers_all (done : Nat) (s : Scope γ)
    (holds : ∀ sibling ∈ s.frame.rest, Matchable.allAccept predicate sibling.1 = true) :
    let visited := upTo (limit.map (· - done)) (s.frame.rest.filter (spec.accepts ·.1))
    let after := s.repeatBody limit predicate (stepBody spec) done
    s.Gathers spec visited (after.frame.vain limit (done + visited.length)) after := by
  induction remains : s.frame.remaining using Nat.strongRecOn generalizing done s with
  | ind left ih =>
    intro visited after
    cases spent : limit.any (· ≤ done) with
    | true =>
      have stops : after = s.tick := repeatBody_of_stops (.inl spent)
      have nobody : visited = [] := upTo_spent spent _
      rw [nobody, List.length_nil, Nat.add_zero, Frame.vain_of_spent spent, stops]
      exact .nothing s
    | false =>
      cases meets : s.frame.nextMeets predicate with
      | false =>
        have behind := Frame.next?_eq_none_of_holds holds meets
        have stops : after = s.tick := repeatBody_of_stops (.inr meets)
        have nobody : visited = [] := by simp [visited, Frame.rest_eq_nil behind]
        have none_vain : s.tick.frame.vain limit done = 0 := Frame.vain_of_behind behind
        rw [nobody, List.length_nil, Nat.add_zero, stops, none_vain]
        exact .nothing s
      | true =>
        cases found : s.frame.find? spec with
        | none =>
          have stops : after = _ := repeatBody_of_missed spent meets found
          have nobody : visited = [] := by simp [visited, Frame.filter_rest_eq_nil found]
          have gathers : s.Gathers spec [] 1 after := by
            rw [stops]
            exact .in_vain found
          have inside : after.frame.index < after.frame.siblings.length := by
            rw [gathers.index, gathers.siblings]
            exact Frame.index_lt_of_nextMeets meets
          rw [nobody, List.length_nil, Nat.add_zero, Frame.vain_of_unspent spent inside]
          exact gathers
        | some hit =>
          obtain ⟨node, position⟩ := hit
          obtain ⟨goes_on, place, fewer⟩ := repeatBody_of_found spent meets found
          obtain ⟨-, passed, whole, -⟩ := Frame.exists_rest_eq found
          rw [← place] at whole
          rw [remains] at fewer
          have gathers := ih _ fewer (done + 1) (s.tick.again.stepBody spec).tick
            (fun sibling member => holds sibling (by simp [whole, member])) rfl
          let later := upTo (limit.map (· - (done + 1)))
            ((s.tick.again.stepBody spec).tick.frame.rest.filter (spec.accepts ·.1))
          have split : visited = (node, position) :: later := by
            simp only [visited, later]
            rw [Frame.filter_rest_eq_cons found, upTo_cons spent, place]
          have count : done + visited.length = done + 1 + later.length := by
            rw [split, List.length_cons, Nat.add_assoc, Nat.add_comm 1]
          rw [count, split]
          simp only [after]
          rw [goes_on]
          exact .cons found gathers

end Scope

/-- A loop that is not the innermost one is entered anew. -/
theorem Traversal.resume_anew {t : Traversal} {id : Nat}
    (anew : ∀ entry ∈ t.loops.head?, entry.id ≠ id) :
    t.resume id = (⟨id, 0, t.frame.index⟩, t.loops) := by
  unfold resume
  cases within : t.loops with
  | nil => rfl
  | cons entry around =>
    have other := anew entry (by simp [within])
    simp [other]

namespace Run

/-- Where a run comes to a loop around one step and enters it anew, it goes through the loop and
gathers siblings. If the step finds every sibling that the predicate holds for, these are the
siblings that are left up to the first for which it does not hold, as far as the limit allows; the
cursor is moved by as many, and nothing is missed. If the predicate holds for all siblings that
are left, these are all that the step finds, as far as the limit allows; the cursor stands behind
the last of them, and there is a miss and one more iteration exactly if siblings are left there
and the limit is not reached. -/
theorem loop_around_step_gathers {program : Program γ} {front back : List (Command γ)} {id : Nat}
    {predicate : List Matchable} {spec : ElementSpec γ}
    (split : program.commands = front ++ ((Call.loop id predicate [.step spec]).commands ++ back))
    {run : Run γ} (here : run.traversal.pc = front.length)
    (anew : ∀ entry ∈ run.traversal.loops.head?, entry.id ≠ id) (config : Config) :
    let limit := config.maxLoopIterations
    let t := run.traversal
    ∃ taken behind, run.advance config program taken = .running behind ∧
      behind.traversal.pc = t.pc + 3 ∧ behind.traversal.saved = t.saved ∧
      behind.traversal.loops = t.loops ∧
      ((∀ sibling ∈ t.frame.rest,
          Matchable.allAccept predicate sibling.1 = true → spec.accepts sibling.1 = true) →
        let visited := upTo limit (t.frame.rest.takeWhile (Matchable.allAccept predicate ·.1))
        run.scope.Gathers spec visited 0 behind.scope ∧
          behind.traversal.frame.index = t.frame.index + visited.length) ∧
      ((∀ sibling ∈ t.frame.rest, Matchable.allAccept predicate sibling.1 = true) →
        let visited := upTo limit (t.frame.rest.filter (spec.accepts ·.1))
        run.scope.Gathers spec visited (behind.traversal.frame.vain limit visited.length)
          behind.scope) := by
  intro limit t
  have resumed := Traversal.resume_anew (t := run.scope.place front.length t.saved t.loops) anew
  have does : Does config program (id :: t.loops.map LoopEntry.id) [.step spec]
      (Scope.stepBody spec) := .step spec
  obtain ⟨taken, log, through⟩ := does.repeats (Scope.stepBody_ahead spec)
    (by simp [Command.loopId?]) front back (by simpa [Call.commands, Call.commandsOf] using split)
    t.saved t.loops rfl 0 run.scope t.loops resumed run.log
  rw [← here] at through
  have gathers_while := Scope.repeatBody_gathers_while spec predicate limit 0 run.scope
  have gathers_all := Scope.repeatBody_gathers_all spec predicate limit 0 run.scope
  simp only [Nat.sub_zero, Option.map_id', Nat.zero_add] at gathers_while gathers_all
  exact ⟨taken, _, through, rfl, rfl, rfl, gathers_while, gathers_all⟩

/-- A loop for all siblings, of which the first and the last do not meet the spec: without a limit,
its last iteration is in vain; a limit of one ends it before. For siblings without attributes, which
the step all finds, it stops at the third. -/
theorem loop_around_step_gathers_between :
    let spec : ElementSpec Nat := ⟨"p", [.any], [], some fun _ _ n => n + 1⟩
    let around (predicate : List Matchable) : Program Nat :=
      ⟨none, (Call.loop 0 predicate [.step spec]).commands⟩
    let within (config : Config) (predicate : List Matchable) (siblings : List Node)
        (index missed iterations collected : Nat) : Prop :=
      ∃ taken behind,
        (start (around predicate) siblings 0).advance config (around predicate) taken =
          .running behind ∧
        behind.traversal.pc = 3 ∧ behind.traversal.frame.index = index ∧
        behind.traversal.stats.stepsMissed = missed ∧
        behind.traversal.stats.loopIterations = iterations ∧ behind.collector = collected
    let own : Dictionary := ⟨[("id", "1")], List.pairwise_singleton ..⟩
    let some_p : List Node := [.text "a", .element "p" .empty [], .element "p" own [], .text "b"]
    let bare_first : List Node := [.element "p" .empty [], .element "p" .empty [],
      .element "p" own [], .element "p" .empty []]
    within .default [.any] some_p 3 1 3 2 ∧ within ⟨false, some 1, false⟩ [.any] some_p 2 0 1 1 ∧
      within .default [.tag .noAttributes] bare_first 2 0 2 2 := by
  intro spec around within own some_p bare_first
  have split : ∀ predicate, (around predicate).commands =
      [] ++ ((Call.loop 0 predicate [.step spec]).commands ++ []) := fun _ => rfl
  have here : ∀ predicate siblings,
      (start (around predicate) siblings 0).traversal.pc = ([] : List (Command Nat)).length :=
    fun _ _ => rfl
  refine ⟨?_, ?_, ?_⟩
  · obtain ⟨taken, behind, through, place, -, -, -, gathers_all⟩ :=
      loop_around_step_gathers (split [.any]) (here [.any] some_p) nofun .default
    obtain ⟨siblings, index, -, missed, iterations, collected⟩ := gathers_all (by decide)
    let visited := (Frame.start some_p).rest.filter (spec.accepts ·.1)
    have count : visited.length = 2 := by decide
    have index : behind.traversal.frame.index = 3 := index.trans (by decide)
    have siblings : behind.traversal.frame.siblings = some_p := siblings
    have vain : behind.traversal.frame.vain none visited.length = 1 :=
      Frame.vain_of_unspent rfl (by rw [index, siblings]; decide)
    refine ⟨taken, behind, through, place, index, missed.trans ?_, iterations.trans ?_,
      collected.trans (by decide)⟩
    · exact congrArg (0 + ·) vain
    · exact congrArg₂ (fun some_more vain => 0 + (some_more + vain)) count vain
  · obtain ⟨taken, behind, through, place, -, -, -, gathers_all⟩ :=
      loop_around_step_gathers (split [.any]) (here [.any] some_p) nofun ⟨false, some 1, false⟩
    obtain ⟨-, index, -, missed, iterations, collected⟩ := gathers_all (by decide)
    let visited := ((Frame.start some_p).rest.filter (spec.accepts ·.1)).take 1
    have count : visited.length = 1 := by decide
    have vain : behind.traversal.frame.vain (some 1) visited.length = 0 :=
      Frame.vain_of_spent (by decide)
    refine ⟨taken, behind, through, place, index.trans (by decide), missed.trans ?_,
      iterations.trans ?_, collected.trans (by decide)⟩
    · exact congrArg (0 + ·) vain
    · exact congrArg₂ (fun some_more vain => 0 + (some_more + vain)) count vain
  · obtain ⟨taken, behind, through, place, -, -, gathers_while, -⟩ :=
      loop_around_step_gathers (split [.tag .noAttributes]) (here [.tag .noAttributes] bare_first)
        nofun .default
    obtain ⟨⟨-, index, -, missed, iterations, collected⟩, -⟩ := gathers_while (by decide)
    exact ⟨taken, behind, through, place, index.trans (by decide), missed,
      iterations.trans (by decide), collected.trans (by decide)⟩

end Run

end Gleaner
