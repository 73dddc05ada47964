import Gleaner.Proofs.Machine.Advance

/-! # What holds in every state of a run

No program is checked before it is run: scopes may be unbalanced, loops may overlap, and numbers
may be used twice. All the same, cursors stay within their siblings, every frame shows the
children of the node found last in the frame below it, and loops that have been entered began at
instructions one behind the other. So a run never looks outside a list, and a loop that it has
entered is never without a beginning to go back to. -/

namespace Gleaner

variable {γ : Type}

/-- A frame whose cursor is within its siblings, and whose last node was found before it. -/
structure Frame.Sound (f : Frame) : Prop where
  within : f.index ≤ f.siblings.length
  found : ∀ node ∈ f.matched, ∃ position < f.index, f.siblings[position]? = some node

/-- Sound frames, of which each but the lowest shows the children of the node found last in the
one below. -/
def Frame.Stacked (siblings : List Node) : Frame → List Frame → Prop
  | f, [] => f.Sound ∧ f.siblings = siblings
  | f, below :: saved =>
    f.Sound ∧ f.siblings = (below.matched.map Node.children).getD [] ∧
      Stacked siblings below saved

namespace Frame

theorem sound_start (siblings : List Node) : (start siblings).Sound :=
  ⟨Nat.zero_le _, by simp [start]⟩

theorem Looked.siblings_eq {f f' : Frame} (looked : f.Looked f') : f'.siblings = f.siblings := by
  cases looked <;> rfl

theorem Sound.looked {f f' : Frame} (sound : f.Sound) (looked : f.Looked f') : f'.Sound := by
  cases looked with
  | stays => exact sound
  | missed => exact ⟨sound.within, by simp [missed]⟩
  | @found node position le there =>
    have inside : position < f.siblings.length := (List.getElem?_eq_some_iff.mp there).1
    refine ⟨inside, ?_⟩
    intro other same
    obtain rfl : node = other := by simpa [Frame.found] using same
    exact ⟨position, Nat.lt_succ_self position, there⟩

variable {siblings : List Node} {f f' : Frame} {saved : List Frame}

theorem Stacked.sound (stacked : f.Stacked siblings saved) : f.Sound := by
  cases saved <;> exact stacked.1

theorem Stacked.looked (stacked : f.Stacked siblings saved) (looked : f.Looked f') :
    f'.Stacked siblings saved := by
  cases saved with
  | nil => exact ⟨stacked.1.looked looked, looked.siblings_eq.trans stacked.2⟩
  | cons below saved =>
    obtain ⟨sound, shows, rest⟩ := stacked
    exact ⟨sound.looked looked, looked.siblings_eq.trans shows, rest⟩

theorem Stacked.enter (stacked : f.Stacked siblings saved) :
    f.below.Stacked siblings (f :: saved) :=
  ⟨sound_start _, rfl, stacked⟩

theorem Stacked.leave (stacked : f.Stacked siblings (f' :: saved)) : f'.Stacked siblings saved :=
  stacked.2.2

end Frame

namespace Traversal

variable {limit : Option Nat} {commands : List (Command γ)} {siblings : List Node}
  {t t' : Traversal} {places : List Nat}

/-- An instruction keeps the frames in order. -/
theorem Move.stacked (move : Move limit commands t t')
    (stacked : t.frame.Stacked siblings t.saved) : t'.frame.Stacked siblings t'.saved := by
  cases move with
  | along here straight looked => exact stacked.looked looked
  | enter here => exact stacked.enter
  | leave here within =>
    rw [within] at stacked
    exact stacked.leave
  | branch here found => exact stacked.looked .missed
  | begin | skip | finish | again | join => exact stacked

/-! ## Where loops were entered -/

/-- The places where the loops of a state were entered, innermost first, by those of the state
before: the place of a new loop comes on top, and those of loops that are left are dropped. -/
def track (t t' : Traversal) (places : List Nat) : List Nat :=
  if t.loops.length < t'.loops.length then t.pc :: places
  else places.drop (t.loops.length - t'.loops.length)

theorem track_same (same : t'.loops.length = t.loops.length) : t.track t' places = places := by
  simp [track, same]

theorem track_entered {entry : LoopEntry} (entered : t'.loops = entry :: t.loops) :
    t.track t' places = t.pc :: places := by
  simp [track, entered]

theorem track_left {entry : LoopEntry} {place : Nat} (within : t.loops = entry :: t'.loops) :
    t.track t' (place :: places) = places := by
  have shorter : ¬t.loops.length < t'.loops.length := by
    rw [within, List.length_cons]
    omega
  rw [track, if_neg shorter]
  simp [within]

/-- The states of a run, each with the places where its loops were entered. -/
inductive Trail (limit : Option Nat) (commands : List (Command γ)) (siblings : List Node) :
    Traversal → List Nat → Prop where
  | start : Trail limit commands siblings (.start siblings) []
  | step {t t' : Traversal} {places : List Nat} (trail : Trail limit commands siblings t places)
      (running : t.step limit commands = .running t') :
      Trail limit commands siblings t' (t.track t' places)

/-- Whether an iteration of the innermost loop has been completed and the cursor stands where it
stood then, as right after a jump back. -/
def GoneBack (t : Traversal) : Prop :=
  ∃ entry around, t.loops = entry :: around ∧ 0 < entry.iterations ∧
    entry.start = t.frame.index

/-- The loops of a state begin at places that are one behind the other, and before the present
instruction. Only a loop that is gone back to may begin right there. -/
structure Placed (commands : List (Command γ)) (t : Traversal) (places : List Nat) : Prop where
  begun : List.Forall₂ (fun entry place =>
    ∃ predicate, commands[place]? = some (.beginLoop entry.id predicate)) t.loops places
  ordered : places.Pairwise (· > ·)
  behind : (∀ place ∈ places, place < t.pc) ∨ t.GoneBack ∧ ∃ around, places = t.pc :: around

/-- At the beginning of a loop, no other loop begins. -/
theorem ne_of_beginLoop {id : Nat} {predicate : List Matchable}
    (here : commands[t.pc]? = some (.beginLoop id predicate))
    (other : ∀ top ∈ t.loops.head?, top.id ≠ id) :
    ∀ top ∈ t.loops.head?, ∀ predicate, commands[t.pc]? ≠ some (.beginLoop top.id predicate) := by
  intro top first predicate' there
  rw [here] at there
  obtain ⟨rfl, -⟩ : id = top.id ∧ predicate = predicate' := by simpa using there
  exact other top first rfl

namespace Placed

theorem le_pc (placed : Placed commands t places) : ∀ place ∈ places, place ≤ t.pc := by
  intro place member
  rcases placed.behind with before | ⟨-, around, rfl⟩
  · exact Nat.le_of_lt (before place member)
  · rcases List.mem_cons.mp member with rfl | member
    · exact Nat.le_refl _
    · exact Nat.le_of_lt (List.rel_of_pairwise_cons placed.ordered member)

/-- Where the innermost loop does not begin, all loops begin before. -/
theorem lt_pc (placed : Placed commands t places)
    (other : ∀ entry ∈ t.loops.head?, ∀ predicate,
      commands[t.pc]? ≠ some (.beginLoop entry.id predicate)) :
    ∀ place ∈ places, place < t.pc := by
  rcases placed.behind with before | ⟨-, around, rfl⟩
  · exact before
  · obtain ⟨begun, -, -⟩ := placed
    cases loops : t.loops with
    | nil =>
      rw [loops] at begun
      cases begun
    | cons entry outside =>
      rw [loops] at begun other
      obtain ⟨⟨predicate, there⟩, -⟩ := List.forall₂_cons.mp begun
      exact absurd there (other entry rfl predicate)

/-- The run goes on behind all loops, and has not entered or left any. -/
theorem forward (placed : Placed commands t places) (same : t'.loops = t.loops)
    (later : t.pc < t'.pc) : Placed commands t' (t.track t' places) := by
  rw [track_same (by rw [same])]
  refine ⟨by rw [same]; exact placed.begun, placed.ordered, .inl ?_⟩
  intro place member
  exact Nat.lt_of_le_of_lt (placed.le_pc place member) later

/-- The run goes on behind all loops, and has left the innermost one. -/
theorem left (placed : Placed commands t places) {entry : LoopEntry}
    (within : t.loops = entry :: t'.loops) (later : t.pc < t'.pc) :
    Placed commands t' (t.track t' places) := by
  have before := placed.le_pc
  obtain ⟨begun, ordered, -⟩ := placed
  rw [within] at begun
  cases begun with
  | @cons _ place _ around first rest =>
    rw [track_left within]
    refine ⟨rest, ordered.of_cons, .inl ?_⟩
    intro outer member
    exact Nat.lt_of_le_of_lt (before outer (List.mem_cons_of_mem _ member)) later

/-- The run goes into the body of a loop. -/
theorem begin (placed : Placed commands t places) {id : Nat} {predicate : List Matchable}
    (here : commands[t.pc]? = some (.beginLoop id predicate)) {entry : LoopEntry}
    {around : List LoopEntry} (resumed : t.resume id = (entry, around))
    (entered : t'.loops = entry :: around) (next : t'.pc = t.pc + 1) :
    Placed commands t' (t.track t' places) := by
  rcases resume_cases resumed with ⟨rfl, rfl, other⟩ | ⟨within, rfl⟩
  · -- Not even the innermost loop begins here, or else it would be resumed.
    have before := placed.lt_pc (ne_of_beginLoop here other)
    rw [track_entered entered]
    refine ⟨?_, List.pairwise_cons.mpr ⟨before, placed.ordered⟩, .inl ?_⟩
    · rw [entered]
      exact .cons ⟨predicate, here⟩ placed.begun
    · intro place member
      rw [next]
      rcases List.mem_cons.mp member with rfl | member
      · exact Nat.lt_succ_self _
      · exact Nat.lt_succ_of_lt (before place member)
  · exact placed.forward (entered.trans within.symm) (by omega)

/-- The run goes back to the beginning of the innermost loop, or to one behind that. -/
theorem again (placed : Placed commands t places) {entry : LoopEntry} {around : List LoopEntry}
    (here : commands[t.pc]? = some (.endLoop entry.id)) (within : t.loops = entry :: around)
    (found : Command.findBackward commands t.pc (Command.isBeginLoop entry.id) = some t'.pc)
    (goes_on : t'.loops =
      { entry with iterations := entry.iterations + 1, start := t'.frame.index } :: around) :
    Placed commands t' (t.track t' places) := by
  have before : ∀ place ∈ places, place < t.pc :=
    placed.lt_pc (by simp [here])
  obtain ⟨begun, ordered, -⟩ := placed
  rw [within] at begun
  cases begun with
  | @cons _ place _ outer first rest =>
    obtain ⟨predicate, there⟩ := first
    obtain ⟨target, found', le⟩ := Command.exists_findBackward there
      (by simp [Command.isBeginLoop] : Command.isBeginLoop entry.id _ = true)
      (before place (List.mem_cons_self ..))
    obtain rfl : t'.pc = target := Option.some.inj (found.symm.trans found')
    rw [track_same (by rw [within, goes_on]; rfl)]
    refine ⟨?_, ordered, ?_⟩
    · rw [goes_on]
      exact .cons ⟨predicate, there⟩ rest
    · rcases Nat.lt_or_eq_of_le le with lt | rfl
      · refine .inl ?_
        intro other member
        rcases List.mem_cons.mp member with rfl | member
        · exact lt
        · exact Nat.lt_trans (List.rel_of_pairwise_cons ordered member) lt
      · exact .inr ⟨⟨_, around, goes_on, Nat.succ_pos _, rfl⟩, outer, rfl⟩

end Placed

/-- An instruction keeps the places of loops in order. -/
theorem Move.placed (move : Move limit commands t t') (placed : Placed commands t places) :
    Placed commands t' (t.track t' places) := by
  cases move with
  | along | enter | leave => exact placed.forward rfl (Nat.lt_succ_self _)
  | begin here resumed unspent meets => exact placed.begin here resumed rfl rfl
  | skip here resumed found =>
    have le := (Command.findForward_bounds found).1
    rcases resume_cases resumed with ⟨-, rfl, -⟩ | ⟨within, -⟩
    · exact placed.forward rfl (by simp only; omega)
    · exact placed.left within (by simp only; omega)
  | finish here within idle => exact placed.left within (Nat.lt_succ_self _)
  | again here within moved found => exact placed.again here within found rfl
  | branch here found | join here found =>
    have le := (Command.findForward_bounds found).1
    exact placed.forward rfl (by simp only; omega)

/-- An instruction leads into the program or right behind it. -/
theorem Move.pc_le (move : Move limit commands t t') : t'.pc ≤ commands.length := by
  have inside : ∀ {command : Command γ}, commands[t.pc]? = some command →
      t.pc < commands.length := fun here => (List.getElem?_eq_some_iff.mp here).1
  cases move with
  | along here | enter here | leave here | begin here | finish here => exact inside here
  | skip _ _ found | branch _ found | join _ found => exact Command.findForward_lt found
  | again here within moved found =>
    have before := (Command.findBackward_bounds found).1
    exact Nat.le_of_lt (Nat.lt_trans before (inside here))

/-! ## Runs -/

namespace Trail

theorem stacked (trail : Trail limit commands siblings t places) :
    t.frame.Stacked siblings t.saved := by
  induction trail with
  | start => exact ⟨Frame.sound_start siblings, rfl⟩
  | step trail running ih => exact (move_of_step running).stacked ih

theorem placed (trail : Trail limit commands siblings t places) : Placed commands t places := by
  induction trail with
  | start => exact ⟨.nil, .nil, .inl (by simp)⟩
  | step trail running ih => exact (move_of_step running).placed ih

theorem pc_le (trail : Trail limit commands siblings t places) : t.pc ≤ commands.length := by
  cases trail with
  | start => exact Nat.zero_le _
  | step trail running => exact (move_of_step running).pc_le

end Trail

/-- What a run looks at is there: the instructions behind the present one, the siblings from the
cursor on, the sibling that a step finds, and the beginning of a loop that is gone back to. -/
structure InRange (commands : List (Command γ)) (t : Traversal) : Prop where
  pc : t.pc ≤ commands.length
  cursor : t.frame.index ≤ t.frame.siblings.length
  found : ∀ (spec : ElementSpec γ) node position, t.frame.find? spec = some (node, position) →
    t.frame.siblings[position]? = some node
  back : ∀ entry around, t.loops = entry :: around →
    commands[t.pc]? = some (.endLoop entry.id) →
      (Command.findBackward commands t.pc (Command.isBeginLoop entry.id)).isSome

theorem Trail.inRange (trail : Trail limit commands siblings t places) : InRange commands t := by
  refine ⟨trail.pc_le, trail.stacked.sound.within, ?_, ?_⟩
  · intro spec node position found
    exact (Frame.find?_eq_some found).2.1
  · intro entry around within here
    have before : ∀ place ∈ places, place < t.pc := trail.placed.lt_pc (by simp [here])
    obtain ⟨begun, -, -⟩ := trail.placed
    rw [within] at begun
    cases begun with
    | @cons _ place _ outer first rest =>
      obtain ⟨predicate, there⟩ := first
      obtain ⟨target, found, -⟩ := Command.exists_findBackward there
        (by simp [Command.isBeginLoop] : Command.isBeginLoop entry.id _ = true)
        (before place (List.mem_cons_self ..))
      rw [found]
      rfl

end Traversal

namespace Run

open Traversal

theorem exists_trail {config : Config} {program : Program γ} {siblings : List Node}
    {collector : γ} {count : Nat} {run : Run γ}
    (running : (start program siblings collector).advance config program count = .running run) :
    ∃ places, Trail config.maxLoopIterations program.commands siblings run.traversal places := by
  refine advance_keeps
    (fun run => ∃ places,
      Trail config.maxLoopIterations program.commands siblings run.traversal places)
    ?_ ⟨[], .start⟩ running
  rintro run run' ⟨places, trail⟩ stepped
  exact ⟨_, trail.step (traversal_step stepped)⟩

/-- Whatever the program, in every state of a run the frames are sound and show the children of
the nodes found below, the loops were entered at instructions one behind the other that begin
them, and all that the run looks at is there. -/
theorem stays_sound {config : Config} {program : Program γ} {siblings : List Node}
    {collector : γ} {count : Nat} {run : Run γ}
    (running : (start program siblings collector).advance config program count = .running run) :
    ∃ places,
      Trail config.maxLoopIterations program.commands siblings run.traversal places ∧
      run.traversal.frame.Stacked siblings run.traversal.saved ∧
      Placed program.commands run.traversal places ∧
      InRange program.commands run.traversal := by
  obtain ⟨places, trail⟩ := exists_trail running
  exact ⟨places, trail, trail.stacked, trail.placed, trail.inRange⟩

/-- In a scope that a loop enters and does not leave. -/
theorem stays_sound_unbalanced :
    let program : Program Unit :=
      ⟨none, [.beginLoop 1 [.any], .push none, .endLoop 1, .beginLoop 1 [.any]]⟩
    let siblings := [Node.text "a"]
    ∃ run, (start program siblings ()).advance .default program 2 = .running run ∧
      ∃ places, Trail none program.commands siblings run.traversal places ∧
        run.traversal.frame.Stacked siblings run.traversal.saved ∧
        Placed program.commands run.traversal places ∧
        InRange program.commands run.traversal := by
  intro program siblings
  have running : (start program siblings ()).advance .default program 2 = .running _ := rfl
  exact ⟨_, running, stays_sound running⟩

end Run

end Gleaner
