import Gleaner.Proofs.Machine.Alike
import Gleaner.Proofs.Machine.Hit
import Gleaner.Proofs.Machine.Inside
import Mathlib.Data.List.Forall2

/-! # Steps pick the earliest siblings

Steps do not come back to a sibling that they have passed over. They need not: each picks the first
sibling that it can, and whatever choice of siblings there is for the steps of a level, it has
nothing before that. So where a step finds nothing, there was no choice for all steps. -/

namespace Gleaner

variable {ι γ : Type}

/-! ## Choices -/

/-- Whether positions, one for each spec, are a choice of siblings from `first` on: the siblings
there meet the specs and stand one behind the other. -/
structure Assigns (siblings : List Node) (first : Nat) (specs : List (ElementSpec γ))
    (choice : List Nat) : Prop where
  ascending : choice.Pairwise (· < ·)
  from_first : ∀ position ∈ choice, first ≤ position
  meets : List.Forall₂ (fun spec position => siblings[position]?.any spec.accepts = true) specs
    choice

namespace Assigns

variable {siblings : List Node} {first first' position : Nat} {spec : ElementSpec γ}
  {specs : List (ElementSpec γ)} {choice : List Nat}

theorem nil : Assigns siblings first ([] : List (ElementSpec γ)) [] := ⟨.nil, nofun, .nil⟩

/-- The positions for later specs stand behind that for the first one. -/
theorem cons_iff : Assigns siblings first (spec :: specs) (position :: choice) ↔
    first ≤ position ∧ siblings[position]?.any spec.accepts = true ∧
      Assigns siblings (position + 1) specs choice := by
  constructor
  · rintro ⟨ascending, from_first, meets⟩
    obtain ⟨later, ascending⟩ := List.pairwise_cons.mp ascending
    obtain ⟨met, meets⟩ := List.forall₂_cons.mp meets
    exact ⟨from_first position (List.mem_cons_self ..), met, ascending, later, meets⟩
  · rintro ⟨le, met, ascending, later, meets⟩
    refine ⟨List.pairwise_cons.mpr ⟨later, ascending⟩, ?_, .cons met meets⟩
    exact List.forall_mem_cons.mpr ⟨le, fun other member =>
      Nat.le_trans le (Nat.le_of_lt (later other member))⟩

theorem mono (assigns : Assigns siblings first' specs choice) (le : first ≤ first') :
    Assigns siblings first specs choice :=
  ⟨assigns.ascending, fun position member => Nat.le_trans le (assigns.from_first position member),
    assigns.meets⟩

end Assigns

namespace Frame

/-- The frame after a search for a spec. -/
def tried (f : Frame) (spec : ElementSpec γ) : Frame :=
  match f.find? spec with
  | some (node, position) => f.found node position
  | none => f.missed

/-- What steps pick one after the other: the positions of the siblings that they find, `none` for
one that finds nothing. -/
def picks (f : Frame) : List (ElementSpec γ) → List (Option Nat)
  | [] => []
  | spec :: rest => (f.find? spec).map Prod.snd :: (f.tried spec).picks rest

variable {f : Frame} {spec : ElementSpec γ} {specs : List (ElementSpec γ)}

@[simp] theorem length_picks (f : Frame) (specs : List (ElementSpec γ)) :
    (f.picks specs).length = specs.length := by
  induction specs generalizing f with
  | nil => rfl
  | cons spec rest ih => simp [picks, ih]

/-- Where some sibling from the cursor on meets a spec, a search finds one no later. -/
theorem exists_find?_le {position : Nat} (le : f.index ≤ position)
    (met : f.siblings[position]?.any spec.accepts = true) :
    ∃ node earliest, f.find? spec = some (node, earliest) ∧ earliest ≤ position := by
  obtain ⟨other, there, meets⟩ := (Option.any_eq_true ..).mp met
  cases found : f.find? spec with
  | none =>
    rw [find?, findFrom_eq_find?_zipIdx, List.find?_eq_none] at found
    refine absurd meets (found (other, position) ?_)
    rw [List.mem_zipIdx_iff_le_and_getElem?_sub, List.getElem?_drop, Nat.add_sub_cancel' le]
    exact ⟨le, there⟩
  | some hit =>
    refine ⟨hit.1, hit.2, rfl, Nat.le_of_not_lt fun before => ?_⟩
    have nearest : Hit.Nearest f.siblings f.index ⟨spec, hit.1, hit.2⟩ :=
      nearest_of_hit? (by rw [hit?, found]; rfl)
    exact absurd meets (by simp [nearest.passed position other le before there])

/-- Steps that all find a sibling make a choice. -/
theorem assigns_of_picks {chosen : List Nat} (picks : f.picks specs = chosen.map some) :
    Assigns f.siblings f.index specs chosen := by
  induction specs generalizing f chosen with
  | nil =>
    obtain rfl := List.map_eq_nil_iff.mp picks.symm
    exact .nil
  | cons spec rest ih =>
    obtain _ | ⟨position, chosen⟩ := chosen
    · simp [Frame.picks] at picks
    obtain ⟨first, later⟩ := List.cons.inj picks
    obtain ⟨⟨node, place⟩, found, rfl⟩ := Option.map_eq_some_iff.mp first
    obtain ⟨le, there, met⟩ := find?_eq_some found
    rw [tried, found] at later
    exact Assigns.cons_iff.mpr ⟨le, by simp [there, met], ih later⟩

/-- Where there is a choice, every step finds a sibling, and none later than the choice has it. The
first of a choice can be exchanged for what the first step picks; the rest is a choice from there
on. -/
theorem exists_picks_le {choice : List Nat} (assigns : Assigns f.siblings f.index specs choice) :
    ∃ chosen, f.picks specs = chosen.map some ∧ List.Forall₂ (· ≤ ·) chosen choice := by
  induction specs generalizing f choice with
  | nil =>
    obtain rfl := List.forall₂_nil_left_iff.mp assigns.meets
    exact ⟨[], rfl, .nil⟩
  | cons spec rest ih =>
    obtain ⟨position, choice, -, -, rfl⟩ := List.forall₂_cons_left_iff.mp assigns.meets
    obtain ⟨le, met, later⟩ := Assigns.cons_iff.mp assigns
    obtain ⟨node, earliest, found, earlier⟩ := exists_find?_le le met
    obtain ⟨chosen, picks, pointwise⟩ := ih (f := f.found node earliest)
      (later.mono (Nat.succ_le_succ earlier))
    exact ⟨earliest :: chosen, by simp [Frame.picks, tried, found, picks], .cons earlier pointwise⟩

/-- Steps all find a sibling exactly where there is a choice. -/
theorem none_notMem_picks_iff :
    none ∉ f.picks specs ↔ ∃ choice, Assigns f.siblings f.index specs choice := by
  constructor
  · intro found
    have whole : f.picks specs = ((f.picks specs).map (·.getD 0)).map some := by
      rw [List.map_map]
      refine (List.map_id _).symm.trans (List.map_congr_left fun pick member => ?_)
      cases pick with
      | none => exact absurd member found
      | some position => rfl
    exact ⟨_, assigns_of_picks whole⟩
  · rintro ⟨choice, assigns⟩
    obtain ⟨chosen, picks, -⟩ := exists_picks_le assigns
    simp [picks]

end Frame

/-! ## Calls that pick -/

namespace Call

/-- Whether a call is neither a loop nor a condition. -/
def Plain : Call ι γ → Prop
  | step _ | peek _ | breakpoint | nest _ _ => True
  | stepIf _ _ | loop _ _ _ | guard _ _ _ | choice _ _ _ _ => False

theorem Plain.ne_loop {call : Call Unit γ} (plain : call.Plain) (inside : List Matchable)
    (body : List (Call Unit γ)) : call ≠ .loop () inside body := by
  rintro rfl
  exact plain

end Call

/-- What the next instruction picks, if it is a step in as many scopes as given. -/
def Traversal.pick? (commands : List (Command γ)) (depth : Nat) (t : Traversal) :
    Option (Option Nat) :=
  match commands[t.pc]? with
  | some (.step spec) =>
    if t.saved.length = depth then some ((t.frame.find? spec).map Prod.snd) else none
  | _ => none

namespace Traversal

variable {commands : List (Command γ)} {depth : Nat} {t t' : Traversal}

theorem take_frame (t : Traversal) (spec : ElementSpec γ) :
    (t.take spec).frame = t.frame.tried spec := by
  unfold take Frame.tried
  cases t.frame.find? spec <;> rfl

theorem pick?_eq_none (other : ∀ spec, commands[t.pc]? ≠ some (.step spec)) :
    t.pick? commands depth = none := by
  unfold pick?
  split
  · exact absurd ‹_› (other _)
  · rfl

theorem pick?_of_step {spec : ElementSpec γ} (here : commands[t.pc]? = some (.step spec)) :
    t.pick? commands t.saved.length = some ((t.frame.find? spec).map Prod.snd) := by
  simp [pick?, here]

theorem pick?_of_deeper (deeper : depth < t.saved.length) : t.pick? commands depth = none := by
  unfold pick?
  split
  · exact if_neg (Nat.ne_of_gt deeper)
  · rfl

/-- Behind an instruction that goes down into a nest, no sibling is used up. -/
theorem Move.index_eq_zero {limit : Option Nat} (move : Move limit commands t t')
    {name : Option String} (pushes : commands[t'.pc - 1]? = some (.push name))
    (other : ∀ id predicate, commands[t'.pc]? ≠ some (.beginLoop id predicate)) :
    t'.frame.index = 0 := by
  rcases move.pc_cases with next | ⟨target, id, -, jumped, -, command, there, marked⟩ |
    ⟨id, predicate, -, -, begins⟩
  · rw [next, Nat.add_sub_cancel] at pushes
    cases move with
    | enter => rfl
    | along here straight looked =>
      obtain rfl := Option.some.inj (here.symm.trans pushes)
      simp [Command.isStraight] at straight
    | leave here | begin here | skip here | finish here | again here | branch here | join here =>
      simp [pushes] at here
  · rw [jumped, Nat.add_sub_cancel] at pushes
    obtain rfl := Option.some.inj (there.symm.trans pushes)
    simp [Command.number?] at marked
  · exact absurd begins (other id predicate)

end Traversal

namespace Run

open Traversal

variable {config : Config} {program : Program γ} {siblings : List Node} {collector : γ}
  {count : Nat} {run : Run γ} {C : Context γ} {name : Option String}

/-- At the first instruction of the program or of a nest, no sibling is used up. -/
theorem index_eq_zero
    (running : (start program siblings collector).advance config program count = .running run)
    (other : ∀ id predicate,
      program.commands[run.traversal.pc]? ≠ some (.beginLoop id predicate))
    (opens : ∀ command ∈ (program.commands.take run.traversal.pc).getLast?,
      ∃ name, command = .push name) :
    run.traversal.frame.index = 0 := by
  cases count with
  | zero =>
    obtain rfl : start program siblings collector = run := by simpa [advance] using running
    rfl
  | succ count =>
    obtain ⟨last, -, stepped⟩ := advance_succ_running running
    have move := move_of_step (traversal_step stepped)
    have later : 0 < run.traversal.pc := by
      rcases move.pc_cases with next | ⟨target, id, -, jumped, -, -⟩ | ⟨id, predicate, -, -, begins⟩
      · omega
      · omega
      · exact absurd begins (other id predicate)
    have inside := move.pc_le
    obtain ⟨before, there⟩ : ∃ command, program.commands[run.traversal.pc - 1]? = some command :=
      ⟨_, List.getElem?_eq_getElem (by omega)⟩
    obtain ⟨name, rfl⟩ := opens before (by
      rw [List.getLast?_eq_getElem?, List.length_take, Nat.min_eq_left inside,
        List.getElem?_take_of_lt (by omega)]
      exact there)
    exact move.index_eq_zero there other

/-- Where a run comes to a call that is neither a loop nor a condition, it goes through it. A step
moves the cursor behind what it picks; another call picks nothing and leaves the cursor alone, a
nest too, whose steps are on other levels. -/
theorem passes_plain {call : Call Unit γ} {rest : List (Call Unit γ)} (plain : call.Plain)
    (built : (Call.addAllTo (C.fill (call :: rest)) (.root name)).build = .ok program)
    (running : (start program siblings collector).advance config program count = .running run)
    (here : run.traversal.pc = (C.front 0).length) :
    let t := run.traversal
    ∃ taken behind, run.advance config program taken = .running behind ∧
      behind.traversal.pc = t.pc + (call.numbered 0).commands.length ∧
      behind.traversal.frame = call.spec?.elim t.frame t.frame.tried ∧
      behind.traversal.saved = t.saved ∧
      t.along (pick? program.commands t.saved.length) config.maxLoopIterations program.commands
          taken =
        t.frame.picks call.spec?.toList := by
  intro t
  obtain ⟨back, split⟩ := Call.exists_split_of_built built
  -- Of one instruction, the only note is its own.
  have alone : ∀ {command next}, program.commands[t.pc]? = some command →
      t.countCommand.execute config.maxLoopIterations program.commands command = .ok next →
      t.along (pick? program.commands t.saved.length) config.maxLoopIterations program.commands 1 =
        (t.pick? program.commands t.saved.length).toList := by
    intro command next first executed
    rw [along_running (traversal_step (step_of_execute first executed)), along, List.append_nil]
  cases call with
  | step spec =>
    have first : program.commands[t.pc]? = some (.step spec) :=
      Command.getElem?_of_split (C.front 0) _ split here.symm
    have taken : t.countCommand.execute config.maxLoopIterations program.commands (.step spec) =
        .ok (t.countCommand.take spec).advance := rfl
    rw [take_eq, take_frame] at taken
    refine ⟨1, _, (advance_one run).trans (step_of_execute first taken), rfl, rfl, rfl, ?_⟩
    rw [alone first taken, pick?_of_step first]
    rfl
  | peek f =>
    have first : program.commands[t.pc]? = some (.peek f) :=
      Command.getElem?_of_split (C.front 0) _ split here.symm
    refine ⟨1, _, (advance_one run).trans (step_of_execute first rfl), rfl, rfl, rfl, ?_⟩
    rw [alone first rfl, pick?_eq_none (by simp [first])]
    rfl
  | breakpoint =>
    have first : program.commands[t.pc]? = some .breakpoint :=
      Command.getElem?_of_split (C.front 0) _ split here.symm
    refine ⟨1, _, (advance_one run).trans (step_of_execute first rfl), rfl, rfl, rfl, ?_⟩
    rw [alone first rfl, pick?_eq_none (by simp [first])]
    rfl
  | nest nestName body =>
    have first : program.commands[t.pc]? = some (.push nestName) :=
      Command.getElem?_of_split (C.front 0) _ split here.symm
    obtain ⟨taken, behind, through, place, -, deeper⟩ := passes_nest built running here
    refine ⟨taken, behind, through, by rw [place, here]; rfl, by rw [place]; rfl,
      by rw [place]; rfl, ?_⟩
    refine along_eq_nil fun n lt mid reached => ?_
    rcases Nat.eq_zero_or_pos n with rfl | positive
    · obtain rfl : run = mid := by simpa [advance] using reached
      exact pick?_eq_none (by simp [first, t])
    · obtain ⟨mid', reached', kept⟩ := deeper n lt positive
      obtain rfl := Progress.running.inj (reached.symm.trans reached')
      exact pick?_of_deeper kept.length_le
  | stepIf _ _ | loop _ _ _ | guard _ _ _ | choice _ _ _ _ => exact plain.elim

/-- Where a run comes to calls that are neither loops nor conditions, it goes through them, and the
steps among them pick one after the other. The induction is on the calls; those that the run has
gone through stand in front of the others. -/
theorem passes_all_plain {calls : List (Call Unit γ)} (plain : ∀ call ∈ calls, call.Plain)
    (built : (Call.addAllTo (C.fill calls) (.root name)).build = .ok program)
    (running : (start program siblings collector).advance config program count = .running run)
    (here : run.traversal.pc = (C.front 0).length) :
    let t := run.traversal
    ∃ taken behind, run.advance config program taken = .running behind ∧
      behind.traversal.pc = t.pc + (Call.commandsOf (Call.numberedAll 0 calls)).length ∧
      behind.traversal.saved = t.saved ∧
      t.along (pick? program.commands t.saved.length) config.maxLoopIterations program.commands
          taken =
        t.frame.picks (calls.filterMap Call.spec?) := by
  induction calls generalizing C run count with
  | nil => exact ⟨0, run, rfl, rfl, rfl, rfl⟩
  | cons call rest ih =>
    intro t
    obtain ⟨plain_first, plain_rest⟩ := List.forall_mem_cons.mp plain
    obtain ⟨taken, mid, through, pc, frame, saved, notes⟩ :=
      passes_plain plain_first built running here
    rw [← List.singleton_append, ← C.fill_past] at built
    have long : ((C.past [call]).front 0).length = (C.front 0).length +
        (call.numbered 0).commands.length := by
      simp [C.front_past, Call.numberedAll, Call.length_commands_numbered 0 (C.number 0)]
    obtain ⟨taken', behind, through', pc', saved', notes'⟩ :=
      ih plain_rest built ((advance_of_running running).trans through) (by rw [pc, here, long])
    refine ⟨taken + taken', behind, (advance_of_running through).trans through', ?_, ?_, ?_⟩
    · rw [pc', pc]
      simp [Call.numberedAll, Call.commandsOf,
        Call.length_commandsOf_numberedAll call.blocks 0, Nat.add_assoc, t]
    · rw [saved', saved]
    · rw [along_of_running through, notes]
      rw [saved] at notes'
      rw [notes', frame]
      cases call <;> rfl

end Run

namespace Call

/-- Where a run comes to calls that are neither loops nor conditions, it goes through them. All
steps among them find a sibling exactly where there is a choice of siblings for them, one behind the
other from the cursor on; and then what they pick is a choice, of which no position is behind that
of any other choice. At the beginning of the program or of a nest, all siblings are to be chosen
from. -/
theorem steps_pick_earliest {C : Context γ} {calls : List (Call Unit γ)} {name : Option String}
    {program : Program γ} (built : (addAllTo (C.fill calls) (.root name)).build = .ok program)
    (plain : ∀ call ∈ calls, call.Plain) {config : Config} {siblings : List Node} {collector : γ}
    {count : Nat} {run : Run γ}
    (running : (Run.start program siblings collector).advance config program count = .running run)
    (here : run.traversal.pc = (C.front 0).length) :
    let t := run.traversal
    let specs := calls.filterMap spec?
    let IsChoice := Assigns t.frame.siblings t.frame.index specs
    (calls ≠ [] → (∀ command ∈ (C.front 0).getLast?, ∃ nestName, command = .push nestName) →
        t.frame.index = 0) ∧
      ∃ taken behind, run.advance config program taken = .running behind ∧
        behind.traversal.pc = t.pc + (commandsOf (numberedAll 0 calls)).length ∧
        behind.traversal.saved = t.saved ∧
        let picks := t.along (Traversal.pick? program.commands t.saved.length)
          config.maxLoopIterations program.commands taken
        picks.length = specs.length ∧ (none ∉ picks ↔ ∃ choice, IsChoice choice) ∧
          (none ∉ picks → ∃ chosen, picks = chosen.map some ∧ IsChoice chosen ∧
            ∀ choice, IsChoice choice → List.Forall₂ (· ≤ ·) chosen choice) := by
  intro t specs IsChoice
  obtain ⟨taken, behind, through, pc, saved, notes⟩ :=
    Run.passes_all_plain plain built running here
  refine ⟨?_, taken, behind, through, pc, saved, ?_⟩
  · intro some_call opens
    obtain ⟨call, rest, rfl⟩ := List.exists_cons_of_ne_nil some_call
    obtain ⟨back, split⟩ := exists_split_of_built built
    have other := ne_beginLoop (plain call (List.mem_cons_self ..)).ne_loop split
    rw [← here] at other
    refine Run.index_eq_zero running other ?_
    rwa [here, split, List.take_left]
  intro picks
  have picks_eq : picks = t.frame.picks specs := notes
  rw [picks_eq]
  refine ⟨t.frame.length_picks specs, Frame.none_notMem_picks_iff, fun found => ?_⟩
  obtain ⟨choice, assigns⟩ := Frame.none_notMem_picks_iff.mp found
  obtain ⟨chosen, whole, -⟩ := Frame.exists_picks_le assigns
  refine ⟨chosen, whole, Frame.assigns_of_picks whole, fun other assigns' => ?_⟩
  obtain ⟨chosen', whole', earlier⟩ := Frame.exists_picks_le assigns'
  rw [whole] at whole'
  rwa [(List.map_inj_right fun _ _ => Option.some.inj).mp whole']

/-- In a nest, two steps with a nest in between. The first sibling is all that the first step can
pick if the second is to have the second one, and there is another choice further behind. -/
theorem steps_pick_earliest_overlapping :
    let identified : List Matchable := [.tag (.hasAttribute "id")]
    let calls : List (Call Unit Nat) :=
      [.step (.plain "p" [.any]), .nest none [.step (.plain "b" [.any])], .peek (· + 1),
        .step (.plain "p" identified)]
    let C : Context Nat :=
      .within [.step (.plain "div" [.any])] (.nest none) (.here [] []) [.breakpoint]
    let program : Program Nat := ⟨none, commandsOf (numberedAll 0 (C.fill calls))⟩
    let own : Dictionary := ⟨[("id", "1")], List.pairwise_singleton ..⟩
    let children : List Node := [.element "p" .empty [.element "b" .empty []],
      .element "p" own [], .text "a", .element "p" own []]
    ∃ run, (addAllTo (C.fill calls) (.root none)).build = .ok program ∧
      (∀ call ∈ calls, call.Plain) ∧
      (Run.start program [.element "div" .empty children] 0).advance .default program 2 =
        .running run ∧
      run.traversal.pc = (C.front 0).length ∧
      run.traversal.frame.index = 0 ∧
      ∃ taken behind, run.advance .default program taken = .running behind ∧
        behind.traversal.pc = 8 ∧
        let picks := run.traversal.along (Traversal.pick? program.commands 1) none
          program.commands taken
        picks.length = 2 ∧ none ∉ picks ∧
          ∃ chosen, picks = chosen.map some ∧ List.Forall₂ (· ≤ ·) chosen [1, 3] := by
  intro identified calls C program own children
  have built : (addAllTo (C.fill calls) (.root none)).build = .ok program := rfl
  have plain : ∀ call ∈ calls, call.Plain := by simp [calls, Plain]
  have running : (Run.start program [.element "div" .empty children] 0).advance .default program 2 =
      .running _ := rfl
  obtain ⟨first, taken, behind, through, pc, -, long, found_iff, picked⟩ :=
    steps_pick_earliest built plain running rfl
  have choice : Assigns children 0 (calls.filterMap spec?) [1, 3] :=
    Assigns.cons_iff.mpr ⟨by decide, by decide, Assigns.cons_iff.mpr ⟨by decide, by decide, .nil⟩⟩
  have opens : ∀ command ∈ (C.front 0).getLast?, ∃ nestName, command = .push nestName := by
    intro command last
    exact ⟨none, (Option.some.inj last).symm⟩
  have found := found_iff.mpr ⟨_, choice⟩
  obtain ⟨chosen, whole, -, earliest⟩ := picked found
  exact ⟨_, built, plain, running, rfl, first (by simp [calls]) opens, taken, behind,
    through, pc, long, found, chosen, whole, earliest _ choice⟩

end Call

end Gleaner
