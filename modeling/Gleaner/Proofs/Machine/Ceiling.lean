import Gleaner.Proofs.Machine.Soundness

/-! # Runs with a limit for loops end

With a limit for loops, every run ends, whatever the program. What decreases is a number with one
digit for each instruction, the first instruction being the most significant: the digit of one
that is still ahead is the largest, that of the beginning of a loop that has been entered counts
the iterations left, and that of any other that is behind is 0. A jump back raises digits, but
only behind the beginning of the loop, where the digit has become smaller. -/

namespace Gleaner

variable {γ : Type}

/-- The number with the first `n` digits of a sequence, the first being the most significant. -/
def rank (base : Nat) (digits : Nat → Nat) : Nat → Nat
  | 0 => 0
  | n + 1 => rank base digits n * base + digits n

theorem rank_congr {base : Nat} {digits digits' : Nat → Nat} {n : Nat}
    (same : ∀ q < n, digits' q = digits q) : rank base digits' n = rank base digits n := by
  induction n with
  | zero => rfl
  | succ n ih =>
    have before := ih fun q lt => same q (Nat.lt_succ_of_lt lt)
    rw [rank, rank, before, same n (Nat.lt_succ_self n)]

/-- A number is smaller if the first digit that differs is. -/
theorem rank_lt {base : Nat} {digits digits' : Nat → Nat} {n p : Nat} (inside : p < n)
    (same : ∀ q < p, digits' q = digits q) (less : digits' p < digits p)
    (bounded : ∀ q, digits' q < base) : rank base digits' n < rank base digits n := by
  induction n with
  | zero => exact absurd inside (Nat.not_lt_zero p)
  | succ n ih =>
    rw [rank, rank]
    rcases Nat.lt_or_eq_of_le (Nat.le_of_lt_succ inside) with before | rfl
    · have smaller : (rank base digits' n + 1) * base ≤ rank base digits n * base :=
        Nat.mul_le_mul_right base (ih before)
      have last := bounded n
      rw [Nat.succ_mul] at smaller
      omega
    · rw [rank_congr same]
      omega

namespace Traversal

variable {commands : List (Command γ)} {siblings : List Node} {most : Nat} {t t' : Traversal}
  {places : List Nat}

/-! ## Iterations -/

/-- The loops that have been entered are not spent. Only one that is about to be resumed can
be. -/
def Capped (commands : List (Command γ)) (most : Nat) (t : Traversal) : Prop :=
  ∀ top around, t.loops = top :: around →
    (∀ entry ∈ around, entry.iterations < most) ∧
      (top.iterations < most ∨ top.iterations = most ∧
        ∃ predicate, commands[t.pc]? = some (.beginLoop top.id predicate))

namespace Capped

theorem of_forall (unspent : ∀ entry ∈ t.loops, entry.iterations < most) :
    Capped commands most t := by
  intro top around within
  rw [within, List.forall_mem_cons] at unspent
  exact ⟨unspent.2, .inl unspent.1⟩

theorem lt_of_other (capped : Capped commands most t)
    (other : ∀ top ∈ t.loops.head?, ∀ predicate,
      commands[t.pc]? ≠ some (.beginLoop top.id predicate)) :
    ∀ entry ∈ t.loops, entry.iterations < most := by
  intro entry member
  cases within : t.loops with
  | nil => simp [within] at member
  | cons top around =>
    obtain ⟨outer, unspent | ⟨-, predicate, here⟩⟩ := capped top around within
    · rw [within] at member
      rcases List.mem_cons.mp member with rfl | member
      · exact unspent
      · exact outer entry member
    · exact absurd here (other top (by simp [within]) predicate)

theorem top_le (capped : Capped commands most t) {top : LoopEntry} {around : List LoopEntry}
    (within : t.loops = top :: around) : top.iterations ≤ most := by
  obtain ⟨-, lt | ⟨eq, -⟩⟩ := capped top around within
  · exact Nat.le_of_lt lt
  · exact Nat.le_of_eq eq

/-- The loops around one that begins are not spent. -/
theorem lt_of_resume (capped : Capped commands most t) {id : Nat} {predicate : List Matchable}
    (here : commands[t.pc]? = some (.beginLoop id predicate)) {entry : LoopEntry}
    {around : List LoopEntry} (resumed : t.resume id = (entry, around)) :
    ∀ outer ∈ around, outer.iterations < most := by
  rcases resume_cases resumed with ⟨-, rfl, other⟩ | ⟨within, -⟩
  · exact capped.lt_of_other (ne_of_beginLoop here other)
  · exact (capped entry around within).1

end Capped

theorem Move.capped (move : Move (some most) commands t t') (capped : Capped commands most t) :
    Capped commands most t' := by
  cases move with
  | along here straight =>
    refine .of_forall (capped.lt_of_other ?_)
    rintro top - predicate there
    rw [here] at there
    obtain rfl := Option.some.inj there
    simp [Command.isStraight] at straight
  | enter here | leave here | branch here | join here =>
    exact .of_forall (capped.lt_of_other (by simp [here]))
  | @begin id predicate entry around stats here resumed unspent meets =>
    have unspent : entry.iterations < most := by simpa [LoopEntry.isSpent] using unspent
    exact .of_forall (List.forall_mem_cons.mpr ⟨unspent, capped.lt_of_resume here resumed⟩)
  | skip here resumed found => exact .of_forall (capped.lt_of_resume here resumed)
  | finish here within idle => exact .of_forall (capped _ _ within).1
  | @again target entry around stats here within moved found =>
    have unspent := capped.lt_of_other (by simp [here])
    rw [within, List.forall_mem_cons] at unspent
    obtain ⟨-, command, there, met⟩ := Command.findBackward_bounds found
    intro top outer same
    obtain ⟨rfl, rfl⟩ := List.cons.inj same
    refine ⟨unspent.2, ?_⟩
    rcases Nat.lt_or_eq_of_le (Nat.succ_le_of_lt unspent.1) with lt | eq
    · exact .inl lt
    · -- The loop is spent now; its beginning comes next and will leave it.
      cases command with
      | beginLoop id predicate =>
        obtain rfl : id = entry.id := by simpa [Command.isBeginLoop] using met
        exact .inr ⟨eq, predicate, there⟩
      | _ => simp [Command.isBeginLoop] at met

theorem Trail.capped (trail : Trail (some most) commands siblings t places) :
    Capped commands most t := by
  induction trail with
  | start => exact .of_forall (by simp [Traversal.start])
  | step trail running ih => exact (move_of_step running).capped ih

/-! ## The number that decreases -/

/-- The digit of an instruction. -/
def digit (most : Nat) (t : Traversal) (places : List Nat) (p : Nat) : Nat :=
  match (places.zip t.loops).lookup p with
  | some entry => 2 * (most + 1 - entry.iterations) + if p = t.pc then 1 else 0
  | none => if p < t.pc then 0 else 2 * most + 4

theorem digit_lt (most : Nat) (t : Traversal) (places : List Nat) (p : Nat) :
    t.digit most places p < 2 * most + 5 := by
  unfold digit
  split <;> split <;> omega

theorem digit_congr {places' : List Nat} {p : Nat}
    (same : (places'.zip t'.loops).lookup p = (places.zip t.loops).lookup p) (before : p < t.pc)
    (before' : p < t'.pc) : t'.digit most places' p = t.digit most places p := by
  have ne := Nat.ne_of_lt before
  have ne' := Nat.ne_of_lt before'
  simp only [digit, same, before, before', ne, ne', if_true, if_false]

/-- How far a run is from its end at most. -/
def distance (commands : List (Command γ)) (most : Nat) (t : Traversal) (places : List Nat) :
    Nat :=
  rank (2 * most + 5) (t.digit most places) commands.length

theorem distance_lt {places' : List Nat} {p : Nat} (inside : p < commands.length)
    (same : ∀ q < p, t'.digit most places' q = t.digit most places q)
    (less : t'.digit most places' p < t.digit most places p) :
    t'.distance commands most places' < t.distance commands most places :=
  rank_lt inside same less (t'.digit_lt most places')

section

variable {place q : Nat} {entry : LoopEntry} {loops : List LoopEntry}

theorem lookup_zip_head :
    ((place :: places).zip (entry :: loops)).lookup place = some entry := by
  simp

theorem lookup_zip_tail (other : q ≠ place) :
    ((place :: places).zip (entry :: loops)).lookup q = (places.zip loops).lookup q := by
  have ne : (q == place) = false := by simpa using other
  simp [List.lookup_cons, ne]

theorem lookup_zip_eq_none (absent : q ∉ places) : (places.zip loops).lookup q = none := by
  induction places generalizing loops with
  | nil => rfl
  | cons place places ih =>
    rw [List.mem_cons, not_or] at absent
    cases loops with
    | nil => rfl
    | cons entry loops => rw [lookup_zip_tail absent.1, ih absent.2]

end

/-- Going on leaves the present instruction behind. -/
theorem distance_forward (inside : t.pc < commands.length) (same : t'.loops = t.loops)
    (later : t.pc < t'.pc) :
    t'.distance commands most (t.track t' places) < t.distance commands most places := by
  rw [track_same (by rw [same])]
  refine distance_lt inside (fun q before => ?_) ?_
  · exact digit_congr (by rw [same]) before (Nat.lt_trans before later)
  · have ne := Nat.ne_of_lt later
    simp only [digit, same]
    split
    · simp [ne]
    · simp [later]

/-- Leaving a loop leaves its beginning behind. -/
theorem distance_left (placed : Placed commands t places) {entry : LoopEntry}
    (within : t.loops = entry :: t'.loops) (unspent : entry.iterations ≤ most)
    (inside : t.pc < commands.length) (later : t.pc < t'.pc) :
    t'.distance commands most (t.track t' places) < t.distance commands most places := by
  have before := placed.le_pc
  obtain ⟨begun, ordered, -⟩ := placed
  rw [within] at begun
  cases begun with
  | @cons _ place _ around first rest =>
    rw [track_left within]
    have le := before place (List.mem_cons_self ..)
    have absent : place ∉ around := by
      intro member
      exact Nat.lt_irrefl _ (List.rel_of_pairwise_cons ordered member)
    refine distance_lt (p := place) (Nat.lt_of_le_of_lt le inside) (fun q lt => ?_) ?_
    · refine digit_congr ?_ (Nat.lt_of_lt_of_le lt le) (by omega)
      rw [within, lookup_zip_tail (Nat.ne_of_lt lt)]
    · have behind : place < t'.pc := Nat.lt_of_le_of_lt le later
      simp only [digit, within, lookup_zip_head, lookup_zip_eq_none absent, behind, if_true]
      omega

/-- A loop that is entered has fewer iterations left than one that is still ahead. -/
theorem distance_entered (fresh : t.pc ∉ places) (inside : t.pc < commands.length)
    {entry : LoopEntry} (entered : t'.loops = entry :: t.loops) (next : t.pc < t'.pc) :
    t'.distance commands most (t.track t' places) < t.distance commands most places := by
  rw [track_entered entered]
  refine distance_lt inside (fun q before => ?_) ?_
  · refine digit_congr ?_ before (Nat.lt_trans before next)
    rw [entered, lookup_zip_tail (Nat.ne_of_lt before)]
  · have ne := Nat.ne_of_lt next
    simp only [digit, entered, lookup_zip_head, lookup_zip_eq_none fresh, ne,
      Nat.lt_irrefl, if_false]
    omega

/-- Going back uses up an iteration. -/
theorem distance_again (placed : Placed commands t places) {entry : LoopEntry}
    {around : List LoopEntry} (here : commands[t.pc]? = some (.endLoop entry.id))
    (within : t.loops = entry :: around) (unspent : entry.iterations < most)
    (found : Command.findBackward commands t.pc (Command.isBeginLoop entry.id) = some t'.pc)
    (goes_on : t'.loops =
      { entry with iterations := entry.iterations + 1, start := t'.frame.index } :: around) :
    t'.distance commands most (t.track t' places) < t.distance commands most places := by
  have kept : t.track t' places = places := track_same (by rw [within, goes_on]; rfl)
  have before : ∀ place ∈ places, place < t.pc := placed.lt_pc (by simp [here])
  have placed' := placed.again here within found goes_on
  rw [kept] at placed' ⊢
  have le := placed'.le_pc
  obtain ⟨begun, -, -⟩ := placed
  rw [within] at begun
  cases begun with
  | @cons _ place _ outer first rest =>
    have lt := before place (List.mem_cons_self ..)
    have le := le place (List.mem_cons_self ..)
    have inside : t.pc < commands.length := (List.getElem?_eq_some_iff.mp here).1
    -- Digits behind the beginning of the loop may have grown, but they count for less.
    refine distance_lt (p := place) (Nat.lt_trans lt inside) (fun q lt' => ?_) ?_
    · refine digit_congr ?_ (Nat.lt_trans lt' lt) (Nat.lt_of_lt_of_le lt' le)
      rw [within, goes_on, lookup_zip_tail (Nat.ne_of_lt lt'), lookup_zip_tail (Nat.ne_of_lt lt')]
    · simp only [digit, within, goes_on, lookup_zip_head, Nat.ne_of_lt lt, if_false]
      split <;> omega

/-- With a limit for loops, every instruction brings a run closer to its end. -/
theorem Move.distance_lt (move : Move (some most) commands t t')
    (placed : Placed commands t places) (capped : Capped commands most t) :
    t'.distance commands most (t.track t' places) < t.distance commands most places := by
  have inside : ∀ {command : Command γ}, commands[t.pc]? = some command →
      t.pc < commands.length := fun here => (List.getElem?_eq_some_iff.mp here).1
  cases move with
  | along here | enter here | leave here =>
    exact distance_forward (inside here) rfl (Nat.lt_succ_self _)
  | @begin id predicate entry around stats here resumed unspent meets =>
    rcases resume_cases resumed with ⟨-, rfl, other⟩ | ⟨within, -⟩
    · refine distance_entered ?_ (inside here) rfl (Nat.lt_succ_self _)
      intro member
      exact Nat.lt_irrefl _ (placed.lt_pc (ne_of_beginLoop here other) t.pc member)
    · exact distance_forward (inside here) within.symm (Nat.lt_succ_self _)
  | skip here resumed found =>
    have le := (Command.findForward_bounds found).1
    rcases resume_cases resumed with ⟨-, rfl, -⟩ | ⟨within, -⟩
    · exact distance_forward (inside here) rfl (by simp only; omega)
    · exact distance_left placed within (capped.top_le within) (inside here)
        (by simp only; omega)
  | finish here within idle =>
    exact distance_left placed within (capped.top_le within) (inside here) (Nat.lt_succ_self _)
  | again here within moved found =>
    have unspent := capped.lt_of_other (by simp [here])
    rw [within, List.forall_mem_cons] at unspent
    exact distance_again placed here within unspent.1 found rfl
  | branch here found | join here found =>
    have le := (Command.findForward_bounds found).1
    exact distance_forward (inside here) rfl (by simp only; omega)

end Traversal

/-! ## Runs -/

namespace Run

open Traversal

theorem advance_add_distance {config : Config} {program : Program γ} {siblings : List Node}
    {collector : γ} {most count : Nat} (limited : config.maxLoopIterations = some most)
    {run : Run γ}
    (running : (start program siblings collector).advance config program count = .running run) :
    ∃ places, Trail (some most) program.commands siblings run.traversal places ∧
      count + run.traversal.distance program.commands most places ≤
        (Traversal.start siblings).distance program.commands most [] := by
  induction count generalizing run with
  | zero =>
    obtain rfl : start program siblings collector = run := by simpa [advance] using running
    exact ⟨[], .start, by rw [Nat.zero_add]; exact Nat.le_refl _⟩
  | succ count ih =>
    obtain ⟨before, reached, stepped⟩ := advance_succ_running running
    obtain ⟨places, trail, bound⟩ := ih reached
    have stepped := traversal_step stepped
    rw [limited] at stepped
    have closer := (move_of_step stepped).distance_lt trail.placed trail.capped
    exact ⟨_, trail.step stepped, by omega⟩

/-- With a limit for loops, the runs of any program are bounded. -/
theorem exists_bound {config : Config} (program : Program γ) (siblings : List Node)
    (collector : γ) {most : Nat} (limited : config.maxLoopIterations = some most) :
    ∃ bound, ∀ count run,
      (start program siblings collector).advance config program count = .running run →
        count ≤ bound := by
  refine ⟨(Traversal.start siblings).distance program.commands most [], ?_⟩
  intro count run running
  obtain ⟨places, -, bound⟩ := advance_add_distance limited running
  omega

theorem exists_end {config : Config} (program : Program γ) (siblings : List Node) (collector : γ)
    {most : Nat} (limited : config.maxLoopIterations = some most) :
    ∃ count, ((start program siblings collector).advance config program count).Ended := by
  obtain ⟨bound, bounded⟩ := exists_bound program siblings collector limited
  refine ⟨bound + 1, Progress.ended_of_ne_running fun run running => ?_⟩
  have le := bounded _ run running
  omega

/-- With a limit for loops, every program ends, balanced or not, and after a number of
instructions that depends on the program and the limit alone. -/
theorem ends_with_limit (program : Program γ) (most : Nat) :
    ∃ bound, ∀ (debugMode dumpNodesOnMiss : Bool) (siblings : List Node) (collector : γ),
      ((start program siblings collector).advance ⟨debugMode, some most, dumpNodesOnMiss⟩
        program bound).Ended := by
  refine ⟨(Traversal.start []).distance program.commands most [] + 1, ?_⟩
  intro debugMode dumpNodesOnMiss siblings collector
  refine Progress.ended_of_ne_running fun run running => ?_
  obtain ⟨places, -, bound⟩ := advance_add_distance rfl running
  -- At the start nothing has been entered, so the distance is the same for all siblings.
  have same : (Traversal.start siblings).distance program.commands most [] =
      (Traversal.start []).distance program.commands most [] := rfl
  omega

end Run

/-! ## A limit that is not reached -/

namespace Traversal

variable {commands : List (Command γ)} {t t' : Traversal} {most : Nat}

/-- A limit makes no difference where no loop that would go on has reached it. -/
theorem step_limited
    (room : ∀ id predicate, commands[t.pc]? = some (.beginLoop id predicate) →
      t.frame.nextMeets predicate = true → (t.resume id).1.iterations < most) :
    t.step (some most) commands = t.step none commands := by
  cases here : commands[t.pc]? with
  | none => simp only [step, here]
  | some command =>
    have same : t.countCommand.execute (some most) commands command =
        t.countCommand.execute none commands command := by
      cases command with
      | beginLoop id predicate =>
        have resumed : t.countCommand.resume id = t.resume id := rfl
        cases meets : t.frame.nextMeets predicate with
        | true =>
          have left : (t.resume id).1.isSpent (some most) = (t.resume id).1.isSpent none := by
            simp [LoopEntry.isSpent, room id predicate here meets]
          simp only [execute, beginLoop, resumed, left]
        | false => simp [execute, beginLoop, meets]
      | _ => rfl
    simp only [step, here, same]

/-- In particular, a limit makes no difference where no loop has reached it. -/
theorem step_of_unspent (positive : 0 < most)
    (unspent : ∀ entry ∈ t.loops, entry.iterations < most) :
    t.step (some most) commands = t.step none commands := by
  refine step_limited fun id predicate _ _ => ?_
  cases resumed : t.resume id with
  | mk entry around =>
    rcases resume_cases resumed with ⟨rfl, -, -⟩ | ⟨within, -⟩
    · exact positive
    · exact unspent entry (by simp [within])

theorem Move.iterations_le {limit : Option Nat} (move : Move limit commands t t') {n : Nat}
    (bounded : ∀ entry ∈ t.loops, entry.iterations ≤ n) :
    ∀ entry ∈ t'.loops, entry.iterations ≤ n + 1 := by
  have later : ∀ entry ∈ t.loops, entry.iterations ≤ n + 1 :=
    fun entry member => Nat.le_succ_of_le (bounded entry member)
  cases move with
  | along | enter | leave | branch | join => exact later
  | begin here resumed =>
    rcases resume_cases resumed with ⟨rfl, rfl, -⟩ | ⟨within, -⟩
    · exact List.forall_mem_cons.mpr ⟨Nat.zero_le _, later⟩
    · rwa [within] at later
  | skip here resumed =>
    rcases resume_cases resumed with ⟨-, rfl, -⟩ | ⟨within, -⟩
    · exact later
    · rw [within, List.forall_mem_cons] at later
      exact later.2
  | finish here within =>
    rw [within, List.forall_mem_cons] at later
    exact later.2
  | again here within =>
    rw [within, List.forall_mem_cons] at later bounded
    exact List.forall_mem_cons.mpr ⟨Nat.succ_le_succ bounded.1, later.2⟩

end Traversal

namespace Run

open Traversal

/-- In so many steps, no loop of a run has been repeated more often. -/
theorem iterations_le {config : Config} {program : Program γ} {siblings : List Node}
    {collector : γ} {count : Nat} {run : Run γ}
    (running : (start program siblings collector).advance config program count = .running run) :
    ∀ entry ∈ run.traversal.loops, entry.iterations ≤ count := by
  induction count generalizing run with
  | zero =>
    obtain rfl : start program siblings collector = run := by simpa [advance] using running
    simp [start, Traversal.start]
  | succ count ih =>
    obtain ⟨before, reached, stepped⟩ := advance_succ_running running
    exact (move_of_step (traversal_step stepped)).iterations_le (ih reached)

/-- What a run without a limit reaches in some steps, it reaches with a limit that is greater. -/
theorem advance_limited {config config' : Config} {program : Program γ} {siblings : List Node}
    {collector : γ} {most : Nat} (unlimited : config.maxLoopIterations = none)
    (limited : config'.maxLoopIterations = some most) {count : Nat} (less : count < most)
    {run : Run γ}
    (running : (start program siblings collector).advance config program count = .running run) :
    ∃ run', (start program siblings collector).advance config' program count = .running run' ∧
      run'.traversal = run.traversal := by
  have same : ((start program siblings collector).advance config' program count).unlogged =
      ((start program siblings collector).advance config program count).unlogged := by
    refine advance_agrees rfl rfl fun n lt on_way running => ?_
    rw [unlimited, limited]
    refine step_of_unspent (Nat.zero_lt_of_lt less) fun entry member => ?_
    have le := iterations_le running entry member
    omega
  rw [running] at same
  obtain ⟨run', running', place, -⟩ := Progress.running_of_unlogged same
  exact ⟨run', running', place⟩

end Run

end Gleaner
