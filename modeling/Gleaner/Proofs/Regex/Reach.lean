import Gleaner.Proofs.Regex.Span

/-! # What a search finds

A search looks the sets and conditions of an expression up once and then walks through the text with
sets of positions, in loops that remember what they have reached. It finds what the expression
matches, no more and no less: the memory only spares it steps that it has taken, and the numbers of
rounds and copies, which are cut off by the length of the text, leave nothing out. -/

namespace Gleaner.Regex

/-! ## Members of position sets -/

namespace PositionSet

instance : Membership Nat PositionSet := ⟨fun s position => s.contains position = true⟩

variable {s t : PositionSet} {i j : Nat}

theorem mem_iff : i ∈ s ↔ s.contains i = true := Iff.rfl

theorem notMem_empty : i ∉ empty := by simp [mem_iff, contains_empty]

theorem mem_all {length : Nat} : i ∈ all length ↔ i ≤ length := by
  simp [mem_iff, contains_all]

theorem mem_union : i ∈ s.union t ↔ i ∈ s ∨ i ∈ t := by simp [mem_iff, contains_union]

theorem mem_inter : i ∈ s.inter t ↔ i ∈ s ∧ i ∈ t := by simp [mem_iff, contains_inter]

theorem mem_next : j ∈ s.next ↔ ∃ i ∈ s, j = i + 1 := by
  cases j with
  | zero => simp [mem_iff, next, contains_cons_zero]
  | succ j => simp [mem_iff, next, contains_cons_succ]

theorem ne_empty_iff : s ≠ empty ↔ ∃ i, i ∈ s := by
  constructor
  · intro filled
    by_cases none : ∃ i, i ∈ s
    · exact none
    · refine absurd ?_ filled
      have bits : s.bits = 0 := Nat.eq_of_testBit_eq fun i => by
        have out : i ∉ s := fun member => none ⟨i, member⟩
        rw [Nat.zero_testBit]
        simpa [mem_iff, contains] using out
      obtain ⟨number⟩ := s
      exact congrArg PositionSet.mk bits
  · rintro ⟨i, member⟩ rfl
    exact notMem_empty member

end PositionSet

namespace Walk

/-! ## Walks as relations -/

/-- Whether a walk leads from one position to another. -/
def Goes : Walk → Nat → Nat → Prop
  | stay, i, j => i = j
  | pass allowed, i, j => j = i + 1 ∧ i ∈ allowed
  | check allowed, i, j => i = j ∧ i ∈ allowed
  | seq first second, i, j => ∃ k, first.Goes i k ∧ second.Goes k j
  | alt first second, i, j => first.Goes i j ∨ second.Goes i j
  | loop body _, i, j => ∃ count, Iterated body.Goes count i j

/-- Whether a walk stays in a text of the given length, with rounds enough for all of it. -/
def Fits (length : Nat) : Walk → Prop
  | pass allowed => ∀ i ∈ allowed, i < length
  | seq first second => first.Fits length ∧ second.Fits length
  | alt first second => first.Fits length ∧ second.Fits length
  | loop body rounds => body.Fits length ∧ length ≤ rounds
  | _ => True

variable {walk : Walk} {length i j : Nat}

theorem Goes.le (goes : walk.Goes i j) : i ≤ j := by
  induction walk generalizing i j with
  | stay => exact Nat.le_of_eq goes
  | pass allowed =>
    have next := goes.1
    omega
  | check allowed => exact Nat.le_of_eq goes.1
  | seq first second ihFirst ihSecond =>
    obtain ⟨k, before, behind⟩ := goes
    exact Nat.le_trans (ihFirst before) (ihSecond behind)
  | alt first second ihFirst ihSecond =>
    rcases goes with one | other
    · exact ihFirst one
    · exact ihSecond other
  | loop body rounds ih =>
    obtain ⟨count, steps⟩ := goes
    exact steps.le fun _ _ => ih

theorem Goes.le_length (goes : walk.Goes i j) (fits : walk.Fits length) (within : i ≤ length) :
    j ≤ length := by
  induction walk generalizing i j with
  | stay => exact goes ▸ within
  | pass allowed =>
    obtain ⟨rfl, allowed⟩ := goes
    exact fits i allowed
  | check allowed => exact goes.1 ▸ within
  | seq first second ihFirst ihSecond =>
    obtain ⟨k, before, behind⟩ := goes
    exact ihSecond behind fits.2 (ihFirst before fits.1 within)
  | alt first second ihFirst ihSecond =>
    rcases goes with one | other
    · exact ihFirst one fits.1 within
    · exact ihSecond other fits.2 within
  | loop body rounds ih =>
    obtain ⟨count, steps⟩ := goes
    exact steps.kept (P := (· ≤ length)) (fun _ _ within goes => ih goes fits.1 within) within

/-! ## Growing sets -/

/-- What has become of a set by steps from its members: all of it is reached from there, nothing
that is near enough is left out, and the memory stems from the whole of it. -/
structure Grown {μ : Type} (step : Nat → Nat → Prop) (remembers : μ → PositionSet → Prop)
    (rounds : Nat) (reached : PositionSet) (result : PositionSet × μ) : Prop where
  remembers : remembers result.2 result.1
  sound : ∀ j ∈ result.1, ∃ i ∈ reached, ∃ count, Iterated step count i j
  complete : ∀ i ∈ reached, ∀ count j, Iterated step count i j → j - i ≤ rounds → j ∈ result.1

theorem grow_succ {μ : Type} (advance : μ → PositionSet → μ × PositionSet) (rounds : Nat)
    (memory : μ) (reached : PositionSet) :
    grow advance (rounds + 1) memory reached =
      let memory' := (advance memory reached).1
      let grown := reached.union (advance memory reached).2
      if grown = reached then (reached, memory') else grow advance rounds memory' grown := rfl

theorem grown_grow {μ : Type} {advance : μ → PositionSet → μ × PositionSet}
    (step : Nat → Nat → Prop) (remembers : μ → PositionSet → Prop)
    (onward : ∀ i j, step i j → i ≤ j)
    (within : ∀ i j, i ≤ length → step i j → j ≤ length)
    (mono : ∀ memory s t, (∀ i ∈ s, i ∈ t) → remembers memory s → remembers memory t)
    (advances : ∀ memory reached, (∀ i ∈ reached, i ≤ length) → remembers memory reached →
      remembers (advance memory reached).1 reached ∧
        ∀ j, j ∈ (advance memory reached).2 ↔ ∃ i ∈ reached, step i j)
    (rounds : Nat) {memory : μ} {reached : PositionSet} (bounded : ∀ i ∈ reached, i ≤ length)
    (known : remembers memory reached) :
    Grown step remembers rounds reached (grow advance rounds memory reached) := by
  induction rounds generalizing memory reached with
  | zero =>
    refine ⟨known, fun j member => ⟨j, member, 0, rfl⟩, ?_⟩
    intro i member count j steps near
    have le := steps.le onward
    obtain rfl : i = j := by omega
    exact member
  | succ rounds ih =>
    obtain ⟨known', ends⟩ := advances memory reached bounded known
    rw [grow_succ]
    dsimp only
    split
    -- no step leads to anything new, so none ever will
    case isTrue same =>
      have closed : ∀ i j, i ∈ reached → step i j → j ∈ reached := by
        intro i j member goes
        rw [← same]
        exact PositionSet.mem_union.mpr (.inr ((ends j).mpr ⟨i, member, goes⟩))
      refine ⟨known', fun j member => ⟨j, member, 0, rfl⟩, ?_⟩
      intro i member count j steps near
      exact steps.kept (P := (· ∈ reached)) closed member
    -- the first step that moves has been taken, and the others have one round less
    case isFalse =>
      have bounded' : ∀ i ∈ reached.union (advance memory reached).2, i ≤ length := by
        intro i member
        rcases PositionSet.mem_union.mp member with before | now
        · exact bounded i before
        · obtain ⟨k, member, goes⟩ := (ends i).mp now
          exact within k i (bounded k member) goes
      have known'' := mono _ _ (reached.union (advance memory reached).2)
        (fun i member => PositionSet.mem_union.mpr (.inl member)) known'
      have later := ih bounded' known''
      refine ⟨later.remembers, ?_, ?_⟩
      · intro j member
        obtain ⟨k, member, count, steps⟩ := later.sound j member
        rcases PositionSet.mem_union.mp member with before | now
        · exact ⟨k, before, count, steps⟩
        · obtain ⟨i, member, goes⟩ := (ends k).mp now
          exact ⟨i, member, count + 1, k, goes, steps⟩
      · intro i member count j steps near
        rcases steps.first_move onward with rfl | ⟨k, count', further, goes, rest⟩
        · exact later.complete i (PositionSet.mem_union.mpr (.inl member)) 0 i rfl (by omega)
        · have now : k ∈ (advance memory reached).2 := (ends k).mpr ⟨i, member, goes⟩
          exact later.complete k (PositionSet.mem_union.mpr (.inr now)) count' j rest (by omega)

/-! ## Memories -/

/-- Whether all that a memory holds was reached from starts among the given ones. -/
def Remembers : (walk : Walk) → walk.Memory → (Nat → Prop) → Prop
  | stay, _, _ => True
  | pass _, _, _ => True
  | check _, _, _ => True
  | seq first second, (before, behind), starts =>
    first.Remembers before starts ∧
      second.Remembers behind fun k => ∃ i, starts i ∧ first.Goes i k
  | alt first second, (one, other), starts =>
    first.Remembers one starts ∧ second.Remembers other starts
  | loop body _, (known, memory), starts =>
    (∀ j ∈ known, ∃ i, starts i ∧ ∃ count, Iterated body.Goes count i j) ∧
      body.Remembers memory (· ∈ known)

theorem Remembers.mono {memory : walk.Memory} {starts starts' : Nat → Prop}
    (remembers : walk.Remembers memory starts) (more : ∀ i, starts i → starts' i) :
    walk.Remembers memory starts' := by
  induction walk generalizing starts starts' with
  | stay | pass _ | check _ => trivial
  | seq first second ihFirst ihSecond =>
    obtain ⟨before, behind⟩ := memory
    exact ⟨ihFirst remembers.1 more,
      ihSecond remembers.2 fun k ⟨i, start, goes⟩ => ⟨i, more i start, goes⟩⟩
  | alt first second ihFirst ihSecond =>
    obtain ⟨one, other⟩ := memory
    exact ⟨ihFirst remembers.1 more, ihSecond remembers.2 more⟩
  | loop body rounds ih =>
    obtain ⟨known, memory⟩ := memory
    refine ⟨fun j member => ?_, remembers.2⟩
    obtain ⟨i, start, steps⟩ := remembers.1 j member
    exact ⟨i, more i start, steps⟩

theorem remembers_blank (walk : Walk) (starts : Nat → Prop) :
    walk.Remembers walk.blank starts := by
  induction walk generalizing starts with
  | stay | pass _ | check _ => trivial
  | seq first second ihFirst ihSecond => exact ⟨ihFirst _, ihSecond _⟩
  | alt first second ihFirst ihSecond => exact ⟨ihFirst _, ihSecond _⟩
  | loop body rounds ih =>
    exact ⟨fun j member => absurd member PositionSet.notMem_empty, ih _⟩

/-- Whether a walk leads from its starts exactly to where it is said to end, whatever it remembers
of earlier starts, as long as these are among the present ones. -/
def Advances (length : Nat) (walk : Walk) : Prop :=
  ∀ {memory : walk.Memory} {starts : PositionSet}, (∀ i ∈ starts, i ≤ length) →
    walk.Remembers memory (· ∈ starts) →
    walk.Remembers (walk.advance memory starts).1 (· ∈ starts) ∧
      ∀ j, j ∈ (walk.advance memory starts).2 ↔ ∃ i ∈ starts, walk.Goes i j

theorem advances_pass (allowed : PositionSet) : (pass allowed).Advances length := by
  refine fun _ _ => ⟨trivial, fun j => ?_⟩
  simp only [advance, PositionSet.mem_next, PositionSet.mem_inter, Goes]
  exact ⟨fun ⟨i, ⟨start, allowed⟩, next⟩ => ⟨i, start, next, allowed⟩,
    fun ⟨i, start, next, allowed⟩ => ⟨i, ⟨start, allowed⟩, next⟩⟩

theorem advances_check (allowed : PositionSet) : (check allowed).Advances length := by
  refine fun _ _ => ⟨trivial, fun j => ?_⟩
  simp only [advance, PositionSet.mem_inter, Goes]
  exact ⟨fun ⟨start, allowed⟩ => ⟨j, start, rfl, allowed⟩,
    fun ⟨i, start, same, allowed⟩ => same ▸ ⟨start, allowed⟩⟩

theorem advances_seq {first second : Walk} (fits : first.Fits length)
    (firstAdvances : first.Advances length) (secondAdvances : second.Advances length) :
    (seq first second).Advances length := by
  rintro ⟨before, behind⟩ starts bounded remembers
  obtain ⟨remembersFirst, between⟩ := firstAdvances bounded remembers.1
  have bounded' : ∀ k ∈ (first.advance before starts).2, k ≤ length := by
    intro k member
    obtain ⟨i, start, goes⟩ := (between k).mp member
    exact goes.le_length fits (bounded i start)
  have remembers' := remembers.2.mono fun k => (between k).mpr
  obtain ⟨remembersSecond, ends⟩ := secondAdvances bounded' remembers'
  refine ⟨⟨remembersFirst, remembersSecond.mono fun k => (between k).mp⟩, fun j => ?_⟩
  refine (ends j).trans ?_
  constructor
  · rintro ⟨k, member, goes⟩
    obtain ⟨i, start, goes'⟩ := (between k).mp member
    exact ⟨i, start, k, goes', goes⟩
  · rintro ⟨i, start, k, goes, goes'⟩
    exact ⟨k, (between k).mpr ⟨i, start, goes⟩, goes'⟩

theorem advances_alt {first second : Walk} (firstAdvances : first.Advances length)
    (secondAdvances : second.Advances length) : (alt first second).Advances length := by
  rintro ⟨one, other⟩ starts bounded remembers
  obtain ⟨remembersFirst, ends⟩ := firstAdvances bounded remembers.1
  obtain ⟨remembersSecond, otherEnds⟩ := secondAdvances bounded remembers.2
  refine ⟨⟨remembersFirst, remembersSecond⟩, fun j => ?_⟩
  refine (PositionSet.mem_union.trans (or_congr (ends j) (otherEnds j))).trans ?_
  constructor
  · rintro (⟨i, start, goes⟩ | ⟨i, start, goes⟩)
    · exact ⟨i, start, .inl goes⟩
    · exact ⟨i, start, .inr goes⟩
  · rintro ⟨i, start, goes | goes⟩
    · exact .inl ⟨i, start, goes⟩
    · exact .inr ⟨i, start, goes⟩

/-- What a loop remembers joins its starts, and both grow to all that can be reached from them. -/
theorem advances_loop {body : Walk} {rounds : Nat} (fits : (loop body rounds).Fits length)
    (bodyAdvances : body.Advances length) : (loop body rounds).Advances length := by
  rintro ⟨known, memory⟩ starts bounded remembers
  have within : ∀ i j, i ≤ length → body.Goes i j → j ≤ length :=
    fun i j within goes => goes.le_length fits.1 within
  have bounded' : ∀ i ∈ known.union starts, i ≤ length := by
    intro i member
    rcases PositionSet.mem_union.mp member with before | now
    · obtain ⟨k, start, count, steps⟩ := remembers.1 i before
      exact steps.kept (P := (· ≤ length)) within (bounded k start)
    · exact bounded i now
  have remembers' := remembers.2.mono fun i before =>
    PositionSet.mem_union.mpr (.inl before : i ∈ known ∨ i ∈ starts)
  have grown := grown_grow body.Goes (fun memory reached => body.Remembers memory (· ∈ reached))
    (fun i j goes => goes.le) within (fun _ _ _ more remembers => remembers.mono more)
    (fun _ _ => bodyAdvances) rounds bounded' remembers'
  have sound : ∀ j ∈ (grow body.advance rounds memory (known.union starts)).1,
      ∃ i ∈ starts, ∃ count, Iterated body.Goes count i j := by
    intro j member
    obtain ⟨k, member, count, steps⟩ := grown.sound j member
    rcases PositionSet.mem_union.mp member with before | now
    · obtain ⟨i, start, count', steps'⟩ := remembers.1 k before
      exact ⟨i, start, count' + count, steps'.append steps⟩
    · exact ⟨k, now, count, steps⟩
  refine ⟨⟨sound, grown.remembers⟩, fun j => ⟨sound j, ?_⟩⟩
  rintro ⟨i, start, count, steps⟩
  have far := steps.kept (P := (· ≤ length)) within (bounded i start)
  have enough := fits.2
  exact grown.complete i (PositionSet.mem_union.mpr (.inr start)) count j steps (by omega)

theorem advances_of_fits (fits : walk.Fits length) : walk.Advances length := by
  induction walk with
  | stay =>
    refine fun _ _ => ⟨trivial, fun j => ?_⟩
    simp [advance, Goes]
  | pass allowed => exact advances_pass allowed
  | check allowed => exact advances_check allowed
  | seq first second ihFirst ihSecond =>
    exact advances_seq fits.1 (ihFirst fits.1) (ihSecond fits.2)
  | alt first second ihFirst ihSecond => exact advances_alt (ihFirst fits.1) (ihSecond fits.2)
  | loop body rounds ih => exact advances_loop fits (ih fits.1)

theorem mem_reach_iff {starts : PositionSet} (fits : walk.Fits length)
    (bounded : ∀ i ∈ starts, i ≤ length) :
    j ∈ walk.reach starts ↔ ∃ i ∈ starts, walk.Goes i j :=
  (advances_of_fits fits bounded (remembers_blank walk _)).2 j

/-! ## Copies -/

theorem goes_repeated {count : Nat} :
    (walk.repeated count).Goes i j ↔ Iterated walk.Goes count i j := by
  induction count generalizing i with
  | zero => exact Iff.rfl
  | succ count ih => exact exists_congr fun k => and_congr_right fun _ => ih

theorem goes_upTo {most : Nat} :
    (walk.upTo most).Goes i j ↔ ∃ count ≤ most, Iterated walk.Goes count i j := by
  induction most generalizing i with
  | zero =>
    constructor
    · exact fun same => ⟨0, Nat.le_refl 0, same⟩
    · rintro ⟨count, le, steps⟩
      obtain rfl := Nat.le_zero.mp le
      exact steps
  | succ most ih =>
    constructor
    · rintro (same | ⟨k, goes, rest⟩)
      · exact ⟨0, Nat.zero_le _, same⟩
      · obtain ⟨count, le, steps⟩ := ih.mp rest
        exact ⟨count + 1, Nat.succ_le_succ le, k, goes, steps⟩
    · rintro ⟨count, le, steps⟩
      cases count with
      | zero => exact .inl steps
      | succ count =>
        obtain ⟨k, goes, rest⟩ := steps
        exact .inr ⟨k, goes, ih.mpr ⟨count, Nat.le_of_succ_le_succ le, rest⟩⟩

theorem fits_repeated (fits : walk.Fits length) (count : Nat) :
    (walk.repeated count).Fits length := by
  induction count with
  | zero => trivial
  | succ count ih => exact ⟨fits, ih⟩

theorem fits_upTo (fits : walk.Fits length) (most : Nat) : (walk.upTo most).Fits length := by
  induction most with
  | zero => trivial
  | succ most ih => exact ⟨trivial, fits, ih⟩

end Walk

/-! ## Expressions as walks -/

/-- A condition is looked up at every position of a text, its ends included. -/
theorem Assertion.mem_positions {assertion : Assertion} {before : Option Char} {text : List Char}
    {i : Nat} :
    i ∈ assertion.positions before text ↔ i ≤ text.length ∧
      assertion.holds (if i = 0 then before else charBefore text i) text[i]? = true := by
  induction text generalizing before i with
  | nil =>
    cases i with
    | zero => simp [PositionSet.mem_iff, positions, PositionSet.contains_cons_zero]
    | succ i =>
      simp [PositionSet.mem_iff, positions, PositionSet.contains_cons_succ,
        PositionSet.contains_empty]
  | cons c rest ih =>
    cases i with
    | zero => simp [PositionSet.mem_iff, positions, PositionSet.contains_cons_zero]
    | succ i =>
      have behind : i + 1 ∈ assertion.positions before (c :: rest) ↔
          i ∈ assertion.positions (some c) rest := by
        simp only [PositionSet.mem_iff, positions, PositionSet.contains_cons_succ]
      rw [behind, ih, List.length_cons, Nat.succ_le_succ_iff, List.getElem?_cons_succ]
      cases i <;> simp [charBefore]

namespace Expr

variable {text : List Char} {e : Expr} {i j : Nat}

theorem fits_walk (text : List Char) (e : Expr) :
    (e.walk text (.ofText text)).Fits text.length := by
  induction e with
  | empty | look _ => trivial
  | chars set =>
    intro i member
    rw [PositionSet.mem_iff, CharIndex.contains_positions_ofText] at member
    obtain ⟨c, there, -⟩ := (Option.any_eq_true _ _).mp member
    exact (List.getElem?_eq_some_iff.mp there).1
  | seq first second ihFirst ihSecond => exact ⟨ihFirst, ihSecond⟩
  | alt first second ihFirst ihSecond => exact ⟨ihFirst, ihSecond⟩
  | times e least more ih =>
    simp only [walk]
    split
    · refine ⟨Walk.fits_repeated ih _, ?_⟩
      cases more with
      | none => exact ⟨ih, Nat.le_refl _⟩
      | some most => exact Walk.fits_upTo ih _
    · split
      · trivial
      · exact ih

/-- The walk of an expression leads from one end of each stretch that it matches to the other. -/
theorem goes_walk_iff (within : i ≤ text.length) :
    (e.walk text (.ofText text)).Goes i j ↔ e.Spans text i j := by
  induction e generalizing i j with
  | empty => exact Iff.rfl
  | chars set =>
    refine and_congr_right fun _ => ?_
    rw [PositionSet.mem_iff, CharIndex.contains_positions_ofText, Option.any_eq_true]
  | look assertion =>
    refine and_congr_right fun _ => Assertion.mem_positions.trans ?_
    cases i <;> simp [within, charBefore]
  | seq first second ihFirst ihSecond =>
    constructor
    · rintro ⟨k, before, behind⟩
      have before := (ihFirst within).mp before
      exact ⟨k, before, (ihSecond (before.le_length within)).mp behind⟩
    · rintro ⟨k, before, behind⟩
      exact ⟨k, (ihFirst within).mpr before, (ihSecond (before.le_length within)).mpr behind⟩
  | alt first second ihFirst ihSecond => exact or_congr (ihFirst within) (ihSecond within)
  | times e least more ih =>
    have keeps : ∀ i j, i ≤ text.length → e.Spans text i j → j ≤ text.length :=
      fun i j within spans => spans.le_length within
    have same : ∀ {count i j}, i ≤ text.length →
        (Iterated (e.walk text (.ofText text)).Goes count i j ↔
          Iterated (e.Spans text) count i j) := fun within =>
      (Iterated.congr keeps (fun _ _ within => (ih within).symm) within).symm
    simp only [walk]
    split
    case isTrue consumes =>
      refine Iff.trans ?_ (Iterated.cut_off (fun _ _ spans => spans.le) keeps within)
      refine exists_congr fun k => ?_
      refine (and_congr_left' (Walk.goes_repeated.trans (same within))).trans ?_
      refine and_congr_right fun first => ?_
      have inside := first.kept keeps within
      cases more with
      | none => simpa [Walk.Goes] using exists_congr fun count => same inside
      | some most =>
        refine Walk.goes_upTo.trans (exists_congr fun count => ?_)
        simp [same inside]
    case isFalse still =>
      refine Iff.trans ?_ (spans_times_of_still (eq_false_of_ne_true still)).symm
      split
      · exact Iff.rfl
      · exact ih within

theorem mem_reach_iff {starts : PositionSet} (bounded : ∀ i ∈ starts, i ≤ text.length) :
    j ∈ e.reach text starts ↔ ∃ i ∈ starts, e.Spans text i j := by
  rw [reach, Walk.mem_reach_iff (fits_walk text e) bounded]
  exact exists_congr fun i => and_congr_right fun start => goes_walk_iff (bounded i start)

/-- A search through a text succeeds exactly if the expression matches a stretch of it. -/
theorem occursIn_iff : e.occursIn text = true ↔ ∃ i j, i ≤ text.length ∧ e.Spans text i j := by
  have bounded : ∀ i ∈ PositionSet.all text.length, i ≤ text.length :=
    fun i => PositionSet.mem_all.mp
  rw [occursIn, decide_eq_true_iff, PositionSet.ne_empty_iff]
  constructor
  · rintro ⟨j, found⟩
    obtain ⟨i, start, spans⟩ := (mem_reach_iff bounded).mp found
    exact ⟨i, j, bounded i start, spans⟩
  · rintro ⟨i, j, within, spans⟩
    exact ⟨j, (mem_reach_iff bounded).mpr ⟨i, PositionSet.mem_all.mpr within, spans⟩⟩

end Expr

end Gleaner.Regex
