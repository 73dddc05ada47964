import Gleaner.Regex.Walk

/-! # What an expression matches

An expression matches the stretches of a text that its parts match one after the other: that is its
meaning, in which no search and no order of preference plays a part. A stretch is given by the
positions of its ends. What is matched repeatedly never goes back, so of many repetitions only as
many are needed as positions lie in between. -/

namespace Gleaner.Regex

/-- Goes from one position to another in the given number of steps. -/
def Iterated (step : Nat → Nat → Prop) : Nat → Nat → Nat → Prop
  | 0, i, j => i = j
  | count + 1, i, j => ∃ k, step i k ∧ Iterated step count k j

namespace Iterated

variable {step step' : Nat → Nat → Prop} {m n i j k : Nat}

theorem one (first : step i j) : Iterated step 1 i j := ⟨j, first, rfl⟩

theorem append (first : Iterated step m i k) (second : Iterated step n k j) :
    Iterated step (m + n) i j := by
  induction m generalizing i with
  | zero =>
    obtain rfl : i = k := first
    rwa [Nat.zero_add]
  | succ m ih =>
    obtain ⟨next, goes, rest⟩ := first
    rw [Nat.succ_add]
    exact ⟨next, goes, ih rest⟩

theorem split (steps : Iterated step (m + n) i j) :
    ∃ k, Iterated step m i k ∧ Iterated step n k j := by
  induction m generalizing i with
  | zero =>
    rw [Nat.zero_add] at steps
    exact ⟨i, rfl, steps⟩
  | succ m ih =>
    rw [Nat.succ_add] at steps
    obtain ⟨next, goes, rest⟩ := steps
    obtain ⟨k, first, second⟩ := ih rest
    exact ⟨k, ⟨next, goes, first⟩, second⟩

/-- Steps of two kinds that agree where they are taken lead to the same places. -/
theorem congr {P : Nat → Prop} (keeps : ∀ i j, P i → step i j → P j)
    (same : ∀ i j, P i → (step i j ↔ step' i j)) (start : P i) :
    Iterated step n i j ↔ Iterated step' n i j := by
  induction n generalizing i with
  | zero => exact Iff.rfl
  | succ n ih =>
    constructor
    · rintro ⟨k, goes, rest⟩
      exact ⟨k, (same i k start).mp goes, (ih (keeps i k start goes)).mp rest⟩
    · rintro ⟨k, goes, rest⟩
      have goes := (same i k start).mpr goes
      exact ⟨k, goes, (ih (keeps i k start goes)).mpr rest⟩

theorem kept {P : Nat → Prop} (keeps : ∀ i j, P i → step i j → P j) (start : P i)
    (steps : Iterated step n i j) : P j := by
  induction n generalizing i with
  | zero => exact steps ▸ start
  | succ n ih =>
    obtain ⟨k, goes, rest⟩ := steps
    exact ih (keeps i k start goes) rest

section

variable (onward : ∀ i j, step i j → i ≤ j)

include onward

theorem le (steps : Iterated step n i j) : i ≤ j :=
  steps.kept (fun _ _ le goes => Nat.le_trans le (onward _ _ goes)) (Nat.le_refl i)

/-- Steps that stay in place can be left out. -/
theorem shorten (steps : Iterated step n i j) : ∃ m ≤ n, m ≤ j - i ∧ Iterated step m i j := by
  induction n generalizing i with
  | zero => exact ⟨0, Nat.le_refl 0, Nat.zero_le _, steps⟩
  | succ n ih =>
    obtain ⟨k, goes, rest⟩ := steps
    obtain ⟨m, le, few, rest⟩ := ih rest
    have onto := rest.le onward
    rcases Nat.eq_or_lt_of_le (onward i k goes) with rfl | further
    · exact ⟨m, by omega, few, rest⟩
    · exact ⟨m + 1, by omega, by omega, k, goes, rest⟩

/-- Of more steps than there are positions in between, one stays in place, and that can be done as
often as one likes. -/
theorem stretch (steps : Iterated step n i j) (many : j - i < n) (enough : j - i ≤ m) :
    Iterated step m i j := by
  induction n generalizing i m with
  | zero => omega
  | succ n ih =>
    obtain ⟨k, goes, rest⟩ := steps
    have onto := rest.le onward
    rcases Nat.eq_or_lt_of_le (onward i k goes) with rfl | further
    · obtain ⟨few, -, le, moves⟩ := rest.shorten onward
      have stays : ∀ count, Iterated step count i i := by
        intro count
        induction count with
        | zero => rfl
        | succ count ih => exact ⟨i, goes, ih⟩
      have padded := (stays (m - few)).append moves
      rwa [Nat.sub_add_cancel (by omega)] at padded
    · obtain ⟨m, rfl⟩ : ∃ before, m = before + 1 := ⟨m - 1, by omega⟩
      exact ⟨k, goes, ih rest (by omega) (by omega)⟩

theorem first_move (steps : Iterated step n i j) :
    i = j ∨ ∃ k m, i < k ∧ step i k ∧ Iterated step m k j := by
  induction n with
  | zero => exact .inl steps
  | succ n ih =>
    obtain ⟨k, goes, rest⟩ := steps
    rcases Nat.eq_or_lt_of_le (onward i k goes) with rfl | further
    · exact ih rest
    · exact .inr ⟨k, n, further, goes, rest⟩

/-- Among positions up to a last one, no more steps than positions are needed: neither of the ones
that have to be taken, nor of the ones that may be. -/
theorem cut_off {last least : Nat} {more : Option Nat}
    (within : ∀ i j, i ≤ last → step i j → j ≤ last) (start : i ≤ last) :
    (∃ k, Iterated step (min least (last + 1)) i k ∧
        ∃ count, (∀ most ∈ more, count ≤ min most last) ∧ Iterated step count k j) ↔
      ∃ extra, (∀ most ∈ more, extra ≤ most) ∧ Iterated step (least + extra) i j := by
  constructor
  · rintro ⟨k, first, count, few, second⟩
    have inside := first.kept within start
    refine ⟨count, fun most given => Nat.le_trans (few most given) (Nat.min_le_left _ _), ?_⟩
    refine Iterated.append ?_ second
    by_cases small : least ≤ last + 1
    · rwa [Nat.min_eq_left small] at first
    · rw [Nat.min_eq_right (by omega)] at first
      exact first.stretch onward (by omega) (by omega)
  · rintro ⟨extra, few, steps⟩
    obtain ⟨k, first, second⟩ := steps.split
    have inside := first.kept within start
    have inside' := second.kept within inside
    obtain ⟨count, le, short, second⟩ := second.shorten onward
    refine ⟨k, ?_, count, fun most given => ?_, second⟩
    · by_cases small : least ≤ last + 1
      · rwa [Nat.min_eq_left small]
      · rw [Nat.min_eq_right (by omega)]
        exact first.stretch onward (by omega) (by omega)
    · have := few most given
      omega

end

end Iterated

/-- The character before a position. -/
def charBefore (text : List Char) : Nat → Option Char
  | 0 => none
  | i + 1 => text[i]?

namespace Expr

/-- Whether an expression matches the stretch of a text between two positions. -/
def Spans (text : List Char) : Expr → Nat → Nat → Prop
  | empty, i, j => i = j
  | chars set, i, j => j = i + 1 ∧ ∃ c, text[i]? = some c ∧ set.contains c = true
  | look assertion, i, j => i = j ∧ assertion.holds (charBefore text i) text[i]? = true
  | seq first second, i, j => ∃ k, first.Spans text i k ∧ second.Spans text k j
  | alt first second, i, j => first.Spans text i j ∨ second.Spans text i j
  | times e least more, i, j =>
    ∃ extra, (∀ most ∈ more, extra ≤ most) ∧ Iterated (e.Spans text) (least + extra) i j

variable {text : List Char} {e : Expr} {i j : Nat}

theorem Spans.le (spans : e.Spans text i j) : i ≤ j := by
  induction e generalizing i j with
  | empty => exact Nat.le_of_eq spans
  | chars set =>
    have next := spans.1
    omega
  | look assertion => exact Nat.le_of_eq spans.1
  | seq first second ihFirst ihSecond =>
    obtain ⟨k, before, behind⟩ := spans
    exact Nat.le_trans (ihFirst before) (ihSecond behind)
  | alt first second ihFirst ihSecond =>
    rcases spans with one | other
    · exact ihFirst one
    · exact ihSecond other
  | times e least more ih =>
    obtain ⟨extra, -, steps⟩ := spans
    exact steps.le fun _ _ => ih

/-- A stretch that starts in a text ends there, too. -/
theorem Spans.le_length (spans : e.Spans text i j) (within : i ≤ text.length) :
    j ≤ text.length := by
  induction e generalizing i j with
  | empty => exact spans ▸ within
  | chars set =>
    obtain ⟨rfl, c, there, -⟩ := spans
    exact (List.getElem?_eq_some_iff.mp there).1
  | look assertion => exact spans.1 ▸ within
  | seq first second ihFirst ihSecond =>
    obtain ⟨k, before, behind⟩ := spans
    exact ihSecond behind (ihFirst before within)
  | alt first second ihFirst ihSecond =>
    rcases spans with one | other
    · exact ihFirst one within
    · exact ihSecond other within
  | times e least more ih =>
    obtain ⟨extra, -, steps⟩ := spans
    exact steps.kept (P := (· ≤ text.length)) (fun _ _ within goes => ih goes within) within

/-- What cannot pass a character stays in place. -/
theorem Spans.eq_of_not_consumes (spans : e.Spans text i j) (still : e.consumes = false) :
    i = j := by
  induction e generalizing i j with
  | empty => exact spans
  | chars set => simp [consumes] at still
  | look assertion => exact spans.1
  | seq first second ihFirst ihSecond =>
    obtain ⟨k, before, behind⟩ := spans
    obtain ⟨stillFirst, stillSecond⟩ := Bool.or_eq_false_iff.mp still
    exact (ihFirst before stillFirst).trans (ihSecond behind stillSecond)
  | alt first second ihFirst ihSecond =>
    obtain ⟨stillFirst, stillSecond⟩ := Bool.or_eq_false_iff.mp still
    rcases spans with one | other
    · exact ihFirst one stillFirst
    · exact ihSecond other stillSecond
  | times e least more ih =>
    obtain ⟨extra, few, steps⟩ := spans
    rcases Bool.and_eq_false_iff.mp still with stillBody | never
    · exact steps.kept (P := (i = ·)) (fun _ _ same goes => same.trans (ih goes stillBody)) rfl
    · obtain ⟨rfl, rfl⟩ : least = 0 ∧ more = some 0 := by simpa using never
      obtain rfl : extra = 0 := by simpa using few
      exact steps

/-- What cannot pass a character does no more when it is repeated than when it is done once. -/
theorem spans_times_of_still (still : e.consumes = false) {least : Nat} {more : Option Nat} :
    (e.times least more).Spans text i j ↔ if least = 0 then i = j else e.Spans text i j := by
  have stays : ∀ {count i j}, Iterated (e.Spans text) count i j → i = j := fun steps =>
    steps.kept (P := (_ = ·))
      (fun _ _ same spans => same.trans (spans.eq_of_not_consumes still)) rfl
  constructor
  · rintro ⟨extra, -, steps⟩
    split
    case isTrue => exact stays steps
    case isFalse some =>
      obtain ⟨before, rfl⟩ : ∃ before, least = before + 1 := ⟨least - 1, by omega⟩
      rw [Nat.succ_add] at steps
      obtain ⟨k, spans, rest⟩ := steps
      obtain rfl := stays rest
      exact spans
  · intro once
    refine ⟨0, fun _ _ => Nat.zero_le _, ?_⟩
    split at once
    case isTrue none =>
      subst none
      exact once
    case isFalse some =>
      obtain rfl := once.eq_of_not_consumes still
      exact (Iterated.one once).stretch (fun _ _ spans => spans.le) (by omega) (by omega)

end Expr

end Gleaner.Regex
