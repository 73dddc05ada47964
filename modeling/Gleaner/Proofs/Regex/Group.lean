import Gleaner.Regex.Reader.Pattern

/-! # Patterns inside a group

A pattern is read one character after the other, and what it is read inside of plays a part only
when that is closed. So a pattern is read inside a group just as by itself, unless it breaks out: it
goes on with a closing parenthesis where it is complete already. By itself such a pattern is not
well formed; inside a group, that parenthesis closes the group. -/

namespace Gleaner.Regex.Reader

open Gleaner.Unicode

namespace State

/-- The same state with further groups open around. -/
def within (s : State) (around : List (Flags × Level)) : State :=
  { s with outer := s.outer ++ around }

variable {s : State} {c : Char} (around : List (Flags × Level))

theorem closeGroup_within (opened : s.outer ≠ []) :
    (s.within around).closeGroup = s.closeGroup.map (·.within around) := by
  unfold closeGroup
  cases outer : s.outer with
  | nil => exact absurd outer opened
  | cons frame rest => simp [within, outer, push]

theorem repeatLast_within (least : Nat) (more : Option Nat) (mode : Mode) :
    (s.within around).repeatLast least more mode =
      (s.repeatLast least more mode).map (·.within around) := by
  simp only [repeatLast, within]
  split <;> rfl

theorem repeatCounted_within (least : Nat) (most : Option Nat) :
    (s.within around).repeatCounted least most =
      (s.repeatCounted least most).map (·.within around) := by
  unfold repeatCounted
  split
  · exact repeatLast_within around _ _ _
  · rfl

theorem readItem_within (inside : c = ')' → s.outer ≠ []) :
    (s.within around).readItem c = (s.readItem c).map (·.within around) := by
  unfold readItem
  split
  -- the parenthesis, the three repetitions and the brace of a count
  case h_2 => exact closeGroup_within around (inside rfl)
  case h_5 | h_6 | h_7 => exact repeatLast_within around _ _ _
  case h_8 =>
    have level : (s.within around).level = s.level := rfl
    rw [level]
    split <;> rfl
  all_goals rfl

theorem readCount_within (count : Count) :
    (s.within around).readCount count c = (s.readCount count c).map (·.within around) := by
  have least : ∀ n, readCount.endLeast (s.within around) c n =
      (readCount.endLeast s c n).map (·.within around) := by
    intro n
    unfold readCount.endLeast
    split
    · rfl
    · split
      · exact repeatCounted_within around _ _
      · rfl
  have most : ∀ n m, readCount.endMost (s.within around) c n m =
      (readCount.endMost s c n m).map (·.within around) := by
    intro n m
    unfold readCount.endMost
    split
    · exact repeatCounted_within around _ _
    · rfl
  unfold readCount
  dsimp only
  split
  case h_7 => split <;> rfl
  case h_8 | h_9 =>
    split
    · rfl
    · exact least _
  case h_10 =>
    split
    · rfl
    · split
      · exact repeatCounted_within around _ _
      · rfl
  case h_11 => split <;> rfl
  case h_12 | h_13 =>
    split
    · rfl
    · exact most _ _
  all_goals rfl

theorem endEscape_within (value : EscapeValue) :
    (s.within around).endEscape value = (s.endEscape value).within around := by
  unfold endEscape
  split <;> rfl

theorem endBoundaryName_within (name : List Char) :
    (s.within around).endBoundaryName name =
      (s.endBoundaryName name).map (·.within around) := by
  unfold endBoundaryName
  cases boundaryOf? name <;> rfl

theorem readGroupName_within (read : List Char) :
    (s.within around).readGroupName read c =
      (s.readGroupName read c).map (·.within around) := by
  unfold readGroupName
  have names : (s.within around).names = s.names := rfl
  rw [names]
  split
  · split <;> rfl
  · split <;> rfl

theorem readFlags_within (l : FlagList) :
    (s.within around).readFlags l c = (s.readFlags l c).map (·.within around) := by
  unfold readFlags
  split
  · split <;> rfl
  · split
    · split <;> rfl
    · split
      · rfl
      · split
        · rfl
        · cases setFlag l.flags (!l.read.contains '-') c <;> rfl

end State

/-- Whether a pattern may end where the reader is, as far as this depends on the place. -/
def Mode.isComplete : Mode → Bool
  | .item | .lazyMark | .countLazyMark | .boundary => true
  | _ => false

namespace State

variable {s : State} {c : Char} (around : List (Flags × Level))

theorem mayEnd_iff : s.mayEnd = true ↔ s.outer = [] ∧ s.mode.isComplete = true := by
  have places : s.mayEnd = (s.outer.isEmpty && s.mode.isComplete) := by
    unfold mayEnd Mode.isComplete
    cases s.mode <;> rfl
  rw [places, Bool.and_eq_true, List.isEmpty_iff]

theorem read_within (inside : c = ')' → s.mayEnd = false) :
    (s.within around).read c = (s.read c).map (·.within around) := by
  have opened : s.mode.isComplete = true → c = ')' → s.outer ≠ [] := by
    intro complete closing outer
    exact Bool.false_ne_true ((inside closing).symm.trans (mayEnd_iff.mpr ⟨outer, complete⟩))
  unfold read
  have mode : (s.within around).mode = s.mode := rfl
  rw [mode]
  cases at_ : s.mode with
  | item => exact readItem_within around (opened (by rw [at_]; rfl))
  | lazyMark | countLazyMark | boundary =>
    dsimp only
    split
    · rfl
    · exact readItem_within around (opened (by rw [at_]; rfl))
  | count count => exact readCount_within around count
  | escape e =>
    dsimp only
    cases e.read c with
    | none => rfl
    | some next =>
      cases next with
      | inl e => rfl
      | inr value => exact congrArg some (endEscape_within around value)
  | bracket b =>
    dsimp only
    have flags : (s.within around).flags = s.flags := rfl
    rw [flags]
    cases b.read s.flags.ignoreCase c with
    | none => rfl
    | some next => cases next <;> rfl
  | boundaryOpen =>
    dsimp only
    split
    · rfl
    · exact readCount_within around .start
  | boundaryName read =>
    dsimp only
    split
    · rfl
    · split
      · exact endBoundaryName_within around _
      · rfl
  | groupOpen =>
    dsimp only
    split
    · rfl
    · exact readItem_within (s := s.openGroup s.flags) around fun _ => List.cons_ne_nil _ _
  | groupMark =>
    dsimp only
    split
    · rfl
    · split
      · rfl
      · exact readFlags_within around _
  | groupLetter =>
    dsimp only
    split <;> rfl
  | groupAngle => exact readGroupName_within around []
  | groupName read => exact readGroupName_within around read
  | groupFlags l => exact readFlags_within around l

/-- A character is read as it is by itself inside further groups, unless it closes one of them. -/
theorem step_within (inside : c = ')' → s.mayEnd = true → s.inComment = true) :
    (s.within around).step c = (s.step c).map (·.within around) := by
  have skips : (s.within around).skip c = s.skip c := rfl
  have comment : (s.within around).inComment = s.inComment := rfl
  have flags : (s.within around).flags = s.flags := rfl
  unfold step
  rw [skips, comment, flags]
  split
  · rfl
  case isFalse outside =>
    have reads := read_within (s := s) (c := c) around fun closing =>
      Bool.eq_false_iff.mpr fun ends => outside (inside closing ends)
    split
    · cases s.skip c with
      | some mode => rfl
      | none => exact reads
    · exact reads

/-- A closing parenthesis where something may end closes the innermost group. -/
theorem step_closing (complete : s.mode.isComplete = true) (plain : s.inComment = false) :
    s.step ')' = s.closeGroup := by
  have read : s.read ')' = s.closeGroup := by
    unfold read
    cases at_ : s.mode <;> rw [at_] at complete <;> first | rfl | cases complete
  have blank : (isWhiteSpace ')' || ')' = '#') = false := by decide
  unfold step
  rw [plain, blank, Bool.and_false]
  exact read

/-- Whether, read on from a state, characters have a closing parenthesis that closes nothing among
what they open. -/
def BreaksOut (s : State) (cs : List Char) : Prop :=
  ∃ before after mid, cs = before ++ ')' :: after ∧ readAll s before = some mid ∧
    mid.mayEnd = true ∧ mid.inComment = false

end State

variable {s : State} {cs : List Char}

theorem readAll_append (s : State) (cs cs' : List Char) :
    readAll s (cs ++ cs') = (readAll s cs).bind (readAll · cs') :=
  List.foldlM_append

theorem readAll_cons (s : State) (c : Char) (cs : List Char) :
    readAll s (c :: cs) = (s.step c).bind (readAll · cs) :=
  List.foldlM_cons

/-- What breaks out is not well formed by itself. -/
theorem readAll_of_breaksOut (breaks : s.BreaksOut cs) : readAll s cs = none := by
  obtain ⟨before, after, mid, rfl, reads, ends, plain⟩ := breaks
  obtain ⟨outer, complete⟩ := State.mayEnd_iff.mp ends
  have refused : mid.closeGroup = none := by rw [State.closeGroup, outer]
  rw [readAll_append, reads, Option.bind_some, readAll_cons, State.step_closing complete plain,
    refused, Option.bind_none]

/-- Characters that do not break out are read inside further groups as they are by themselves. -/
theorem readAll_within (around : List (Flags × Level)) (stays : ¬s.BreaksOut cs) :
    readAll (s.within around) cs = (readAll s cs).map (·.within around) := by
  induction cs generalizing s with
  | nil => rfl
  | cons c cs ih =>
    have inside : c = ')' → s.mayEnd = true → s.inComment = true := by
      rintro rfl ends
      refine eq_true_of_ne_false fun plain => stays ?_
      exact ⟨[], cs, s, rfl, rfl, ends, plain⟩
    rw [readAll_cons, readAll_cons, State.step_within around inside]
    cases next : s.step c with
    | none => rfl
    | some t =>
      refine ih fun ⟨before, after, mid, split, reads, ends⟩ => stays ?_
      refine ⟨c :: before, after, mid, by rw [split, List.cons_append], ?_, ends⟩
      rw [readAll_cons, next, Option.bind_some, reads]

end Gleaner.Regex.Reader
