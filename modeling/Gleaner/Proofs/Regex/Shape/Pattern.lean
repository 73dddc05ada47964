import Gleaner.Proofs.Regex.Shape.Bracket
import Gleaner.Regex.Reader.Pattern

/-! # The shape of a pattern

Outside of classes, too, whether case counts makes a difference to the sets of characters in a
pattern, and to nothing else. Two states have the same shape if they differ in nothing else, and
then they still have after each further character. So a pattern is well formed with the flag exactly
if it is without it. -/

namespace Gleaner.Regex.Reader

/-- Levels that hold parts of the same depths. -/
structure Level.SameShape (l l' : Level) : Prop where
  branches : List.Forall₂ Nested.SameDepth l.branches l'.branches
  items : List.Forall₂ Nested.SameDepth l.items l'.items
  repeatable : l.repeatable = l'.repeatable

namespace Level.SameShape

variable {l l' : Level}

theorem start : Level.start.SameShape Level.start := ⟨.nil, .nil, rfl⟩

theorem branch (same : l.SameShape l') : l.branch.SameDepth l'.branch :=
  Nested.depthBeside_congr same.items

theorem toExpr (same : l.SameShape l') : l.toExpr.SameDepth l'.toExpr :=
  Nested.depthBeside_congr (.cons same.branch same.branches)

end Level.SameShape

/-- Places in a pattern that differ at most in the sets of a class, or in whether case is going to
count. -/
inductive Mode.SameShape : Mode → Mode → Prop
  | refl (mode : Mode) : SameShape mode mode
  | bracket {b b' : ClassState} (same : b.SameShape b') : SameShape (.bracket b) (.bracket b')
  | groupFlags (read : List Char) {flags flags' : Flags}
    (verbose : flags.verbose = flags'.verbose) :
    SameShape (.groupFlags ⟨read, flags⟩) (.groupFlags ⟨read, flags'⟩)

/-- Patterns that have been read equally far, with parts of the same depths. -/
structure State.SameShape (s s' : State) : Prop where
  mode : s.mode.SameShape s'.mode
  inComment : s.inComment = s'.inComment
  verbose : s.flags.verbose = s'.flags.verbose
  level : s.level.SameShape s'.level
  outer : List.Forall₂ (fun frame frame' => frame.1.verbose = frame'.1.verbose ∧
    frame.2.SameShape frame'.2) s.outer s'.outer
  names : s.names = s'.names

namespace State.SameShape

variable {s s' : State} {c : Char}

theorem start (ignoreCase ignoreCase' : Bool) :
    (State.start ignoreCase).SameShape (State.start ignoreCase') where
  mode := .refl _
  inComment := rfl
  verbose := rfl
  level := .start
  outer := .nil
  names := rfl

theorem push (same : s.SameShape s') {e e' : Nested Expr} (depth : e.SameDepth e') :
    (s.push e).SameShape (s'.push e') :=
  { same with
    mode := .refl _
    level := ⟨same.level.branches, .cons depth same.level.items, rfl⟩ }

theorem pushLook (same : s.SameShape s') (a : Assertion) :
    (s.pushLook a).SameShape (s'.pushLook a) :=
  same.push rfl

theorem repeatLast (same : s.SameShape s') (least : Nat) (more : Option Nat) (mode : Mode) :
    Option.Rel SameShape (s.repeatLast least more mode) (s'.repeatLast least more mode) := by
  have items := same.level.items
  unfold State.repeatLast
  rw [← same.level.repeatable]
  generalize s.level.items = parts at items
  generalize s'.level.items = parts' at items
  cases items with
  | nil => cases s.level.repeatable <;> exact .none
  | cons depth items =>
    cases s.level.repeatable with
    | false => exact .none
    | true =>
      have deeper := congrArg (· + 1) depth
      exact .some { same with
        mode := .refl _
        level := ⟨same.level.branches, .cons deeper items, same.level.repeatable⟩ }

theorem repeatCounted (same : s.SameShape s') (least : Nat) (most : Option Nat) :
    Option.Rel SameShape (s.repeatCounted least most) (s'.repeatCounted least most) := by
  unfold State.repeatCounted
  split
  · exact same.repeatLast _ _ _
  · exact .none

theorem openGroup (same : s.SameShape s') {flags flags' : Flags}
    (verbose : flags.verbose = flags'.verbose) :
    (s.openGroup flags).SameShape (s'.openGroup flags') where
  mode := .refl _
  inComment := same.inComment
  verbose := verbose
  level := .start
  outer := .cons ⟨same.verbose, same.level⟩ same.outer
  names := same.names

theorem closeGroup (same : s.SameShape s') :
    Option.Rel SameShape s.closeGroup s'.closeGroup := by
  have closed := same.level.toExpr
  have outer := same.outer
  unfold State.closeGroup
  generalize s.outer = frames at outer
  generalize s'.outer = frames' at outer
  cases outer with
  | nil => exact .none
  | cons frame outer =>
    refine .some (push ?_ (congrArg (· + 1) closed))
    exact { same with verbose := frame.1, level := frame.2, outer }

theorem alternate (same : s.SameShape s') : s.alternate.SameShape s'.alternate :=
  { same with
    mode := .refl _
    level := ⟨.cons same.level.branch same.level.branches, .nil, rfl⟩ }

theorem readItem (same : s.SameShape s') :
    Option.Rel SameShape (s.readItem c) (s'.readItem c) := by
  unfold State.readItem
  rw [← same.level.repeatable]
  split
  -- the parenthesis, the bar, the three repetitions, the brace of a count, what begins elsewhere
  case h_2 => exact same.closeGroup
  case h_3 => exact .some same.alternate
  case h_5 | h_6 | h_7 => exact same.repeatLast _ _ _
  case h_8 =>
    split
    · exact .some { same with mode := .refl _ }
    · exact .none
  case h_1 | h_4 | h_9 => exact .some { same with mode := .refl _ }
  all_goals exact .some (same.push rfl)

theorem readCount (same : s.SameShape s') (count : Count) :
    Option.Rel SameShape (s.readCount count c) (s'.readCount count c) := by
  have stays : ∀ count, Option.Rel SameShape (some { s with mode := .count count })
      (some { s' with mode := .count count }) := fun count => .some { same with mode := .refl _ }
  have least : ∀ n, Option.Rel SameShape (State.readCount.endLeast s c n)
      (State.readCount.endLeast s' c n) := by
    intro n
    unfold State.readCount.endLeast
    split
    · exact stays _
    · split
      · exact same.repeatCounted _ _
      · exact .none
  have most : ∀ n m, Option.Rel SameShape (State.readCount.endMost s c n m)
      (State.readCount.endMost s' c n m) := by
    intro n m
    unfold State.readCount.endMost
    split
    · exact same.repeatCounted _ _
    · exact .none
  unfold State.readCount
  dsimp only
  split
  case h_6 => exact .none
  case h_7 | h_11 =>
    split
    · exact stays _
    · exact .none
  case h_8 | h_9 =>
    split
    · exact stays _
    · exact least _
  case h_10 =>
    split
    · exact stays _
    · split
      · exact same.repeatCounted _ _
      · exact .none
  case h_12 | h_13 =>
    split
    · exact stays _
    · exact most _ _
  all_goals exact stays _

theorem endEscape (same : s.SameShape s') (value : EscapeValue) :
    (s.endEscape value).SameShape (s'.endEscape value) := by
  unfold State.endEscape
  split
  case h_3 => exact { same.pushLook .wordBoundary with mode := .refl _ }
  all_goals exact same.push rfl

theorem endBoundaryName (same : s.SameShape s') (name : List Char) :
    Option.Rel SameShape (s.endBoundaryName name) (s'.endBoundaryName name) := by
  unfold State.endBoundaryName
  cases boundaryOf? name with
  | none => exact .none
  | some a =>
    refine .some (pushLook ?_ a)
    exact { same with
      level := ⟨same.level.branches, List.forall₂_drop 1 same.level.items, same.level.repeatable⟩ }

theorem readGroupName (same : s.SameShape s') (read : List Char) :
    Option.Rel SameShape (s.readGroupName read c) (s'.readGroupName read c) := by
  have named : SameShape { s with names := read :: s.names } { s' with names := read :: s.names } :=
    { same with names := rfl }
  unfold State.readGroupName
  rw [← same.names]
  split
  · split
    · exact .none
    · exact .some (named.openGroup same.verbose)
  · split
    · exact .some { same with mode := .refl _, names := rfl }
    · exact .none

theorem setFlag {flags flags' : Flags} (verbose : flags.verbose = flags'.verbose) (on : Bool) :
    Option.Rel (fun flags flags' : Flags => flags.verbose = flags'.verbose)
      (State.setFlag flags on c) (State.setFlag flags' on c) := by
  unfold State.setFlag
  split
  case h_5 => exact .some rfl
  case h_7 =>
    split
    · exact .some verbose
    · exact .none
  case h_8 => exact .none
  all_goals exact .some verbose

theorem readFlags (same : s.SameShape s') (read : List Char) {flags flags' : Flags}
    (verbose : flags.verbose = flags'.verbose) :
    Option.Rel SameShape (s.readFlags ⟨read, flags⟩ c) (s'.readFlags ⟨read, flags'⟩ c) := by
  unfold State.readFlags
  dsimp only
  split
  · split
    · exact .none
    · exact .some (same.openGroup verbose)
  · split
    · split
      · exact .none
      · exact .some { same with
          mode := .refl _
          verbose
          level := ⟨same.level.branches, .cons rfl same.level.items, rfl⟩ }
    · split
      · exact .none
      · split
        · exact .some { same with mode := .groupFlags _ verbose }
        · exact rel_map (setFlag verbose _) fun _ _ verbose =>
            { same with mode := .groupFlags _ verbose }

/-- Reading inside a class. -/
theorem readClass (same : s.SameShape s') {b b' : ClassState} (sameClass : b.SameShape b') :
    Option.Rel SameShape ({ s with mode := .bracket b }.read c)
      ({ s' with mode := .bracket b' }.read c) := by
  refine rel_map sameClass.read fun next next' sameNext => ?_
  cases sameNext with
  | inl sameNext => exact { same with mode := .bracket sameNext }
  | inr depth => exact same.push depth

theorem read (same : s.SameShape s') : Option.Rel SameShape (s.read c) (s'.read c) := by
  have mode := same.mode
  unfold State.read
  generalize s.mode = at_ at mode
  generalize s'.mode = at_' at mode
  cases mode with
  | bracket sameClass => exact same.readClass sameClass
  | groupFlags read verbose => exact same.readFlags read verbose
  | refl =>
    cases at_ with
    | item => exact same.readItem
    | lazyMark | countLazyMark | boundary =>
      dsimp only
      split
      · exact .some { same with mode := .refl _ }
      · exact same.readItem
    | count count => exact same.readCount count
    | escape e =>
      dsimp only
      cases e.read c with
      | none => exact .none
      | some next =>
        cases next with
        | inl e => exact .some { same with mode := .refl _ }
        | inr value => exact .some (same.endEscape value)
    | bracket b => exact same.readClass (.refl b)
    | boundaryOpen =>
      dsimp only
      split
      · exact .some { same with mode := .refl _ }
      · exact same.readCount .start
    | boundaryName read =>
      dsimp only
      split
      · exact .some { same with mode := .refl _ }
      · split
        · exact same.endBoundaryName _
        · exact .none
    | groupOpen =>
      dsimp only
      split
      · exact .some { same with mode := .refl _ }
      · exact (same.openGroup same.verbose).readItem
    | groupMark =>
      dsimp only
      split
      · exact .some { same with mode := .refl _ }
      · split
        · exact .some { same with mode := .refl _ }
        · exact same.readFlags [] same.verbose
    | groupLetter =>
      dsimp only
      split
      · exact .some { same with mode := .refl _ }
      · exact .none
    | groupAngle => exact same.readGroupName []
    | groupName read => exact same.readGroupName read
    | groupFlags l => exact same.readFlags l.read rfl

theorem skip (same : s.SameShape s') : Option.Rel Mode.SameShape (s.skip c) (s'.skip c) := by
  have mode := same.mode
  unfold State.skip
  generalize s.mode = at_ at mode
  generalize s'.mode = at_' at mode
  cases mode with
  | bracket sameClass => exact rel_map sameClass.skip fun _ _ => .bracket
  | groupFlags read verbose => exact .none
  | refl =>
    cases at_ with
    | escape e =>
      dsimp only
      split
      · exact .some (.refl _)
      · exact .none
    | bracket b => exact rel_map (ClassState.SameShape.refl b).skip fun _ _ => .bracket
    | groupMark | groupLetter | groupAngle | groupName | groupFlags => exact .none
    | _ => exact .some (.refl _)

/-- The next character is read alike. -/
theorem step (same : s.SameShape s') : Option.Rel SameShape (s.step c) (s'.step c) := by
  have skips := same.skip (c := c)
  unfold State.step
  rw [← same.inComment, ← same.verbose]
  split
  · refine .some { same with mode := ?_, inComment := rfl }
    generalize s.skip c = next, s'.skip c = next' at skips
    cases skips with
    | some sameMode => exact sameMode
    | none => exact same.mode
  · split
    · generalize s.skip c = next at skips ⊢
      generalize s'.skip c = next' at skips ⊢
      cases skips with
      | some sameMode => exact .some { same with mode := sameMode, inComment := rfl }
      | none => exact same.read
    · exact same.read

theorem mayEnd (same : s.SameShape s') : s.mayEnd = s'.mayEnd := by
  have mode := same.mode
  have outer := same.outer
  unfold State.mayEnd
  generalize s.mode = at_ at mode
  generalize s'.mode = at_' at mode
  generalize s.outer = frames at outer
  generalize s'.outer = frames' at outer
  cases outer <;> cases mode <;> rfl

end State.SameShape

/-- A pattern is read alike whether or not case counts at its start. -/
theorem readAll_start (ignoreCase ignoreCase' : Bool) (cs : List Char) :
    Option.Rel State.SameShape (readAll (.start ignoreCase) cs)
      (readAll (.start ignoreCase') cs) :=
  rel_foldlM (fun _ _ _ same => same.step) cs (.start ignoreCase ignoreCase')

/-- Whether case counts at its start makes no difference to whether a pattern is well formed. -/
theorem expr?_isSome (ignoreCase ignoreCase' : Bool) (pattern : List Char) :
    (expr? ignoreCase pattern).isSome = (expr? ignoreCase' pattern).isSome := by
  have same := readAll_start ignoreCase ignoreCase' pattern
  unfold expr?
  generalize readAll (.start ignoreCase) pattern = read at same
  generalize readAll (.start ignoreCase') pattern = read' at same
  cases same with
  | none => rfl
  | some same =>
    have depth : _ = _ := same.level.toExpr
    simp only [Option.bind_some, State.finish, same.mayEnd, depth]
    split <;> rfl

end Gleaner.Regex.Reader
