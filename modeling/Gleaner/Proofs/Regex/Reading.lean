import Gleaner.Proofs.Regex.Dialect
import Gleaner.Proofs.Regex.Group
import Gleaner.Proofs.Regex.Reach
import Gleaner.Proofs.Regex.Shape.Pattern

/-! # The dialect of the reader

The engine that reads patterns one character after the other and searches by walks keeps to the
rules of the syntax. A pattern is complete if it may end where it ends and is not in a comment
there; inside a group it is read as by itself, and the items of a row are matched in order. -/

namespace Gleaner.Regex

open Reader

/-- The patterns that are read to their end, with the meaning of the expressions they describe. -/
def reading : Dialect where
  WellFormed pattern := ∃ s, readAll (.start false) pattern.toList = some s ∧ s.mayEnd = true
  Fits _ pattern := ∀ s, readAll (.start false) pattern.toList = some s →
    s.level.toExpr.depth ≤ State.maxDepth
  Spans ignoreCase pattern text i j := i ≤ text.toList.length ∧
    ∃ s, readAll (.start ignoreCase) pattern.toList = some s ∧
      s.level.toExpr.value.Spans text.toList i j

/-! ## The ends of a text -/

namespace Expr

variable {text : List Char} {i j : Nat}

theorem spans_textStart_iff (within : i ≤ text.length) :
    (look .textStart).Spans text i j ↔ i = j ∧ i = 0 := by
  refine and_congr_right fun _ => ?_
  cases i with
  | zero => simp [charBefore, Assertion.holds]
  | succ i =>
    have there : i < text.length := within
    simp [charBefore, Assertion.holds, there]

theorem spans_textEnd_iff (within : i ≤ text.length) :
    (look .textEnd).Spans text i j ↔ i = j ∧ i = text.length := by
  refine and_congr_right fun _ => ?_
  simp [Assertion.holds, Nat.le_antisymm_iff, within]

end Expr

/-! ## Complete patterns -/

namespace Reader

/-- In a comment, a pattern may still end behind the next character. -/
theorem State.mayEnd_of_inComment {s : State} (ends : s.mayEnd = true)
    (comment : s.inComment = true) (c : Char) : ∃ t, s.step c = some t ∧ t.mayEnd = true := by
  obtain ⟨outer, complete⟩ := State.mayEnd_iff.mp ends
  have next : s.step c = some { s with
      mode := (s.skip c).getD s.mode
      inComment := c ≠ '\n' } := by
    rw [State.step, if_pos comment]
  have still : ((s.skip c).getD s.mode).isComplete = true := by
    unfold State.skip
    cases at_ : s.mode <;> rw [at_] at complete <;> first | rfl | cases complete
  exact ⟨_, next, State.mayEnd_iff.mpr ⟨outer, still⟩⟩

end Reader

variable {pattern : String}

theorem reading_complete_iff :
    reading.Complete pattern ↔ ∃ s, readAll (.start false) pattern.toList = some s ∧
      s.mayEnd = true ∧ s.inComment = false := by
  have behind : (pattern ++ ")").toList = pattern.toList ++ [')'] := String.toList_append
  constructor
  · rintro ⟨⟨s, reads, ends⟩, closes⟩
    refine ⟨s, reads, ends, eq_false_of_ne_true fun comment => closes ?_⟩
    obtain ⟨t, next, ends'⟩ := s.mayEnd_of_inComment ends comment ')'
    refine ⟨t, ?_, ends'⟩
    rw [behind, readAll_append, reads, Option.bind_some, readAll_cons, next, Option.bind_some]
    rfl
  · rintro ⟨s, reads, ends, plain⟩
    refine ⟨⟨s, reads, ends⟩, ?_⟩
    rintro ⟨t, reads', -⟩
    rw [behind, readAll_of_breaksOut ⟨pattern.toList, [], s, rfl, reads, ends, plain⟩] at reads'
    cases reads'

/-- A complete pattern is read with case ignored, too. -/
theorem exists_readAll_of_complete (complete : reading.Complete pattern) (ignoreCase : Bool) :
    ∃ s, readAll (.start ignoreCase) pattern.toList = some s ∧ s.mayEnd = true ∧
      s.inComment = false := by
  obtain ⟨s, reads, ends, plain⟩ := reading_complete_iff.mp complete
  have shape := readAll_start false ignoreCase pattern.toList
  rw [reads] at shape
  cases reads' : readAll (.start ignoreCase) pattern.toList with
  | none =>
    rw [reads'] at shape
    cases shape
  | some t =>
    rw [reads'] at shape
    cases shape with
    | some same => exact ⟨t, rfl, same.mayEnd ▸ ends, same.inComment ▸ plain⟩

/-! ## Rows -/

namespace Reader

/-- The flags that are on at the start of a pattern. -/
def Flags.start (ignoreCase : Bool) : Flags := { Flags.none with ignoreCase }

/-- A reader that has read items, last first, and is in no group. -/
def State.behind (ignoreCase : Bool) (items : List (Nested Expr)) (repeatable : Bool)
    (names : List (List Char)) : State :=
  ⟨.item, false, .start ignoreCase, ⟨[], items, repeatable⟩, [], names⟩

/-- What items stand for, last first. -/
def itemsExpr (items : List (Nested Expr)) : Expr :=
  items.foldl (fun rest item => .seq item.value rest) .empty

variable {text : List Char} {i j : Nat}

theorem spans_foldl_iff (items : List (Nested Expr)) (e : Expr) :
    (items.foldl (fun rest item => .seq item.value rest) e).Spans text i j ↔
      ∃ k, (itemsExpr items).Spans text i k ∧ e.Spans text k j := by
  unfold itemsExpr
  induction items generalizing e j with
  | nil => exact ⟨fun spans => ⟨i, rfl, spans⟩, fun ⟨_, same, spans⟩ => same ▸ spans⟩
  | cons item items ih =>
    rw [List.foldl_cons, List.foldl_cons, ih]
    constructor
    · rintro ⟨k, before, l, here, behind⟩
      exact ⟨l, (ih _).mpr ⟨k, before, l, here, rfl⟩, behind⟩
    · rintro ⟨l, spans, behind⟩
      obtain ⟨k, before, m, here, rfl⟩ := (ih _).mp spans
      exact ⟨k, before, m, here, behind⟩

/-- Later items match what follows. -/
theorem spans_itemsExpr_append (later items : List (Nested Expr)) :
    (itemsExpr (later ++ items)).Spans text i j ↔
      ∃ k, (itemsExpr items).Spans text i k ∧ (itemsExpr later).Spans text k j := by
  rw [itemsExpr, List.foldl_append, spans_foldl_iff]
  rfl

theorem spans_itemsExpr_singleton (item : Nested Expr) :
    (itemsExpr [item]).Spans text i j ↔ item.value.Spans text i j :=
  ⟨fun ⟨_, spans, same⟩ => same ▸ spans, fun spans => ⟨j, spans, rfl⟩⟩

end Reader

open Dialect

/-- The characters before a group that is to match a whole text. -/
def opening : List Char := ['\\', 'A', '(', '?', ':']

theorem readAll_opening :
    readAll (.start false) opening = some ((State.start false).within
      [(.none, ⟨[], [.leaf (.look .textStart)], true⟩)]) := rfl

/-- A group is read to one item. -/
theorem readAll_group {s : State} {ignoreCase : Bool}
    (reads : readAll (.start ignoreCase) pattern.toList = some s) (ends : s.mayEnd = true)
    (plain : s.inComment = false) (items : List (Nested Expr)) (repeatable : Bool) :
    readAll (.behind ignoreCase items repeatable []) (group pattern).toList =
      some (.behind ignoreCase (s.level.toExpr.around id :: items) true s.names) := by
  have around : (group pattern).toList = ['(', '?', ':'] ++ pattern.toList ++ [')'] := by
    simp [group]
  let frame : Flags × Reader.Level := (.start ignoreCase, ⟨[], items, repeatable⟩)
  have opens : readAll (.behind ignoreCase items repeatable []) ['(', '?', ':'] =
      some ((State.start ignoreCase).within [frame]) := rfl
  have stays : ¬(State.start ignoreCase).BreaksOut pattern.toList := by
    intro breaks
    cases (readAll_of_breaksOut breaks).symm.trans reads
  obtain ⟨outer, complete⟩ := State.mayEnd_iff.mp ends
  have closes : (s.within [frame]).step ')' = (s.within [frame]).closeGroup :=
    State.step_closing complete plain
  have closed : (s.within [frame]).closeGroup =
      some (.behind ignoreCase (s.level.toExpr.around id :: items) true s.names) := by
    simp [State.closeGroup, State.within, outer, State.push, State.behind, frame, plain]
  rw [around, readAll_append, readAll_append, opens, Option.bind_some, readAll_within _ stays,
    reads, Option.map_some, Option.bind_some, readAll_cons, closes, closed]
  rfl

section

variable {own : List (Nested Expr)} {names : List (List Char)} {ignoreCase : Bool}

/-- The start of a text before a pattern is one item more, before the others. -/
theorem readAll_textStart_append
    (reads : ∀ items repeatable, readAll (.behind ignoreCase items repeatable []) pattern.toList =
      some (.behind ignoreCase (own ++ items) true names)) (items : List (Nested Expr))
    (repeatable : Bool) :
    readAll (.behind ignoreCase items repeatable []) ("\\A" ++ pattern).toList =
      some (.behind ignoreCase (own ++ [.leaf (.look .textStart)] ++ items) true names) := by
  have chars : "\\A".toList = ['\\', 'A'] := by decide
  have start : readAll (.behind ignoreCase items repeatable []) ['\\', 'A'] =
      some (.behind ignoreCase (.leaf (.look .textStart) :: items) true []) := rfl
  rw [String.toList_append, chars, readAll_append, start, Option.bind_some, reads,
    List.append_assoc, List.singleton_append]

/-- The end of a text behind a pattern is one item more, behind the others. -/
theorem readAll_append_textEnd
    (reads : ∀ items repeatable, readAll (.behind ignoreCase items repeatable []) pattern.toList =
      some (.behind ignoreCase (own ++ items) true names)) (items : List (Nested Expr))
    (repeatable : Bool) :
    readAll (.behind ignoreCase items repeatable []) (pattern ++ "\\z").toList =
      some (.behind ignoreCase ([.leaf (.look .textEnd)] ++ own ++ items) true names) := by
  have chars : "\\z".toList = ['\\', 'z'] := by decide
  rw [String.toList_append, chars, readAll_append, reads, Option.bind_some]
  rfl

end

/-- A row is read to items, whatever has been read before. -/
theorem readAll_row (row : reading.Row pattern) (ignoreCase : Bool) :
    ∃ own names, ∀ items repeatable,
      readAll (.behind ignoreCase items repeatable []) pattern.toList =
        some (.behind ignoreCase (own ++ items) true names) := by
  induction row with
  | group complete =>
    obtain ⟨s, reads, ends, plain⟩ := exists_readAll_of_complete complete ignoreCase
    exact ⟨[s.level.toExpr.around id], s.names, readAll_group reads ends plain⟩
  | textStart row ih =>
    obtain ⟨own, names, reads⟩ := ih
    exact ⟨_, names, readAll_textStart_append reads⟩
  | textEnd row ih =>
    obtain ⟨own, names, reads⟩ := ih
    exact ⟨_, names, readAll_append_textEnd reads⟩

variable {text : String} {ignoreCase : Bool} {i j : Nat}

theorem spans_of_readAll {items : List (Nested Expr)} {repeatable : Bool} {names : List (List Char)}
    (reads : readAll (.start ignoreCase) pattern.toList =
      some (.behind ignoreCase items repeatable names)) :
    reading.Spans ignoreCase pattern text i j ↔
      i ≤ text.toList.length ∧ (itemsExpr items).Spans text.toList i j := by
  constructor
  · rintro ⟨within, s, reads', spans⟩
    obtain rfl := Option.some.inj (reads.symm.trans reads')
    exact ⟨within, spans⟩
  · rintro ⟨within, spans⟩
    exact ⟨within, _, reads, spans⟩

/-! ## The rules of the syntax -/

theorem not_wellFormed_of_unopened (complete : reading.Complete pattern) (rest : String) :
    ¬reading.WellFormed (pattern ++ ")" ++ rest) := by
  obtain ⟨s, reads, ends, plain⟩ := reading_complete_iff.mp complete
  rintro ⟨t, reads', -⟩
  have breaks : (State.start false).BreaksOut (pattern ++ ")" ++ rest).toList := by
    refine ⟨pattern.toList, rest.toList, s, ?_, reads, ends, plain⟩
    simp
  cases (readAll_of_breaksOut breaks).symm.trans reads'

theorem exists_complete_of_closed (wellFormed : reading.WellFormed ("\\A(?:" ++ pattern)) :
    ∃ inner rest, pattern = inner ++ ")" ++ rest ∧ reading.Complete inner := by
  obtain ⟨t, reads, ends⟩ := wellFormed
  have chars : ("\\A(?:" ++ pattern).toList = opening ++ pattern.toList := String.toList_append
  rw [chars, readAll_append, readAll_opening, Option.bind_some] at reads
  by_cases breaks : (State.start false).BreaksOut pattern.toList
  · obtain ⟨before, after, s, split, reads, ends, plain⟩ := breaks
    refine ⟨String.ofList before, String.ofList after, ?_, reading_complete_iff.mpr ?_⟩
    · rw [← String.toList_inj, split]
      simp
    · exact ⟨s, by rwa [String.toList_ofList], ends, plain⟩
  · -- What stays in the group leaves it open.
    rw [readAll_within _ breaks] at reads
    obtain ⟨s, -, rfl⟩ := Option.map_eq_some_iff.mp reads
    simp [State.within, State.mayEnd] at ends

theorem wellFormed_of_row (row : reading.Row pattern) : reading.WellFormed pattern := by
  obtain ⟨own, names, reads⟩ := readAll_row row false
  exact ⟨_, reads [] false, rfl⟩

theorem spans_group_iff (complete : reading.Complete pattern) :
    reading.Spans ignoreCase (group pattern) text i j ↔
      reading.Spans ignoreCase pattern text i j := by
  obtain ⟨s, reads, ends, plain⟩ := exists_readAll_of_complete complete ignoreCase
  rw [spans_of_readAll (readAll_group reads ends plain [] false), spans_itemsExpr_singleton]
  constructor
  · rintro ⟨within, spans⟩
    exact ⟨within, s, reads, spans⟩
  · rintro ⟨within, s', reads', spans⟩
    obtain rfl := Option.some.inj (reads.symm.trans reads')
    exact ⟨within, spans⟩

theorem spans_textStart_append_iff (row : reading.Row pattern) :
    reading.Spans ignoreCase ("\\A" ++ pattern) text i j ↔
      i = 0 ∧ reading.Spans ignoreCase pattern text i j := by
  obtain ⟨own, names, reads⟩ := readAll_row row ignoreCase
  rw [spans_of_readAll (readAll_textStart_append reads [] false),
    spans_of_readAll (reads [] false), List.append_nil, List.append_nil, spans_itemsExpr_append]
  simp only [spans_itemsExpr_singleton]
  constructor
  · rintro ⟨within, k, first, spans⟩
    obtain ⟨rfl, rfl⟩ := (Expr.spans_textStart_iff within).mp first
    exact ⟨rfl, within, spans⟩
  · rintro ⟨rfl, within, spans⟩
    exact ⟨within, 0, (Expr.spans_textStart_iff within).mpr ⟨rfl, rfl⟩, spans⟩

theorem spans_append_textEnd_iff (row : reading.Row pattern) :
    reading.Spans ignoreCase (pattern ++ "\\z") text i j ↔
      j = text.length ∧ reading.Spans ignoreCase pattern text i j := by
  obtain ⟨own, names, reads⟩ := readAll_row row ignoreCase
  rw [spans_of_readAll (readAll_append_textEnd reads [] false), spans_of_readAll (reads [] false),
    List.append_nil, List.append_nil, spans_itemsExpr_append, ← String.length_toList]
  simp only [spans_itemsExpr_singleton]
  constructor
  · rintro ⟨within, k, spans, last⟩
    obtain ⟨rfl, rfl⟩ := (Expr.spans_textEnd_iff (spans.le_length within)).mp last
    exact ⟨rfl, within, spans⟩
  · rintro ⟨rfl, within, spans⟩
    exact ⟨within, _, spans, (Expr.spans_textEnd_iff (Nat.le_refl _)).mpr ⟨rfl, rfl⟩⟩

theorem lawful_reading : reading.Lawful where
  unopened := not_wellFormed_of_unopened
  closed := exists_complete_of_closed
  row := wellFormed_of_row
  spans_group complete := spans_group_iff complete
  spans_textStart row := spans_textStart_append_iff row
  spans_textEnd row := spans_append_textEnd_iff row

/-! ## The engine -/

variable {e : Expr}

theorem expr?_eq_some_iff :
    expr? ignoreCase pattern.toList = some e ↔
      ∃ s, readAll (.start ignoreCase) pattern.toList = some s ∧ s.mayEnd = true ∧
        s.level.toExpr.depth ≤ State.maxDepth ∧ s.level.toExpr.value = e := by
  simp [expr?, State.finish, Option.bind_eq_some_iff, and_assoc]

/-- A pattern is compiled to a search for the expression that it is read to. -/
theorem compileWith?_eq_some_iff {regex : Regex} :
    compileWith? ignoreCase pattern = some regex ↔
      ∃ e, expr? ignoreCase pattern.toList = some e ∧
        ⟨pattern, fun text => e.occursIn text.toList⟩ = regex :=
  Option.map_eq_some_iff

theorem describes_reading : reading.Describes where
  accepts ignoreCase pattern := by
    have compiles : (compileWith? ignoreCase pattern).isSome =
        (expr? ignoreCase pattern.toList).isSome := Option.isSome_map
    rw [compiles, expr?_isSome ignoreCase false, Option.isSome_iff_exists]
    constructor
    · rintro ⟨e, read⟩
      obtain ⟨s, reads, ends, shallow, -⟩ := expr?_eq_some_iff.mp read
      refine ⟨⟨s, reads, ends⟩, fun s' reads' => ?_⟩
      obtain rfl := Option.some.inj (reads.symm.trans reads')
      exact shallow
    · rintro ⟨⟨s, reads, ends⟩, shallow⟩
      exact ⟨_, expr?_eq_some_iff.mpr ⟨s, reads, ends, shallow s reads, rfl⟩⟩
  pattern := by
    intro ignoreCase pattern regex compiled
    obtain ⟨e, -, rfl⟩ := compileWith?_eq_some_iff.mp compiled
    rfl
  isMatch := by
    intro ignoreCase pattern regex compiled text
    obtain ⟨e, read, rfl⟩ := compileWith?_eq_some_iff.mp compiled
    obtain ⟨s, reads, -, -, rfl⟩ := expr?_eq_some_iff.mp read
    refine Expr.occursIn_iff.trans ⟨?_, ?_⟩
    · rintro ⟨i, j, within, spans⟩
      exact ⟨i, j, within, s, reads, spans⟩
    · rintro ⟨i, j, within, s', reads', spans⟩
      obtain rfl := Option.some.inj (reads.symm.trans reads')
      exact ⟨i, j, within, spans⟩

end Gleaner.Regex
