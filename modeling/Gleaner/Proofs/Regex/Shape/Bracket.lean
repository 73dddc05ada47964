import Gleaner.Regex.Reader.Bracket
import Mathlib.Data.List.Forall2

/-! # The shape of a class

Whether case counts makes a difference to the sets of characters in a class, and to nothing else:
not to how it is read, nor to how deep its parts nest. Two states of a class have the same shape if
they differ in nothing else, and then they still have after each further character. -/

namespace Gleaner.Regex

namespace Nested

variable {α β : Type}

/-- Parts that nest equally deep. -/
def SameDepth (part : Nested α) (part' : Nested β) : Prop := part.depth = part'.depth

theorem foldl_max_congr {parts : List (Nested α)} {parts' : List (Nested β)}
    (same : List.Forall₂ SameDepth parts parts') {deepest deepest' : Nat}
    (start : deepest = deepest') :
    parts.foldl (fun deepest part => max deepest part.depth) deepest =
      parts'.foldl (fun deepest part => max deepest part.depth) deepest' := by
  induction same generalizing deepest deepest' with
  | nil => exact start
  | cons first _ ih => exact ih (congrArg₂ max start first)

theorem depthBeside_congr {parts : List (Nested α)} {parts' : List (Nested β)}
    (same : List.Forall₂ SameDepth parts parts') : depthBeside parts = depthBeside parts' := by
  cases same with
  | nil => rfl
  | cons first rest =>
    cases rest with
    | nil => exact first
    | cons second rest => exact congrArg (· + 1) (foldl_max_congr (.cons second rest) first)

end Nested

namespace Reader

/-! ## Results that go together -/

section

variable {α β γ δ ε : Type} {R : α → β → Prop} {S : γ → δ → Prop}

theorem rel_map {x : Option α} {y : Option β} {f : α → γ} {g : β → δ} (same : Option.Rel R x y)
    (further : ∀ a b, R a b → S (f a) (g b)) : Option.Rel S (x.map f) (y.map g) := by
  cases same with
  | some same => exact .some (further _ _ same)
  | none => exact .none

theorem rel_bind {x : Option α} {y : Option β} {f : α → Option γ} {g : β → Option δ}
    (same : Option.Rel R x y) (further : ∀ a b, R a b → Option.Rel S (f a) (g b)) :
    Option.Rel S (x.bind f) (y.bind g) := by
  cases same with
  | some same => exact further _ _ same
  | none => exact .none

theorem rel_foldlM {f : α → ε → Option α} {g : β → ε → Option β}
    (steps : ∀ a b c, R a b → Option.Rel R (f a c) (g b c)) (cs : List ε) {a : α} {b : β}
    (same : R a b) : Option.Rel R (cs.foldlM f a) (cs.foldlM g b) := by
  induction cs generalizing a b with
  | nil => exact .some same
  | cons c cs ih =>
    rw [List.foldlM_cons, List.foldlM_cons]
    exact rel_bind (steps a b c same) fun _ _ => ih

end

/-! ## Brackets -/

/-- Brackets that hold parts of the same depths. -/
structure Bracket.SameShape (b b' : Bracket) : Prop where
  left : Option.Rel (fun left left' => left.2.SameDepth left'.2) b.left b'.left
  items : List.Forall₂ Nested.SameDepth b.items b'.items

namespace Bracket.SameShape

variable {b b' : Bracket}

theorem refl (b : Bracket) : b.SameShape b where
  left := by cases b.left <;> constructor; rfl
  items := List.forall₂_same.mpr fun _ _ => rfl

theorem add (same : b.SameShape b') {set set' : Nested CharSet} (depth : set.SameDepth set') :
    (b.add set).SameShape (b'.add set') where
  left := same.left
  items := .cons depth same.items

theorem combined (same : b.SameShape b') : b.combined.SameDepth b'.combined := by
  have union : b.union.depth = b'.union.depth := Nested.depthBeside_congr same.items
  have left := same.left
  unfold Bracket.combined
  generalize b.left = left, b'.left = left' at *
  cases left with
  | none => exact union
  | some depth => exact congrArg₂ (max · · + 1) depth union

theorem toSet (same : b.SameShape b') : b.toSet.SameDepth b'.toSet :=
  congrArg (· + 1) same.combined

end Bracket.SameShape

/-- Classes that have been read equally far, with parts of the same depths. -/
structure ClassState.SameShape (s s' : ClassState) : Prop where
  innermost : s.innermost.SameShape s'.innermost
  outer : List.Forall₂ Bracket.SameShape s.outer s'.outer
  mode : s.mode = s'.mode

/-- Classes that both go on, with the same shape, or are both complete, at the same depth. -/
abbrev SameClass : ClassState ⊕ Nested CharSet → ClassState ⊕ Nested CharSet → Prop :=
  Sum.LiftRel ClassState.SameShape Nested.SameDepth

namespace ClassState.SameShape

variable {s s' : ClassState} {i i' : Bool} {c : Char}

theorem refl (s : ClassState) : s.SameShape s where
  innermost := .refl _
  outer := List.forall₂_same.mpr fun b _ => .refl b
  mode := rfl

theorem add (same : s.SameShape s') (set set' : CharSet) (mode : BracketMode) :
    (s.add set mode).SameShape (s'.add set' mode) where
  innermost := same.innermost.add rfl
  outer := same.outer
  mode := rfl

theorem operate (same : s.SameShape s') (operator : SetOperator) :
    (s.operate operator).SameShape (s'.operate operator) where
  innermost := ⟨.some same.innermost.combined, .nil⟩
  outer := same.outer
  mode := rfl

theorem nest (same : s.SameShape s') : s.nest.SameShape s'.nest where
  innermost := ⟨.none, .nil⟩
  outer := .cons same.innermost same.outer
  mode := rfl

theorem close (same : s.SameShape s') : SameClass s.close s'.close := by
  have closed := same.innermost.toSet
  have outer := same.outer
  unfold ClassState.close
  generalize s.outer = brackets at outer
  generalize s'.outer = brackets' at outer
  cases outer with
  | nil => exact .inr closed
  | cons parent outer => exact .inl ⟨parent.add closed, outer, rfl⟩

theorem readReady (same : s.SameShape s') : SameClass (s.readReady c) (s'.readReady c) := by
  unfold ClassState.readReady
  split
  case h_2 => exact same.close
  all_goals exact .inl { same with mode := rfl }

theorem addItem (same : s.SameShape s') (item : ClassItem) (mode : BracketMode) :
    (s.addItem i item mode).SameShape (s'.addItem i' item mode) :=
  same.add _ _ mode

theorem readItem (same : s.SameShape s') (item : ClassItem) :
    SameClass (s.readItem i item c) (s'.readItem i' item c) := by
  unfold ClassState.readItem
  split
  · exact .inl { same with mode := rfl }
  · exact (same.addItem item .ready).readReady

theorem readLead (same : s.SameShape s') (fresh : Bool) :
    SameClass (s.readLead fresh c) (s'.readLead fresh c) := by
  unfold ClassState.readLead
  split
  · exact .inl (same.add _ _ _)
  · split
    · exact .inl (same.add _ _ _)
    · exact same.readReady

theorem addRange (same : s.SameShape s') (item : ClassItem) :
    Option.Rel SameShape (s.addRange i item c) (s'.addRange i' item c) := by
  unfold ClassState.addRange
  split
  · split
    · exact .some (same.add _ _ _)
    · exact .none
  · exact .none

theorem readRangeEnd (same : s.SameShape s') (item : ClassItem) :
    Option.Rel SameClass (s.readRangeEnd i item c) (s'.readRangeEnd i' item c) := by
  unfold ClassState.readRangeEnd
  split
  · split
    · exact .some (.inl { same with mode := rfl })
    · exact .none
  · exact rel_map (same.addRange item) fun _ _ => .inl

theorem readDash (same : s.SameShape s') (item : ClassItem) (gap : Gap) :
    Option.Rel SameClass (s.readDash i item gap c) (s'.readDash i' item gap c) := by
  unfold ClassState.readDash
  split
  · exact .some ((same.addItem item .ready).add _ _ _).close
  · split
    · exact .some (.inl ((same.addItem item .ready).operate .diff))
    · exact .some (.inl (same.addItem item _))
  · exact same.readRangeEnd item

theorem endEscape (same : s.SameShape s') (rangeFrom : Option Char) (value : EscapeValue) :
    Option.Rel SameShape (s.endEscape i rangeFrom value) (s'.endEscape i' rangeFrom value) := by
  unfold ClassState.endEscape
  split
  · split
    · exact .some { same with mode := rfl }
    · exact same.addRange _
  · split
    · exact .some { same with mode := rfl }
    · exact .none
  · exact .none

theorem readPlain (same : s.SameShape s') :
    Option.Rel SameClass (s.readPlain i c) (s'.readPlain i' c) := by
  unfold ClassState.readPlain
  rw [← same.mode]
  cases s.mode with
  | start =>
    dsimp only
    split
    · exact .some (.inl ⟨⟨same.innermost.left, same.innermost.items⟩, same.outer, rfl⟩)
    · exact .some (same.readLead true)
  | lead fresh => exact .some (same.readLead fresh)
  | ready => exact .some same.readReady
  | item item => exact .some (same.readItem item)
  | dash item gap => exact same.readDash item gap
  | rangeEnd item => exact same.readRangeEnd item
  | half mark operator =>
    dsimp only
    split
    · exact .some (.inl (same.operate operator))
    · exact .some (same.readItem _)
  | escape e rangeFrom =>
    dsimp only
    cases e.read c with
    | none => exact .none
    | some next =>
      cases next with
      | inl e => exact .some (.inl { same with mode := rfl })
      | inr value => exact rel_map (same.endEscape rangeFrom value) fun _ _ => .inl
  | name read => exact .none

theorem abandonName (same : s.SameShape s') :
    Option.Rel SameShape (s.abandonName i) (s'.abandonName i') := by
  -- the characters of the name are read again, in the nested class that they begin
  have further : ∀ (s s' : ClassState) (c : Char), s.SameShape s' →
      Option.Rel SameShape ((s.readPlain i c).bind (·.getLeft?))
        ((s'.readPlain i' c).bind (·.getLeft?)) := by
    intro s s' c same
    refine rel_bind same.readPlain fun next next' same => ?_
    cases same with
    | inl same => exact .some same
    | inr same => exact .none
  unfold ClassState.abandonName
  rw [← same.mode]
  split
  · exact rel_foldlM further _ same.nest
  · exact .some same

theorem read (same : s.SameShape s') : Option.Rel SameClass (s.read i c) (s'.read i' c) := by
  unfold ClassState.read
  rw [← same.mode]
  split
  · dsimp only
    split
    · exact .some (.inl (same.add _ _ _))
    · split
      · exact .some (.inl { same with mode := rfl })
      · exact rel_bind same.abandonName fun _ _ same => same.readPlain
  · exact same.readPlain

theorem skip (same : s.SameShape s') : Option.Rel SameShape (s.skip i c) (s'.skip i' c) := by
  unfold ClassState.skip
  rw [← same.mode]
  cases at_ : s.mode with
  | dash item gap =>
    refine .some ?_
    unfold ClassState.skipDash
    split
    · split
      · exact same
      · split
        · exact same.addItem item _
        · exact { same with mode := rfl }
    · exact { same with mode := rfl }
  | half mark operator => exact .some { same with mode := rfl }
  | name read => exact same.abandonName
  | escape e rangeFrom =>
    dsimp only
    split
    · exact .some same
    · exact .none
  | _ => exact .some same

end ClassState.SameShape

end Reader

end Gleaner.Regex
