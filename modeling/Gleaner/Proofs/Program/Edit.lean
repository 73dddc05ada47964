import Gleaner.Proofs.Machine.Search

/-! # Programs that differ in diagnostics

Breakpoints and the names of scopes are there for reports alone. A list of edits is a program
together with another one, in which some breakpoints are gone and some scopes have other names.
Instructions move up where a breakpoint before them is gone; the searches for counterparts lead
to the same instructions in both, wherever these stand. -/

namespace Gleaner

/-- What becomes of an instruction. -/
inductive Edit (γ : Type) where
  | keep (command : Command γ)
  /-- A scope gets another name. -/
  | rename (old new : Option String)
  /-- A breakpoint is left out. -/
  | drop

namespace Edit

variable {γ : Type}

/-- The instruction at first. -/
def before : Edit γ → Command γ
  | keep command => command
  | rename old _ => .push old
  | drop => .breakpoint

/-- The instruction in the end, if it is still there. -/
def after? : Edit γ → Option (Command γ)
  | keep command => some command
  | rename _ new => some (.push new)
  | drop => none

/-- Where the instruction at a position comes to stand. -/
def place (edits : List (Edit γ)) (pc : Nat) : Nat := ((edits.take pc).filterMap after?).length

variable {edits : List (Edit γ)} {edit : Edit γ} {command : Command γ} {pc : Nat}

theorem place_zero (edits : List (Edit γ)) : place edits 0 = 0 := rfl

theorem place_cons (edit : Edit γ) (edits : List (Edit γ)) (pc : Nat) :
    place (edit :: edits) (pc + 1) = place edits pc + edit.after?.toList.length := by
  simp only [place, List.take_succ_cons, List.filterMap_cons]
  cases edit.after? <;> rfl

theorem place_add (edits : List (Edit γ)) (m n : Nat) :
    place edits (m + n) = place edits m + place (edits.drop m) n := by
  simp only [place, List.take_add, List.filterMap_append, List.length_append]

theorem place_succ (there : edits[pc]? = some edit) :
    place edits (pc + 1) = place edits pc + edit.after?.toList.length := by
  have rest : edits.drop pc = edit :: edits.drop (pc + 1) := by
    obtain ⟨inside, rfl⟩ := List.getElem?_eq_some_iff.mp there
    exact List.drop_eq_getElem_cons inside
  rw [place_add, rest, place_cons, place_zero, Nat.zero_add]

/-- What is left of a program is what is left of it up to a position and from there on. -/
theorem filterMap_split (edits : List (Edit γ)) (pc : Nat) :
    edits.filterMap after? =
      (edits.take pc).filterMap after? ++ (edits.drop pc).filterMap after? := by
  rw [← List.filterMap_append, List.take_append_drop]

theorem take_place (edits : List (Edit γ)) (pc : Nat) :
    (edits.filterMap after?).take (place edits pc) = (edits.take pc).filterMap after? := by
  rw [filterMap_split edits pc]
  exact List.take_left

theorem drop_place (edits : List (Edit γ)) (pc : Nat) :
    (edits.filterMap after?).drop (place edits pc) = (edits.drop pc).filterMap after? := by
  rw [filterMap_split edits pc]
  exact List.drop_left

theorem getElem?_place (there : edits[pc]? = some edit) (stays : edit.after? = some command) :
    (edits.filterMap after?)[place edits pc]? = some command := by
  obtain ⟨inside, rfl⟩ := List.getElem?_eq_some_iff.mp there
  rw [← List.head?_drop, drop_place, List.drop_eq_getElem_cons inside,
    List.filterMap_cons_some stays, List.head?_cons]

theorem getElem?_place_of_behind (behind : edits[pc]? = none) :
    (edits.filterMap after?)[place edits pc]? = none := by
  have nothing : edits.drop pc = [] := List.drop_eq_nil_of_le (List.getElem?_eq_none_iff.mp behind)
  rw [← List.head?_drop, drop_place, nothing, List.filterMap_nil, List.head?_nil]

/-! ## Searches -/

/-- Whether a test does not depend on the name of a scope and is not met by a breakpoint. -/
def Blind (test : Command γ → Bool) : Prop :=
  ∀ edit : Edit γ, edit.after?.any test = test edit.before

theorem blind_isEndLoop (id : Nat) : Blind (Command.isEndLoop id : Command γ → Bool) := by
  intro edit
  cases edit <;> rfl

theorem blind_isBeginLoop (id : Nat) : Blind (Command.isBeginLoop id : Command γ → Bool) := by
  intro edit
  cases edit <;> rfl

theorem blind_isEndCondition (id : Nat) : Blind (Command.isEndCondition id : Command γ → Bool) := by
  intro edit
  cases edit <;> rfl

theorem blind_isBranchEnd (id : Nat) : Blind (Command.isBranchEnd id : Command γ → Bool) := by
  intro edit
  cases edit <;> rfl

variable {test : Command γ → Bool}

theorem findIdx?_after (blind : Blind test) (edits : List (Edit γ)) :
    (edits.filterMap after?).findIdx? test =
      ((edits.map before).findIdx? test).map (place edits) := by
  induction edits with
  | nil => rfl
  | cons edit edits ih =>
    have seen := blind edit
    cases stays : edit.after? with
    | none =>
      rw [stays, Option.any_none] at seen
      have moved : place (edit :: edits) ∘ (· + 1) = place edits := by
        funext pc
        simp [place_cons, stays]
      rw [List.filterMap_cons_none stays, ih, List.map_cons, List.findIdx?_cons, ← seen,
        if_neg Bool.false_ne_true, Option.map_map, moved]
    | some command =>
      rw [stays, Option.any_some] at seen
      rw [List.filterMap_cons_some stays, List.findIdx?_cons, List.map_cons, List.findIdx?_cons,
        seen]
      cases test edit.before with
      | true => rfl
      | false =>
        have moved : place (edit :: edits) ∘ (· + 1) = (· + 1) ∘ place edits := by
          funext pc
          simp [place_cons, stays]
        rw [if_neg Bool.false_ne_true, if_neg Bool.false_ne_true, ih, Option.map_map,
          Option.map_map, moved]

theorem lastIndex?_after (blind : Blind test) (edits : List (Edit γ)) :
    lastIndex? test (edits.filterMap after?) =
      (lastIndex? test (edits.map before)).map (place edits) := by
  induction edits with
  | nil => rfl
  | cons edit edits ih =>
    have seen := blind edit
    cases stays : edit.after? with
    | none =>
      rw [stays, Option.any_none] at seen
      rw [List.filterMap_cons_none stays, ih, List.map_cons, lastIndex?, ← seen]
      cases lastIndex? test (edits.map before) with
      | none => rfl
      | some i => simp [place_cons, stays]
    | some command =>
      rw [stays, Option.any_some] at seen
      rw [List.filterMap_cons_some stays, lastIndex?, ih, List.map_cons, lastIndex?, seen]
      cases lastIndex? test (edits.map before) with
      | none => cases test edit.before <;> rfl
      | some i => simp [place_cons, stays]

theorem findForward_after (blind : Blind test) (edits : List (Edit γ)) (start : Nat) :
    Command.findForward (edits.filterMap after?) (place edits start) test =
      (Command.findForward (edits.map before) start test).map (place edits) := by
  have moved : place edits ∘ (start + ·) =
      (place edits start + ·) ∘ place (edits.drop start) := by
    funext pc
    exact place_add edits start pc
  rw [Command.findForward, drop_place, findIdx?_after blind, Option.map_map,
    Command.findForward, ← List.map_drop, Option.map_map, moved]

theorem findBackward_after (blind : Blind test) (edits : List (Edit γ)) (stop : Nat) :
    Command.findBackward (edits.filterMap after?) (place edits stop) test =
      (Command.findBackward (edits.map before) stop test).map (place edits) := by
  rw [Command.findBackward, take_place, lastIndex?_after blind, List.map_take]
  refine Option.map_congr fun target found => ?_
  have within : target < stop := (Command.findBackward_bounds found).1
  rw [place, place, List.take_take, Nat.min_eq_left (Nat.le_of_lt within)]

/-- What a search finds is not left out. -/
theorem place_succ_of_met (blind : Blind test) {target : Nat}
    (found : ∃ command, (edits.map before)[target]? = some command ∧ test command = true) :
    place edits (target + 1) = place edits target + 1 := by
  obtain ⟨command, there, met⟩ := found
  rw [List.getElem?_map] at there
  obtain ⟨edit, edited, rfl⟩ := Option.map_eq_some_iff.mp there
  have seen := blind edit
  rw [met] at seen
  obtain ⟨command, stays, -⟩ := (Option.any_eq_true _ _).mp seen
  rw [place_succ edited, stays]
  rfl

end Edit

end Gleaner
