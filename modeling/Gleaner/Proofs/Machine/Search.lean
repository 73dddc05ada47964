import Gleaner.Machine.Traversal
import Mathlib.Data.List.Basic

/-! # Searches for a counterpart

Where the search for a marker leads, forward and backward: always to an instruction that meets
the test, past nothing nearer that meets it, and never out of the program. -/

namespace Gleaner

variable {α β : Type}

theorem lastIndex?_map (f : α → β) (test : β → Bool) (l : List α) :
    lastIndex? test (l.map f) = lastIndex? (test ∘ f) l := by
  induction l with
  | nil => rfl
  | cons x l ih => simp only [List.map_cons, lastIndex?, ih, Function.comp_apply]

theorem lastIndex?_append (test : α → Bool) (front back : List α) :
    lastIndex? test (front ++ back) =
      ((lastIndex? test back).map (front.length + ·)).or (lastIndex? test front) := by
  induction front with
  | nil => cases last : lastIndex? test back <;> simp [lastIndex?, last]
  | cons x front ih =>
    simp only [List.cons_append, lastIndex?, ih]
    cases lastIndex? test back with
    | none => rfl
    | some i => simp [Nat.add_right_comm]

theorem lastIndex?_eq_none {test : α → Bool} {l : List α} (absent : ∀ x ∈ l, test x = false) :
    lastIndex? test l = none := by
  induction l with
  | nil => rfl
  | cons x l ih =>
    rw [List.forall_mem_cons] at absent
    simp [lastIndex?, ih absent.2, absent.1]

theorem lastIndex?_eq_some {test : α → Bool} {l : List α} {i : Nat}
    (found : lastIndex? test l = some i) : ∃ x, l[i]? = some x ∧ test x = true := by
  induction l generalizing i with
  | nil => simp [lastIndex?] at found
  | cons x l ih =>
    simp only [lastIndex?] at found
    cases later : lastIndex? test l with
    | some j =>
      rw [later] at found
      obtain rfl : j + 1 = i := by simpa using found
      simpa using ih later
    | none =>
      rw [later] at found
      by_cases met : test x
      · obtain rfl : i = 0 := by simpa [met, eq_comm] using found
        exact ⟨x, rfl, met⟩
      · simp [met] at found

/-- The last member that meets a test does not stand before any other that does. -/
theorem exists_lastIndex? {test : α → Bool} {l : List α} {i : Nat} {x : α}
    (there : l[i]? = some x) (met : test x = true) :
    ∃ j, lastIndex? test l = some j ∧ i ≤ j := by
  induction l generalizing i with
  | nil => simp at there
  | cons y l ih =>
    simp only [lastIndex?]
    cases i with
    | zero =>
      obtain rfl : y = x := by simpa using there
      cases lastIndex? test l <;> simp [met]
    | succ i =>
      obtain ⟨j, last, le⟩ := ih (by simpa using there)
      exact ⟨j + 1, by simp [last], by omega⟩

theorem findIdx?_append_cons {test : α → Bool} {inside rest : List α} {x : α}
    (absent : ∀ y ∈ inside, test y = false) (met : test x = true) :
    (inside ++ x :: rest).findIdx? test = some inside.length := by
  induction inside with
  | nil => simp [List.findIdx?_cons, met]
  | cons y inside ih =>
    rw [List.forall_mem_cons] at absent
    simp [List.findIdx?_cons, absent.1, ih absent.2]

namespace Command

variable {γ δ : Type}

/-- Where instructions are replaced one by one, a search leads to the same place if its test
does not tell them apart. -/
theorem findForward_map {f : Command γ → Command δ} {test : Command γ → Bool}
    {test' : Command δ → Bool} (same : ∀ command, test' (f command) = test command)
    (commands : List (Command γ)) (start : Nat) :
    findForward (commands.map f) start test' = findForward commands start test := by
  have blind : test' ∘ f = test := funext same
  rw [findForward, ← List.map_drop, List.findIdx?_map, blind, findForward]

theorem findBackward_map {f : Command γ → Command δ} {test : Command γ → Bool}
    {test' : Command δ → Bool} (same : ∀ command, test' (f command) = test command)
    (commands : List (Command γ)) (stop : Nat) :
    findBackward (commands.map f) stop test' = findBackward commands stop test := by
  have blind : test' ∘ f = test := funext same
  rw [findBackward, ← List.map_take, lastIndex?_map, blind, findBackward]

theorem findForward_bounds {commands : List (Command γ)} {start target : Nat}
    {test : Command γ → Bool} (found : findForward commands start test = some target) :
    start ≤ target ∧ ∃ command, commands[target]? = some command ∧ test command = true := by
  obtain ⟨offset, at_offset, rfl⟩ := Option.map_eq_some_iff.mp found
  obtain ⟨inside, met, -⟩ := List.findIdx?_eq_some_iff_getElem.mp at_offset
  refine ⟨Nat.le_add_right .., _, ?_, met⟩
  rw [List.getElem_drop]
  exact List.getElem?_eq_getElem _

theorem findForward_lt {commands : List (Command γ)} {start target : Nat}
    {test : Command γ → Bool} (found : findForward commands start test = some target) :
    target < commands.length := by
  obtain ⟨-, command, there, -⟩ := findForward_bounds found
  exact (List.getElem?_eq_some_iff.mp there).1

theorem findBackward_bounds {commands : List (Command γ)} {stop target : Nat}
    {test : Command γ → Bool} (found : findBackward commands stop test = some target) :
    target < stop ∧ ∃ command, commands[target]? = some command ∧ test command = true := by
  obtain ⟨command, there, met⟩ := lastIndex?_eq_some found
  have before : target < stop := by
    have := (List.getElem?_eq_some_iff.mp there).1
    rw [List.length_take] at this
    omega
  rw [List.getElem?_take_of_lt before] at there
  exact ⟨before, command, there, met⟩

/-- The backward search finds an instruction wherever there is one, and none before that. -/
theorem exists_findBackward {commands : List (Command γ)} {place stop : Nat}
    {test : Command γ → Bool} {command : Command γ} (there : commands[place]? = some command)
    (met : test command = true) (before : place < stop) :
    ∃ target, findBackward commands stop test = some target ∧ place ≤ target :=
  exists_lastIndex? (by rwa [List.getElem?_take_of_lt before]) met

/-- Where a program is split, there is the instruction. -/
theorem getElem?_of_split {commands : List (Command γ)} {command : Command γ}
    (front back : List (Command γ)) (split : commands = front ++ command :: back) {pc : Nat}
    (stands : front.length = pc) : commands[pc]? = some command := by
  subst stands split
  simp

/-- The forward search from the start of a block finds the marker behind the block, if the test
holds nowhere inside. -/
theorem findForward_block {commands inside : List (Command γ)} {test : Command γ → Bool}
    (before command : Command γ) (absent : ∀ c ∈ inside, test c = false)
    (met : test command = true) (front rest : List (Command γ))
    (split : commands = front ++ before :: (inside ++ command :: rest)) {pc : Nat}
    (stands : front.length = pc) :
    findForward commands (pc + 1) test = some (pc + 1 + inside.length) := by
  subst stands split
  have dropped : (front ++ before :: (inside ++ command :: rest)).drop (front.length + 1) =
      inside ++ command :: rest := by
    rw [← List.drop_drop, List.drop_left]
    rfl
  rw [findForward, dropped, findIdx?_append_cons absent met]
  rfl

/-- The backward search from the end of a block finds the marker before the block, if the test
holds nowhere inside. -/
theorem findBackward_block {commands inside : List (Command γ)} {test : Command γ → Bool}
    {command : Command γ} (absent : ∀ c ∈ inside, test c = false) (met : test command = true)
    (front rest : List (Command γ)) (split : commands = front ++ command :: (inside ++ rest)) :
    findBackward commands (front.length + 1 + inside.length) test = some front.length := by
  have taken : commands.take (front.length + 1 + inside.length) =
      front ++ command :: inside := by
    rw [split, ← List.cons_append, ← List.append_assoc]
    exact List.take_left' (by simp; omega)
  rw [findBackward, taken, lastIndex?_append, lastIndex?, lastIndex?_eq_none absent]
  simp [met]

end Command

end Gleaner
