import Gleaner.Regex.CharSet
import Gleaner.Regex.PositionSet

/-! # Where characters stand

An index lists each character of a text once, with the positions before its occurrences. To find
the members of a set in a long text, only its different characters have to be looked at. -/

namespace Gleaner.Regex

/-- Characters, each with the positions before its occurrences. -/
abbrev CharIndex := List (Char × PositionSet)

namespace CharIndex

/-- Adds an occurrence of a character. -/
def insert (c : Char) (position : Nat) : CharIndex → CharIndex
  | [] => [(c, .single position)]
  | (d, positions) :: rest =>
    if d = c then (d, positions.union (.single position)) :: rest
    else (d, positions) :: insert c position rest

/-- The index of a text that begins at the given position. -/
def ofTextAt (position : Nat) : List Char → CharIndex
  | [] => []
  | c :: rest => insert c position (ofTextAt (position + 1) rest)

/-- The index of a text. -/
def ofText (text : List Char) : CharIndex := ofTextAt 0 text

/-- The positions before the members of a set. -/
def positions (set : CharSet) : CharIndex → PositionSet
  | [] => .empty
  | (c, positions) :: rest =>
    if set.contains c then positions.union (CharIndex.positions set rest)
    else CharIndex.positions set rest

theorem contains_positions_insert (set : CharSet) (c : Char) (added : Nat) (index : CharIndex)
    (position : Nat) :
    ((index.insert c added).positions set).contains position =
      (set.contains c && decide (added = position) ||
        (index.positions set).contains position) := by
  induction index with
  | nil =>
    cases member : set.contains c <;>
      simp [insert, positions, member, PositionSet.contains_union, PositionSet.contains_single,
        PositionSet.contains_empty]
  | cons entry rest ih =>
    obtain ⟨d, known⟩ := entry
    by_cases same : d = c
    · subst same
      cases member : set.contains d <;>
        simp [insert, positions, member, PositionSet.contains_union,
          PositionSet.contains_single, Bool.or_assoc, Bool.or_left_comm]
    · cases member : set.contains d <;>
        simp [insert, positions, same, member, ih, PositionSet.contains_union,
          Bool.or_left_comm]

theorem contains_positions_ofTextAt (set : CharSet) (text : List Char) (start position : Nat) :
    ((ofTextAt start text).positions set).contains position =
      (decide (start ≤ position) && text[position - start]?.any set.contains) := by
  induction text generalizing start with
  | nil => simp [ofTextAt, positions, PositionSet.contains_empty]
  | cons c rest ih =>
    rw [ofTextAt, contains_positions_insert, ih]
    rcases Nat.lt_trichotomy position start with before | here | after
    · simp [show ¬ start ≤ position by omega, show ¬ start + 1 ≤ position by omega,
        show ¬ start = position by omega]
    · simp [here, show ¬ start + 1 ≤ start by omega]
    · have split : position - start = position - (start + 1) + 1 := by omega
      simp [show start ≤ position by omega, show start + 1 ≤ position by omega,
        show ¬ start = position by omega, split]

/-- The index finds the positions before the members of a set, and no others. -/
theorem contains_positions_ofText (set : CharSet) (text : List Char) (position : Nat) :
    ((ofText text).positions set).contains position = text[position]?.any set.contains := by
  simp [ofText, contains_positions_ofTextAt]

end CharIndex

end Gleaner.Regex
