/-! # Sets of positions

A position of a text is the number of characters before it. A set of positions is a number whose
binary digits tell which positions belong to it, so what is done to all positions of a text at
once is arithmetic on that number. -/

namespace Gleaner.Regex

/-- A finite set of positions. -/
structure PositionSet where
  /-- The number that has the digit one at each member, and nowhere else. -/
  bits : Nat
deriving DecidableEq

namespace PositionSet

/-- Whether a position belongs to a set. -/
def contains (s : PositionSet) (position : Nat) : Bool := s.bits.testBit position

/-- The set of no position. -/
def empty : PositionSet := ⟨0⟩

/-- The set of one position. -/
def single (position : Nat) : PositionSet := ⟨1 <<< position⟩

/-- All positions of a text of the given length. -/
def all (length : Nat) : PositionSet := ⟨(1 <<< (length + 1)) - 1⟩

/-- The set that holds position 0 as given, and of all later ones those that follow a member. -/
def cons (first : Bool) (s : PositionSet) : PositionSet := ⟨2 * s.bits + first.toNat⟩

/-- The positions of either set. -/
def union (s t : PositionSet) : PositionSet := ⟨s.bits ||| t.bits⟩

/-- The positions of both sets. -/
def inter (s t : PositionSet) : PositionSet := ⟨s.bits &&& t.bits⟩

/-- The positions that follow a member. -/
def next (s : PositionSet) : PositionSet := s.cons false

theorem contains_empty (position : Nat) : empty.contains position = false := by
  simp [contains, empty]

theorem contains_single (member position : Nat) :
    (single member).contains position = decide (member = position) := by
  simp [contains, single, Nat.shiftLeft_eq, Nat.testBit_two_pow]

theorem contains_cons_zero (first : Bool) (s : PositionSet) :
    (s.cons first).contains 0 = first := by
  cases first <;> simp [contains, cons, Nat.testBit_zero]

theorem contains_cons_succ (first : Bool) (s : PositionSet) (position : Nat) :
    (s.cons first).contains (position + 1) = s.contains position := by
  have half : (2 * s.bits + first.toNat) / 2 = s.bits := by
    have := first.toNat_lt
    omega
  simp [contains, cons, Nat.testBit_succ, half]

theorem contains_union (s t : PositionSet) (position : Nat) :
    (s.union t).contains position = (s.contains position || t.contains position) :=
  Nat.testBit_or s.bits t.bits position

theorem contains_inter (s t : PositionSet) (position : Nat) :
    (s.inter t).contains position = (s.contains position && t.contains position) :=
  Nat.testBit_and s.bits t.bits position

theorem contains_all (length position : Nat) :
    (all length).contains position = decide (position ≤ length) := by
  rw [contains, all, Nat.shiftLeft_eq, Nat.one_mul, Nat.testBit_two_pow_sub_one]
  exact decide_eq_decide.2 Nat.lt_succ_iff

end PositionSet

end Gleaner.Regex
