import Gleaner.ElementSpec

/-! # Positions among siblings

A frame is a list of siblings with a cursor in it. Siblings before the cursor are used up. The
node that was found last is kept, since a nest goes down into it; a search in vain forgets it
and leaves the cursor where it was. -/

namespace Gleaner

/-- The first node that meets a test, with its position; that of the first node of all is
given. -/
def findFrom (test : Node → Bool) (position : Nat) : List Node → Option (Node × Nat)
  | [] => none
  | node :: rest => if test node then some (node, position) else findFrom test (position + 1) rest

theorem findFrom_eq_find?_zipIdx (test : Node → Bool) (position : Nat) (nodes : List Node) :
    findFrom test position nodes = (nodes.zipIdx position).find? (test ·.1) := by
  induction nodes generalizing position with
  | nil => rfl
  | cons node rest ih =>
    cases met : test node <;> simp [findFrom, List.zipIdx_cons, met, ih]

/-- A cursor in a list of siblings. -/
structure Frame where
  siblings : List Node
  /-- How many siblings are used up. -/
  index : Nat
  /-- The node that was found last. -/
  matched : Option Node

namespace Frame

/-- The frame of siblings of which none is used up. -/
def start (siblings : List Node) : Frame := ⟨siblings, 0, none⟩

/-- The next sibling. -/
def next? (f : Frame) : Option Node := f.siblings[f.index]?

/-- Whether there is a next sibling that meets a predicate. -/
def nextMeets (f : Frame) (predicate : List Matchable) : Bool :=
  f.next?.any (Matchable.allAccept predicate)

/-- The siblings that are not used up, each with its position. -/
def rest (f : Frame) : List (Node × Nat) := (f.siblings.drop f.index).zipIdx f.index

/-- How many siblings are not used up. -/
def remaining (f : Frame) : Nat := f.siblings.length - f.index

/-- The next sibling that meets a spec, with its position. -/
def find? {γ : Type} (f : Frame) (spec : ElementSpec γ) : Option (Node × Nat) :=
  findFrom spec.accepts f.index (f.siblings.drop f.index)

/-- The frame after a node was found. -/
def found (f : Frame) (node : Node) (position : Nat) : Frame :=
  { f with index := position + 1, matched := some node }

/-- The frame after a search in vain. -/
def missed (f : Frame) : Frame := { f with matched := none }

/-- The frame of the visible children of the node that was found last. -/
def below (f : Frame) : Frame := start ((f.matched.map Node.children).getD [])

end Frame

end Gleaner
