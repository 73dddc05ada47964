import Gleaner.Markup.Node

/-! # How wide a tree is

A bound for all lists of siblings that a run can come to: those that it starts with, and the
visible children of every node among or below them. -/

namespace Gleaner

namespace Node

/-- Whether neither the nodes themselves are more than `most`, nor the visible children of a node
among or below them. -/
def NoWider (most : Nat) (nodes : List Node) : Prop :=
  nodes.length ≤ most ∧ ∀ place ∈ descendantsOf 0 nodes, place.2.children.length ≤ most

mutual

/-- Depths aside, a node has the same nodes below it wherever it stands. -/
theorem descendants_nodes (depth depth' : Nat) :
    (node : Node) → (node.descendants depth).map Prod.snd = (node.descendants depth').map Prod.snd
  | root children | element _ _ children => by
    simp [descendants, descendantsOf_nodes (depth + 1) (depth' + 1) children]
  | text _ | comment _ | doctype _ | instruction _ _ => rfl

theorem descendantsOf_nodes (depth depth' : Nat) :
    (nodes : List Node) →
      (descendantsOf depth nodes).map Prod.snd = (descendantsOf depth' nodes).map Prod.snd
  | [] => rfl
  | node :: rest => by
    simp [descendantsOf, descendants_nodes depth depth' node, descendantsOf_nodes depth depth' rest]

end

theorem mem_descendantsOf {depth : Nat} {place : Nat × Node} {nodes : List Node} :
    place ∈ descendantsOf depth nodes ↔ ∃ node ∈ nodes, place ∈ node.descendants depth := by
  induction nodes with
  | nil => simp [descendantsOf]
  | cons node rest ih => simp [descendantsOf, ih]

theorem self_mem_descendants (depth : Nat) (node : Node) :
    (depth, node) ∈ node.descendants depth := by
  cases node <;> simp [descendants]

/-- What is below the visible children of a node is below the node. -/
theorem mem_descendants_of_children {depth : Nat} {node below : Node}
    (member : below ∈ (descendantsOf 0 node.children).map Prod.snd) :
    below ∈ (node.descendants depth).map Prod.snd := by
  have all : below ∈ (descendantsOf (depth + 1) node.allChildren).map Prod.snd := by
    rw [descendantsOf_nodes (depth + 1) 0]
    obtain ⟨place, there, rfl⟩ := List.mem_map.mp member
    obtain ⟨child, visible, inside⟩ := mem_descendantsOf.mp there
    exact List.mem_map_of_mem
      (mem_descendantsOf.mpr ⟨child, (List.mem_filter.mp visible).1, inside⟩)
  cases node with
  | root children | element _ _ children =>
    rw [descendants, List.map_cons]
    exact List.mem_cons_of_mem _ all
  | _ => simp [allChildren, descendantsOf] at all

namespace NoWider

variable {most : Nat} {nodes : List Node}

/-- Going down to the children of a node, a run comes to no longer list of siblings. -/
theorem children (bounded : NoWider most nodes) {node : Node} (member : node ∈ nodes) :
    NoWider most node.children := by
  have within : ∀ below ∈ (node.descendants 0).map Prod.snd, below.children.length ≤ most := by
    intro below inside
    obtain ⟨place, there, rfl⟩ := List.mem_map.mp inside
    exact bounded.2 place (mem_descendantsOf.mpr ⟨node, member, there⟩)
  refine ⟨within node (List.mem_map_of_mem (self_mem_descendants 0 node)), ?_⟩
  intro place inside
  exact within place.2 (mem_descendants_of_children (List.mem_map_of_mem inside))

/-- Every list of nodes has a bound. -/
theorem exists_of_finite (nodes : List Node) : ∃ most, NoWider most nodes := by
  have bound : ∀ places : List (Nat × Node),
      ∃ most, ∀ place ∈ places, place.2.children.length ≤ most := by
    intro places
    induction places with
    | nil => exact ⟨0, by simp⟩
    | cons first rest ih =>
      obtain ⟨most, le⟩ := ih
      refine ⟨max first.2.children.length most, List.forall_mem_cons.mpr ⟨Nat.le_max_left .., ?_⟩⟩
      exact fun place member => Nat.le_trans (le place member) (Nat.le_max_right ..)
  obtain ⟨most, le⟩ := bound (descendantsOf 0 nodes)
  refine ⟨max nodes.length most, Nat.le_max_left .., ?_⟩
  exact fun place member => Nat.le_trans (le place member) (Nat.le_max_right ..)

end NoWider

end Node

end Gleaner
