import Gleaner.ElementSpec

/-! # The visible skeleton of a tree

A tree without all that programs do not see, at any depth. It has the same visible children as the
tree, each again without what is not seen; and what is asked of a node is answered by its skeleton
in the same way, but for its markup and what conditions of the user's own ask. -/

namespace Gleaner

namespace Node

/-- Whether a node is one that programs do not see: a comment, a doctype, a processing instruction
or blank text. -/
def isUnseen : Node → Bool
  | text content => Text.isBlank content
  | comment _ | doctype _ | instruction _ _ => true
  | root _ | element _ _ _ => false

mutual

/-- A node without the unseen nodes below it. -/
def skeleton : Node → Node
  | root children => root (skeletonOf children)
  | element name attributes children => element name attributes (skeletonOf children)
  | node => node

/-- Nodes without the unseen ones among and below them. -/
def skeletonOf : List Node → List Node
  | [] => []
  | node :: rest => if node.isUnseen then skeletonOf rest else node.skeleton :: skeletonOf rest

end

theorem isUnseen_of_isVisible {node : Node} (visible : node.isVisible = true) :
    node.isUnseen = false := by
  cases node <;> simp_all [isVisible, isUnseen, isElement, isText, isBlank]

section

variable (node : Node)

@[simp] theorem tagName?_skeleton : node.skeleton.tagName? = node.tagName? := by
  cases node <;> simp only [skeleton, tagName?]

@[simp] theorem text?_skeleton : node.skeleton.text? = node.text? := by
  cases node <;> simp only [skeleton, text?]

@[simp] theorem attributes_skeleton : node.skeleton.attributes = node.attributes := by
  cases node <;> simp only [skeleton, attributes]

@[simp] theorem isElement_skeleton : node.skeleton.isElement = node.isElement := by
  cases node <;> simp only [skeleton, isElement]

@[simp] theorem isVisible_skeleton : node.skeleton.isVisible = node.isVisible := by
  cases node <;> simp only [skeleton, isVisible, isElement, isText, isBlank]

@[simp] theorem attribute?_skeleton (name : String) :
    node.skeleton.attribute? name = node.attribute? name := by
  simp only [attribute?, attributes_skeleton]

@[simp] theorem hasAttributes_skeleton : node.skeleton.hasAttributes = node.hasAttributes := by
  simp only [hasAttributes, attributes_skeleton]

@[simp] theorem firstAttribute?_skeleton (keys : List String) :
    node.skeleton.firstAttribute? keys = node.firstAttribute? keys := by
  simp only [firstAttribute?, attribute?_skeleton]

end

/-- What is visible of a skeleton is the skeleton of what is visible. -/
theorem filter_isVisible_skeletonOf (nodes : List Node) :
    (skeletonOf nodes).filter isVisible = (nodes.filter isVisible).map skeleton := by
  induction nodes with
  | nil => simp only [skeletonOf, List.filter_nil, List.map_nil]
  | cons node rest ih =>
    simp only [skeletonOf]
    cases visible : node.isVisible with
    | true =>
      have seen : ¬node.isUnseen = true := by simp [isUnseen_of_isVisible visible]
      rw [if_neg seen, List.filter_cons_of_pos (by simpa using visible),
        List.filter_cons_of_pos (by simpa using visible), List.map_cons, ih]
    | false =>
      rw [List.filter_cons_of_neg (a := node) (by simp [visible])]
      split
      · exact ih
      · rw [List.filter_cons_of_neg (by simp [visible]), ih]

@[simp] theorem children_skeleton (node : Node) :
    node.skeleton.children = node.children.map skeleton := by
  cases node with
  | root children | element _ _ children =>
    simp only [skeleton, Node.children, allChildren]
    exact filter_isVisible_skeletonOf children
  | _ => simp only [skeleton, Node.children, allChildren, List.filter_nil, List.map_nil]

/-- Whether a node has text of its own, and which, does not depend on what is not seen. -/
theorem ownText_skeleton (node : Node) : node.skeleton.ownText = node.ownText := by
  simp only [ownText, text?_skeleton, tagName?_skeleton, children_skeleton]
  cases node.text? with
  | some content => rfl
  | none =>
    match node.children with
    | [] => rfl
    | [child] => simp only [List.map_cons, List.map_nil, text?_skeleton, tagName?_skeleton]
    | _ :: _ :: _ => simp only [List.map_cons, List.length_cons, List.length_map]

end Node

namespace Extraction

/-- All values but markup are read from a skeleton as from the node. -/
theorem apply_skeleton {extraction : Extraction} (seen : extraction ≠ .html) (node : Node)
    (values : Values) : apply node.skeleton values extraction = apply node values extraction := by
  cases extraction with
  | attr key => simp only [apply, Node.attribute?_skeleton]
  | anyAttr keys => simp only [apply, Node.firstAttribute?_skeleton]
  | text => simp only [apply, Node.ownText?, Node.ownText_skeleton]
  | html => exact absurd rfl seen

theorem valuesOf_skeleton {extractions : List Extraction} (seen : ∀ e ∈ extractions, e ≠ .html)
    (node : Node) : valuesOf node.skeleton extractions = valuesOf node extractions := by
  unfold valuesOf
  generalize Values.empty = values
  induction extractions generalizing values with
  | nil => rfl
  | cons extraction rest ih =>
    obtain ⟨first, later⟩ := List.forall_mem_cons.mp seen
    rw [List.foldl_cons, List.foldl_cons, apply_skeleton first]
    exact ih later _

end Extraction

namespace Matchable

/-- Whether a condition is one of the user's own. -/
def isCustom : Matchable → Bool
  | tag (.custom _) => true
  | _ => false

theorem accepts_skeleton {matchable : Matchable} (given : matchable.isCustom = false)
    (node : Node) : matchable.accepts node.skeleton = matchable.accepts node := by
  cases matchable with
  | any => rfl
  | attr key pattern => simp only [accepts, Node.attribute?_skeleton]
  | tag matcher =>
    cases matcher with
    | custom predicate => simp [isCustom] at given
    | _ =>
      simp only [accepts, TagMatcher.accepts, Node.isElement_skeleton, Node.hasAttributes_skeleton,
        Node.attribute?_skeleton]

theorem allAccept_skeleton {matchables : List Matchable}
    (given : ∀ matchable ∈ matchables, matchable.isCustom = false) (node : Node) :
    allAccept matchables node.skeleton = allAccept matchables node := by
  induction matchables with
  | nil => rfl
  | cons matchable rest ih =>
    obtain ⟨first, later⟩ := List.forall_mem_cons.mp given
    have behind := ih later
    simp only [allAccept] at behind
    simp only [allAccept, List.all_cons, accepts_skeleton first, behind]

end Matchable

namespace ElementSpec

variable {γ : Type}

/-- Whether a spec keeps to what is visible: it has no conditions of the user's own, asks for no
markup, and with the values that it reads needs no more of a node than name and attributes. -/
structure VisibleOnly (spec : ElementSpec γ) : Prop where
  matchables : ∀ matchable ∈ spec.matchables, matchable.isCustom = false
  extractions : ∀ extraction ∈ spec.extractions, extraction ≠ .html
  onMatch : ∀ onMatch ∈ spec.onMatch, ∀ node node' : Node, node'.tagName? = node.tagName? →
    node'.attributes = node.attributes → ∀ values, onMatch node' values = onMatch node values

variable {spec : ElementSpec γ}

theorem VisibleOnly.accepts_skeleton (keeps : spec.VisibleOnly) (node : Node) :
    spec.accepts node.skeleton = spec.accepts node := by
  simp only [accepts, Node.tagName?_skeleton, Matchable.allAccept_skeleton keeps.matchables]

theorem VisibleOnly.collect_skeleton (keeps : spec.VisibleOnly) (node : Node) (collector : γ) :
    spec.collect node.skeleton collector = spec.collect node collector := by
  unfold collect
  cases given : spec.onMatch with
  | none => rfl
  | some onMatch =>
    have same := keeps.onMatch onMatch given node node.skeleton
      (Node.tagName?_skeleton node) (Node.attributes_skeleton node)
    simp only [Extraction.valuesOf_skeleton keeps.extractions, same]

end ElementSpec

end Gleaner
