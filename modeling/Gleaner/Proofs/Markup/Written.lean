import Gleaner.Extraction
import Gleaner.Proofs.Markup.Rules

/-! # Children by themselves and in place

The markup of the children of an element is put together from each child by itself, while the
serialization of the element writes each child in its place. The two can differ, for what is raw
and what has no tags depends on the place: they agree exactly if no text with something to escape is
in an element whose text is raw, and no element in one that has no content. So it is with every
serializer that keeps the rules for markup. -/

namespace Gleaner

namespace Markup

/-- Whether there is nothing to escape in a text. -/
def IsPlain (content : String) : Prop :=
  ∀ c ∈ content.toList, c ∉ ['&', '<', '>', '\u00a0']

/-! ## The room that escapes take up -/

theorem length_escapeChar_pos (c : Char) : 1 ≤ (escapeChar c).length := by
  unfold escapeChar
  repeat' split
  all_goals simp

/-- A character that is escaped takes up more room. -/
theorem plain_of_length_escapeChar {c : Char} (short : (escapeChar c).length ≤ 1) :
    c ∉ ['&', '<', '>', '\u00a0'] := by
  intro special
  simp only [List.mem_cons, List.not_mem_nil, or_false] at special
  rcases special with rfl | rfl | rfl | rfl <;> simp [escapeChar] at short

theorem length_escapeText (content : String) :
    content.length ≤ (escapeText content).length := by
  rw [escapeText, String.length_ofList, ← String.length_toList]
  induction content.toList with
  | nil => simp
  | cons c rest ih =>
    have first := length_escapeChar_pos c
    rw [List.flatMap_cons, List.length_append, List.length_cons]
    omega

/-- Text is as it was after escaping exactly if there was nothing to escape. -/
theorem escapeText_of_plain {content : String} (plain : IsPlain content) :
    escapeText content = content := by
  have unchanged : content.toList.flatMap escapeChar = content.toList := by
    unfold IsPlain at plain
    generalize content.toList = cs at plain
    induction cs with
    | nil => rfl
    | cons c rest ih =>
      obtain ⟨first, later⟩ := List.forall_mem_cons.mp plain
      rw [List.flatMap_cons, escapeChar_of_plain first, ih later, List.singleton_append]
  rw [escapeText, unchanged, String.ofList_toList]

theorem plain_of_length_escapeText {content : String}
    (short : (escapeText content).length ≤ content.length) : IsPlain content := by
  rw [escapeText, String.length_ofList, ← String.length_toList] at short
  unfold IsPlain
  generalize content.toList = cs at short
  induction cs with
  | nil => simp
  | cons c rest ih =>
    have first := length_escapeChar_pos c
    have later := length_escapeText (String.ofList rest)
    rw [escapeText, String.toList_ofList, String.length_ofList, String.length_ofList] at later
    rw [List.flatMap_cons, List.length_append, List.length_cons] at short
    exact List.forall_mem_cons.mpr
      ⟨plain_of_length_escapeChar (by omega), ih (by omega)⟩

/-! ## Lines of children -/

section

variable {α : Type} {f g : α → String} {xs : List α} (sep : String)

theorem length_intercalate_map_le (le : ∀ x ∈ xs, (g x).length ≤ (f x).length) :
    (sep.intercalate (xs.map g)).length ≤ (sep.intercalate (xs.map f)).length := by
  induction xs with
  | nil => simp
  | cons x rest ih =>
    obtain ⟨first, later⟩ := List.forall_mem_cons.mp le
    cases rest with
    | nil => simpa using first
    | cons y rest =>
      have behind := ih later
      simp only [List.map_cons, String.intercalate_cons_cons, String.length_append] at behind ⊢
      omega

/-- Of texts that are each at least as long as another, joined to a text no longer than the others
joined, none is longer. -/
theorem length_le_of_intercalate (le : ∀ x ∈ xs, (g x).length ≤ (f x).length)
    (short : (sep.intercalate (xs.map f)).length ≤ (sep.intercalate (xs.map g)).length) :
    ∀ x ∈ xs, (f x).length ≤ (g x).length := by
  induction xs with
  | nil => simp
  | cons x rest ih =>
    obtain ⟨first, later⟩ := List.forall_mem_cons.mp le
    cases rest with
    | nil => simpa using short
    | cons y rest =>
      have behind := length_intercalate_map_le sep later
      simp only [List.map_cons, String.intercalate_cons_cons, String.length_append] at short behind
      refine List.forall_mem_cons.mpr ⟨by omega, ih later ?_⟩
      simp only [List.map_cons]
      omega

end

end Markup

/-! ## Nodes in their places -/

namespace Serializer.Account

open Markup

/-- Whether a visible child is written in an element of the given name as by itself: text that is
raw there has nothing to escape, and an element keeps its tags. -/
def KeepsForm (account : Account) (parent : ElementName) : Node → Prop
  | .text content => account.isRaw parent = true → IsPlain content
  | .element _ _ _ => account.isVoid parent = false
  | _ => True

namespace Holds

variable [Serializer] {account : Account} (holds : account.Holds) {parent : ElementName}
  {child : Node}

include holds

/-- A visible child takes up at least as much room by itself as in its place. -/
theorem length_writeIn_le (visible : child.isVisible = true) :
    (account.writeIn parent child).length ≤ child.html.length := by
  cases child with
  | text content =>
    rw [holds.text, withReferences_eq_escapeText, Node.html]
    split
    · exact length_escapeText content
    · exact Nat.le_refl _
  | element name attributes children =>
    cases void : account.isVoid parent with
    | true => exact Nat.le_of_lt (holds.outside void name attributes children)
    | false =>
      have alike := holds.inside void name attributes children
      exact Nat.le_of_eq (congrArg String.length alike)
  | _ => simp [Node.isVisible, Node.isElement, Node.isText] at visible

/-- A child that keeps its form is written in its place as by itself. -/
theorem html_eq_writeIn (visible : child.isVisible = true)
    (keeps : account.KeepsForm parent child) : child.html = account.writeIn parent child := by
  cases child with
  | text content =>
    rw [holds.text, withReferences_eq_escapeText, Node.html]
    split
    case isTrue raw => exact escapeText_of_plain (keeps raw)
    case isFalse => rfl
  | element name attributes children => exact (holds.inside keeps name attributes children).symm
  | _ => simp [Node.isVisible, Node.isElement, Node.isText] at visible

/-- A child that takes up no more room by itself than in its place keeps its form. -/
theorem keepsForm_of_length
    (short : child.html.length ≤ (account.writeIn parent child).length) :
    account.KeepsForm parent child := by
  cases child with
  | text content =>
    intro raw
    rw [holds.text, if_pos raw] at short
    exact plain_of_length_escapeText short
  | element name attributes children =>
    cases void : account.isVoid parent with
    | false => exact void
    | true =>
      exact absurd (holds.outside void name attributes children) (Nat.not_lt.mpr short)
  | _ => trivial

end Holds

end Serializer.Account

namespace Node

open Markup

theorem isVisible_of_mem_children {node child : Node} (member : child ∈ node.children) :
    child.isVisible = true :=
  (List.mem_filter.mp member).2

section

variable [Serializer]

theorem innerHtml?_eq_none_iff {node : Node} : node.innerHtml? = none ↔ node.children = [] := by
  unfold innerHtml?
  cases node.children <;> simp

theorem innerHtml?_of_visible {node : Node} (some_visible : node.children ≠ []) :
    node.innerHtml? = some ("\n".intercalate (node.children.map html)) := by
  unfold innerHtml?
  cases children : node.children with
  | nil => exact absurd children some_visible
  | cons child rest => rfl

/-- The serialization of an element consists of its tags and its children, each written in its
place. The markup of its children is missing exactly if none is visible. Otherwise it is that of the
visible children, each by itself, in lines. This is what the serialization writes for them in their
places exactly if all of them keep their form, as do all children of elements whose text is not raw
and that have content. And a child by itself is written as in its place exactly if it keeps its
form. -/
theorem innerHtml?_by_serialization {account : Serializer.Account} (holds : account.Holds)
    (name : ElementName) (attributes : Dictionary) (children : List Node) :
    let e := element name attributes children
    (∃ opening closing, e.html =
        opening ++ String.join (children.map (account.writeIn name)) ++ closing) ∧
      (e.innerHtml? = none ↔ e.children = []) ∧
      (e.children ≠ [] →
        e.innerHtml? = some ("\n".intercalate (e.children.map html)) ∧
          (e.innerHtml? = some ("\n".intercalate (e.children.map (account.writeIn name))) ↔
            ∀ child ∈ e.children, account.KeepsForm name child)) ∧
      ∀ child ∈ e.children,
        child.html = account.writeIn name child ↔ account.KeepsForm name child := by
  intro e
  refine ⟨holds.element name attributes children, innerHtml?_eq_none_iff, ?_, ?_⟩
  · intro some_visible
    rw [innerHtml?_of_visible some_visible, Option.some.injEq, Option.some.injEq]
    refine ⟨rfl, ?_⟩
    constructor
    · intro same child member
      have le : ∀ child ∈ e.children, (account.writeIn name child).length ≤ child.html.length :=
        fun child member => holds.length_writeIn_le (isVisible_of_mem_children member)
      exact holds.keepsForm_of_length
        (length_le_of_intercalate "\n" le (Nat.le_of_eq (congrArg String.length same)) child member)
    · intro keeps
      have same : e.children.map html = e.children.map (account.writeIn name) :=
        List.map_congr_left fun child member =>
          holds.html_eq_writeIn (isVisible_of_mem_children member) (keeps child member)
      rw [same]
  · intro child member
    have visible := isVisible_of_mem_children member
    exact ⟨fun same => holds.keepsForm_of_length (Nat.le_of_eq (congrArg String.length same)),
      holds.html_eq_writeIn visible⟩

end

/-- The text of a style that belongs to a picture is not raw, so it is written in its place as by
itself, whatever is in it. -/
theorem innerHtml?_of_picture_style :
    let style := element ⟨.svg, "style"⟩ .empty [text "a<b", comment "c", text "d&e"]
    writerAccount.Holds ∧
      style.innerHtml? =
        some ("\n".intercalate (style.children.map (writerAccount.writeIn ⟨.svg, "style"⟩))) := by
  intro style
  have texts : style.children = [text "a<b", text "d&e"] := rfl
  have keeps : ∀ child ∈ style.children, writerAccount.KeepsForm ⟨.svg, "style"⟩ child := by
    rw [texts]
    simp [Serializer.Account.KeepsForm, writerAccount, isRaw, isAmong]
  obtain ⟨-, -, agrees, -⟩ :=
    innerHtml?_by_serialization writerAccount_holds ⟨.svg, "style"⟩ .empty style.allChildren
  exact ⟨writerAccount_holds, (agrees (List.cons_ne_nil _ _)).2.mpr keeps⟩

/-- A script writes its text as it is, and the markup of its children has it escaped. A line break
with an element in it, which only a tree made by hand has, leaves out the tags of that element. -/
theorem innerHtml?_beside_serialization :
    let script := element "script" .empty [.text "a<b"]
    let lineBreak := element "br" .empty [element "b" .empty []]
    (script.html = "<script>" ++ writerAccount.writeIn "script" (.text "a<b") ++ "</script>" ∧
        writerAccount.writeIn "script" (.text "a<b") = "a<b" ∧ (text "a<b").html = "a&lt;b" ∧
        script.innerHtml? = some "a&lt;b" ∧
        script.innerHtml? ≠
          some ("\n".intercalate (script.children.map (writerAccount.writeIn "script")))) ∧
      lineBreak.html = "<br>" ∧ lineBreak.innerHtml? = some "<b></b>" := by
  decide

end Node

end Gleaner
