import Gleaner.Extraction
import Mathlib.Data.List.DropRight

/-! # The text of an element and the text below it

An element has a text of its own if that is all that programs see in it. The text below an element
is everything down to the leaves, blanks included. The two differ by nothing but white space at the
ends, except that the text below an element is also that of a template's content, which is a
document of its own and hides its text from programs. -/

namespace Gleaner

/-! ## White space at the ends of a text -/

namespace Text

open Gleaner.Unicode

/-- A text without the white space at its two ends. -/
def trim (text : String) : String :=
  String.ofList ((text.toList.dropWhile isWhiteSpace).rdropWhile isWhiteSpace)

/-- The characters of a text that show: all but the white space. -/
def ink (text : String) : List Char := text.toList.filter (!isWhiteSpace ·)

variable {text before after : String}

theorem isBlank_append (before after : String) :
    isBlank (before ++ after) = (isBlank before && isBlank after) := by
  simp only [isBlank, String.toList_append, List.all_append]

theorem ink_append (before after : String) : ink (before ++ after) = ink before ++ ink after := by
  simp only [ink, String.toList_append, List.filter_append]

theorem isBlank_iff_ink : isBlank text = true ↔ ink text = [] := by
  simp [isBlank, ink]

theorem ink_trim (text : String) : ink (trim text) = ink text := by
  have front (cs : List Char) :
      (cs.dropWhile isWhiteSpace).filter (!isWhiteSpace ·) = cs.filter (!isWhiteSpace ·) := by
    induction cs with
    | nil => rfl
    | cons c rest ih => cases white : isWhiteSpace c <;> simp [white, ih]
  have back (cs : List Char) :
      (cs.rdropWhile isWhiteSpace).filter (!isWhiteSpace ·) = cs.filter (!isWhiteSpace ·) := by
    rw [List.rdropWhile, List.filter_reverse, front, List.filter_reverse, List.reverse_reverse]
  simp only [ink, trim, String.toList_ofList, back, front]

theorem trim_append_left (blank : isBlank before = true) : trim (before ++ text) = trim text := by
  have white : ∀ c ∈ before.toList, isWhiteSpace c = true := List.all_eq_true.mp blank
  simp only [trim, String.toList_append, List.dropWhile_append_of_pos white]

theorem trim_append_right (blank : isBlank after = true) : trim (text ++ after) = trim text := by
  have white : ∀ c ∈ after.toList, isWhiteSpace c = true := List.all_eq_true.mp blank
  simp only [trim, String.toList_append, List.dropWhile_append]
  split
  case isTrue gone =>
    rw [List.isEmpty_iff.mp gone, List.dropWhile_eq_nil_iff.mpr white]
  case isFalse =>
    have turned : ∀ c ∈ after.toList.reverse, isWhiteSpace c = true :=
      fun c member => white c (List.mem_reverse.mp member)
    simp only [List.rdropWhile, List.reverse_append, List.dropWhile_append_of_pos turned]

end Text

/-! ## Text below nodes -/

namespace Node

/-- Whether a node is a document. -/
def isRoot : Node → Bool
  | root _ => true
  | _ => false

/-- Whether the documents directly below a node hold nothing but blanks. Only a template has such a
document below it. -/
def HidesNoText (node : Node) : Prop :=
  ∀ child ∈ node.allChildren, child.isRoot = true → Text.isBlank child.allText = true

variable {nodes : List Node} {node : Node} {own : String}

theorem allTextOf_append (nodes more : List Node) :
    allTextOf (nodes ++ more) = allTextOf nodes ++ allTextOf more := by
  induction nodes with
  | nil => simp [allTextOf]
  | cons node rest ih => simp only [List.cons_append, allTextOf, ih, String.append_assoc]

theorem isBlank_allTextOf_iff :
    Text.isBlank (allTextOf nodes) = true ↔ ∀ node ∈ nodes, Text.isBlank node.allText = true := by
  induction nodes with
  | nil => simp [allTextOf, Text.isBlank]
  | cons node rest ih =>
    rw [allTextOf, Text.isBlank_append, Bool.and_eq_true, ih, List.forall_mem_cons]

theorem textContent_eq_allTextOf (inside : node.isElement = true) :
    node.textContent = allTextOf node.allChildren := by
  cases node with
  | element name attributes children => simp [textContent, allText, allChildren]
  | _ => simp [isElement] at inside

/-- What programs do not see has no text but blanks, documents apart. -/
theorem isBlank_allText_of_unseen (unseen : node.isVisible = false) (plain : node.isRoot = false) :
    Text.isBlank node.allText = true := by
  cases node with
  | root children => simp [isRoot] at plain
  | element name attributes children => simp [isVisible, isElement] at unseen
  | text content => simpa [isVisible, isElement, isText, isBlank, allText] using unseen
  | comment _ | doctype _ | instruction _ _ => simp [allText, Text.isBlank]

/-- The text of nodes that programs do not see is blank exactly if that of the documents is. -/
theorem isBlank_unseen_iff (unseen : ∀ node ∈ nodes, node.isVisible = false) :
    Text.isBlank (allTextOf nodes) = true ↔
      ∀ node ∈ nodes, node.isRoot = true → Text.isBlank node.allText = true := by
  rw [isBlank_allTextOf_iff]
  refine forall_congr' fun node => forall_congr' fun member => ?_
  constructor
  · exact fun blank _ => blank
  · intro blank
    cases root : node.isRoot with
    | true => exact blank root
    | false => exact isBlank_allText_of_unseen (unseen node member) root

/-! ## The text of an element -/

/-- An element has a text of its own if that text is all that programs see in it. -/
theorem ownText?_eq_some_iff (inside : node.isElement = true) :
    node.ownText? = some own ↔ node.children = [text own] := by
  have untold : node.text? = none := by cases node <;> simp_all [isElement, text?]
  simp only [ownText?, ownText, untold]
  match node.children with
  | [] => simp [Except.toOption]
  | [child] => cases child <;> simp [text?, Except.toOption]
  | _ :: _ :: _ => simp [Except.toOption]

/-- Around the text of its own an element has only nodes that programs do not see. -/
theorem exists_around_ownText (inside : node.isElement = true) (told : node.ownText? = some own) :
    Text.isBlank own = false ∧
      ∃ front back, node.allChildren = front ++ text own :: back ∧
        (∀ child ∈ front, child.isVisible = false) ∧ ∀ child ∈ back, child.isVisible = false := by
  have only := (ownText?_eq_some_iff inside).mp told
  obtain ⟨front, back, split, unseen, seen, rest⟩ := List.filter_eq_cons_iff.mp only
  refine ⟨by simpa [isVisible, isElement, isText, isBlank] using seen, front, back, split, ?_, ?_⟩
  · simpa using unseen
  · simpa using rest

section

variable {front back : List Node}

theorem textContent_around (inside : node.isElement = true)
    (split : node.allChildren = front ++ text own :: back) :
    node.textContent = allTextOf front ++ own ++ allTextOf back := by
  rw [textContent_eq_allTextOf inside, split, allTextOf_append, allTextOf, allText,
    String.append_assoc]

/-- A document that hides text is among the nodes in front of the text or among those behind. -/
theorem hidesNoText_iff_blank (split : node.allChildren = front ++ text own :: back)
    (unseen : ∀ child ∈ front, child.isVisible = false)
    (unseen' : ∀ child ∈ back, child.isVisible = false) :
    node.HidesNoText ↔
      Text.isBlank (allTextOf front) = true ∧ Text.isBlank (allTextOf back) = true := by
  rw [isBlank_unseen_iff unseen, isBlank_unseen_iff unseen', HidesNoText, split,
    List.forall_mem_append, List.forall_mem_cons]
  simp [isRoot]

/-- No text is hidden exactly if nothing shows in all the text but what shows in the element's
own. -/
theorem hidesNoText_iff_ink (inside : node.isElement = true)
    (split : node.allChildren = front ++ text own :: back)
    (unseen : ∀ child ∈ front, child.isVisible = false)
    (unseen' : ∀ child ∈ back, child.isVisible = false) :
    node.HidesNoText ↔ Text.ink node.textContent = Text.ink own := by
  rw [hidesNoText_iff_blank split unseen unseen', textContent_around inside split,
    Text.isBlank_iff_ink, Text.isBlank_iff_ink, Text.ink_append, Text.ink_append]
  constructor
  · rintro ⟨none_front, none_back⟩
    rw [none_front, none_back, List.nil_append, List.append_nil]
  · intro same
    have lengths := congrArg List.length same
    rw [List.length_append, List.length_append] at lengths
    exact ⟨List.eq_nil_of_length_eq_zero (by omega), List.eq_nil_of_length_eq_zero (by omega)⟩

end

/-- No text is hidden exactly if all the text is that of the element's own with blanks around it. -/
theorem hidesNoText_iff_exists (inside : node.isElement = true) (told : node.ownText? = some own) :
    node.HidesNoText ↔ ∃ before after, Text.isBlank before = true ∧ Text.isBlank after = true ∧
      node.textContent = before ++ own ++ after := by
  obtain ⟨-, front, back, split, unseen, unseen'⟩ := exists_around_ownText inside told
  constructor
  · intro hides
    obtain ⟨blank_front, blank_back⟩ := (hidesNoText_iff_blank split unseen unseen').mp hides
    exact ⟨_, _, blank_front, blank_back, textContent_around inside split⟩
  · rintro ⟨before, after, blank_before, blank_after, parts⟩
    rw [hidesNoText_iff_ink inside split unseen unseen', parts, Text.ink_append, Text.ink_append,
      Text.isBlank_iff_ink.mp blank_before, Text.isBlank_iff_ink.mp blank_after, List.nil_append,
      List.append_nil]

/-- No text is hidden exactly if all the text is that of the element's own up to white space at the
ends. -/
theorem hidesNoText_iff_trim (inside : node.isElement = true) (told : node.ownText? = some own) :
    node.HidesNoText ↔ Text.trim node.textContent = Text.trim own := by
  constructor
  · intro hides
    obtain ⟨before, after, blank_before, blank_after, parts⟩ :=
      (hidesNoText_iff_exists inside told).mp hides
    rw [parts, Text.trim_append_right blank_after, Text.trim_append_left blank_before]
  · intro same
    obtain ⟨-, front, back, split, unseen, unseen'⟩ := exists_around_ownText inside told
    rw [hidesNoText_iff_ink inside split unseen unseen', ← Text.ink_trim, same, Text.ink_trim]

/-- If text shows below an element and none of it is hidden, programs see something in it. -/
theorem children_ne_nil_of_shown (inside : node.isElement = true)
    (shows : Text.isBlank node.textContent = false) (hides : node.HidesNoText) :
    node.children ≠ [] := by
  intro nothing
  have unseen : ∀ child ∈ node.allChildren, child.isVisible = false := by
    simpa using List.filter_eq_nil_iff.mp nothing
  rw [textContent_eq_allTextOf inside, (isBlank_unseen_iff unseen).mpr hides] at shows
  exact Bool.false_ne_true shows.symm

/-- An element with no elements in it has a text of its own exactly if there is one text in it that
is not blank. -/
theorem ownText?_eq_none_iff (inside : node.isElement = true)
    (flat : ∀ child ∈ node.allChildren, child.isElement = false) :
    node.ownText? = none ↔ node.children.length ≠ 1 := by
  rw [Option.eq_none_iff_forall_ne_some]
  constructor
  · intro never single
    obtain ⟨child, only⟩ := List.length_eq_one_iff.mp single
    have member : child ∈ node.children := by rw [only]; exact List.mem_singleton_self child
    have seen := (List.mem_filter.mp member).2
    cases child with
    | text own => exact never own ((ownText?_eq_some_iff inside).mpr only)
    | element name attributes children =>
      exact absurd (flat _ (List.mem_filter.mp member).1) (by simp [isElement])
    | _ => simp [isVisible, isElement, isText] at seen
  · intro other own told
    rw [(ownText?_eq_some_iff inside).mp told] at other
    exact other rfl

/-- Without elements in it, an element shows programs the texts in it that are not blank. -/
theorem children_of_flat (flat : ∀ child ∈ node.allChildren, child.isElement = false) :
    node.children = node.allChildren.filter fun child => child.isText && !child.isBlank := by
  refine List.filter_congr fun child member => ?_
  rw [isVisible, flat child member, Bool.false_or]

/-- The text of its own that an element has is not blank. It is all text below the element but for
white space at the ends, exactly if no text is hidden in a document. And an element with no elements
in it has none exactly if there is not one text in it that is not blank; if it has text below that
is not blank, and none of it hidden, this is because there are several. -/
theorem ownText?_up_to_blanks (name : ElementName) (attributes : Dictionary)
    (children : List Node) :
    let e := element name attributes children
    let texts := children.filter fun child => child.isText && !child.isBlank
    (∀ own, e.ownText? = some own →
        Text.isBlank own = false ∧
          (e.HidesNoText ↔ ∃ before after, Text.isBlank before = true ∧
            Text.isBlank after = true ∧ e.textContent = before ++ own ++ after) ∧
          (e.HidesNoText ↔ Text.trim e.textContent = Text.trim own)) ∧
      ((∀ child ∈ children, child.isElement = false) →
        (e.ownText? = none ↔ texts.length ≠ 1) ∧
          (Text.isBlank e.textContent = false → e.HidesNoText →
            (e.ownText? = none ↔ 2 ≤ texts.length))) := by
  intro e texts
  have inside : e.isElement = true := rfl
  constructor
  · intro own told
    exact ⟨(exists_around_ownText inside told).1, hidesNoText_iff_exists inside told,
      hidesNoText_iff_trim inside told⟩
  · intro flat
    have seen : e.children = texts := children_of_flat flat
    have untold : e.ownText? = none ↔ texts.length ≠ 1 := by
      rw [ownText?_eq_none_iff inside flat, seen]
    refine ⟨untold, fun shows hides => untold.trans ?_⟩
    have some_text : texts.length ≠ 0 := by
      rw [← seen]
      exact mt List.eq_nil_of_length_eq_zero (children_ne_nil_of_shown inside shows hides)
    omega

/-- A template has all its text in the document that it holds, so that programs see no text in it,
neither one nor several. Beside a text of its own an element has no such document in any page, but
it can have one in a tree, and then there is more text below it than that. -/
theorem template_hides_text :
    let e := element "template" .empty [root [text "abc"]]
    let beside := element "div" .empty [root [text "a"], text "b"]
    ((∀ child ∈ e.allChildren, child.isElement = false) ∧ Text.isBlank e.textContent = false ∧
      e.ownText? = none ∧
      ¬2 ≤ (e.allChildren.filter fun child => child.isText && !child.isBlank).length) ∧
      beside.ownText? = some "b" ∧ beside.textContent = "ab" ∧
        Text.trim beside.textContent ≠ Text.trim "b" := by
  decide

end Node

end Gleaner
