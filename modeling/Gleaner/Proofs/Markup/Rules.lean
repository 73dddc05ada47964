import Gleaner.Markup.Writer

/-! # The rules for markup

What a serializer is expected to do, as far as the children of an element are concerned: they are
written in their places, in order, between the tags; text is escaped, unless that of the parent is
raw; and an element is written alike wherever there is content. Which elements are raw or without
content is left to the serializer. The writer of this library keeps these rules. -/

namespace Gleaner

namespace Markup

/-! ## Escapes -/

/-- The references that text is written with, each with the character that it stands for. -/
def textReferences : List (List Char × Char) :=
  [(['&', 'a', 'm', 'p', ';'], '&'), (['&', 'l', 't', ';'], '<'), (['&', 'g', 't', ';'], '>'),
    (['&', 'n', 'b', 's', 'p', ';'], '\u00a0')]

/-- Puts a reference for each occurrence of its character. -/
def refer (text : List Char) (reference : List Char × Char) : List Char :=
  text.flatMap fun c => if c = reference.2 then reference.1 else [c]

/-- Text as the rules have it: one character after the other is replaced in the whole text, the
ampersand first. -/
def withReferences (content : String) : String :=
  String.ofList (textReferences.foldl refer content.toList)

theorem escapeChar_of_plain {c : Char} (plain : c ∉ ['&', '<', '>', '\u00a0']) :
    escapeChar c = [c] := by
  simp only [List.mem_cons, List.not_mem_nil, or_false, not_or] at plain
  obtain ⟨notAnd, notLess, notGreater, notSpace⟩ := plain
  simp only [escapeChar, notAnd, notLess, notGreater, notSpace, if_false]

theorem foldl_refer_singleton (c : Char) : textReferences.foldl refer [c] = escapeChar c := by
  by_cases special : c ∈ ['&', '<', '>', '\u00a0']
  · simp only [List.mem_cons, List.not_mem_nil, or_false] at special
    rcases special with rfl | rfl | rfl | rfl <;> decide
  · rw [escapeChar_of_plain special]
    simp only [List.mem_cons, List.not_mem_nil, or_false, not_or] at special
    obtain ⟨notAnd, notLess, notGreater, notSpace⟩ := special
    simp [textReferences, refer, notAnd, notLess, notGreater, notSpace]

theorem foldl_refer_append (references : List (List Char × Char)) (front back : List Char) :
    references.foldl refer (front ++ back) =
      references.foldl refer front ++ references.foldl refer back := by
  induction references generalizing front back with
  | nil => rfl
  | cons reference rest ih =>
    have first : refer (front ++ back) reference = refer front reference ++ refer back reference :=
      List.flatMap_append
    rw [List.foldl_cons, first, ih, List.foldl_cons, List.foldl_cons]

/-- Escaping a text character by character comes to the same as replacing one character after the
other in the whole text: no reference holds a character that is replaced later. -/
theorem withReferences_eq_escapeText (content : String) :
    withReferences content = escapeText content := by
  rw [withReferences, escapeText]
  congr 1
  induction content.toList with
  | nil => rfl
  | cons c rest ih =>
    rw [← List.singleton_append, foldl_refer_append, foldl_refer_singleton, ih, List.flatMap_append,
      List.flatMap_singleton]

end Markup

/-! ## Serializers -/

namespace Serializer

/-- What there is to know of a serializer. -/
structure Account where
  /-- Whether the text of an element is written as it is. -/
  isRaw : ElementName → Bool
  /-- Whether an element has no content. -/
  isVoid : ElementName → Bool
  /-- What is written for a child of an element of the given name, in its place. -/
  writeIn : ElementName → Node → String

/-- Whether a serializer is as an account says, and keeps the rules. -/
structure Account.Holds [Serializer] (account : Account) : Prop where
  /-- The children of an element are written in their places, in order, between its tags. -/
  element (name : ElementName) (attributes : Dictionary) (children : List Node) :
    ∃ opening closing, write (.element name attributes children) =
      opening ++ String.join (children.map (account.writeIn name)) ++ closing
  /-- Text is escaped, unless that of its parent is raw. -/
  text (parent : ElementName) (content : String) :
    account.writeIn parent (.text content) =
      if account.isRaw parent then content else Markup.withReferences content
  /-- An element is written alike wherever there is content. -/
  inside {parent : ElementName} (content : account.isVoid parent = false) (name : ElementName)
    (attributes : Dictionary) (children : List Node) :
    account.writeIn parent (.element name attributes children) =
      write (.element name attributes children)
  /-- Where there is none, less is written than the whole element. -/
  outside {parent : ElementName} (empty : account.isVoid parent = true) (name : ElementName)
    (attributes : Dictionary) (children : List Node) :
    (account.writeIn parent (.element name attributes children)).length <
      (write (.element name attributes children)).length

end Serializer

/-! ## The writer -/

namespace Markup

/-- The account of the writer. -/
def writerAccount : Serializer.Account where
  isRaw := isRaw
  isVoid := isVoid
  writeIn name := write (isRaw name) (isVoid name)

theorem writeAll_eq_join (rawText tagless : Bool) (nodes : List Node) :
    writeAll rawText tagless nodes = String.join (nodes.map (write rawText tagless)) := by
  induction nodes with
  | nil => rfl
  | cons node rest ih => rw [writeAll, ih, List.map_cons, String.join_cons]

mutual

/-- Without tags there is no more to write than with them. -/
theorem length_write_tagless (rawText tagless : Bool) :
    ∀ node, (write rawText true node).length ≤ (write rawText tagless node).length
  | .root children => by
    simpa only [write] using length_writeAll_tagless rawText tagless children
  | .element name attributes children => by
    have inside := length_writeAll_tagless (isRaw name) (tagless || isVoid name) children
    simp only [write, if_true, Bool.true_or]
    split
    · exact inside
    · split
      · rw [String.length_append]
        omega
      · rw [String.length_append, String.length_append]
        omega
  | .text _ | .comment _ | .doctype _ | .instruction _ _ => by simp only [write, Nat.le_refl]

theorem length_writeAll_tagless (rawText tagless : Bool) :
    ∀ nodes, (writeAll rawText true nodes).length ≤ (writeAll rawText tagless nodes).length
  | [] => by simp only [writeAll, Nat.le_refl]
  | node :: rest => by
    have first := length_write_tagless rawText tagless node
    have later := length_writeAll_tagless rawText tagless rest
    rw [writeAll, writeAll, String.length_append, String.length_append]
    omega

end

theorem length_startTag_pos (name : String) (attributes : Dictionary) :
    1 ≤ (startTag name attributes).length := by
  have bracket : (">" : String).length = 1 := rfl
  rw [startTag, String.length_append]
  omega

/-- An element whose tags are left out takes up less room than with them. -/
theorem length_element_tagless (rawText : Bool) (name : ElementName) (attributes : Dictionary)
    (children : List Node) :
    (write rawText true (.element name attributes children)).length <
      (write false false (.element name attributes children)).length := by
  have tag := length_startTag_pos name.name attributes
  have inside := length_writeAll_tagless (isRaw name) (isVoid name) children
  simp only [write, if_true, Bool.true_or, Bool.false_or, Bool.false_eq_true, if_false]
  split
  · rw [String.length_append]
    omega
  · rw [String.length_append, String.length_append]
    omega

theorem write_element (name : ElementName) (attributes : Dictionary) (children : List Node) :
    write false false (.element name attributes children) =
      startTag name.name attributes ++
        String.join (children.map (write (isRaw name) (isVoid name))) ++
        if isVoid name then "" else endTag name.name := by
  simp only [write, Bool.false_or, Bool.false_eq_true, if_false, writeAll_eq_join]
  split
  · rw [String.append_empty]
  · rfl

/-- The writer keeps the rules for markup. -/
theorem writerAccount_holds : writerAccount.Holds where
  element name attributes children := ⟨_, _, write_element name attributes children⟩
  text parent content := by
    rw [withReferences_eq_escapeText]
    rfl
  inside := by
    intro parent content name attributes children
    have tagged : isVoid parent = false := content
    simp only [writerAccount, tagged, Serializer.write, write]
  outside := by
    intro parent empty name attributes children
    have tagless : isVoid parent = true := empty
    simp only [writerAccount, tagless, Serializer.write]
    exact length_element_tagless _ name attributes children

end Markup

end Gleaner
