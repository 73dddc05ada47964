import Gleaner.Markup.Reference
import Gleaner.Proofs.Markup.Rules

/-! # Escaped text

Text is written with four references, for the three characters that markup takes for its own and
for the no-break space. Nothing is lost by that: whatever the text, be it full of ampersands and of
what looks like references, every ampersand of its written form begins one of the four, so reading
these from left to right gives the text back. -/

namespace Gleaner

namespace Markup

/-- Reads the references that text is written with from left to right. What one of them stands for
is not read again. -/
def unescape : List Char → List Char
  | '&' :: 'a' :: 'm' :: 'p' :: ';' :: rest => '&' :: unescape rest
  | '&' :: 'l' :: 't' :: ';' :: rest => '<' :: unescape rest
  | '&' :: 'g' :: 't' :: ';' :: rest => '>' :: unescape rest
  | '&' :: 'n' :: 'b' :: 's' :: 'p' :: ';' :: rest => '\u00a0' :: unescape rest
  | c :: rest => c :: unescape rest
  | [] => []

/-- A character is written as a reference or, if it is not one of the four, as itself. -/
theorem escapeChar_cases (c : Char) :
    (escapeChar c, c) ∈ textReferences ∨
      c ∉ ['&', '<', '>', '\u00a0'] ∧ escapeChar c = [c] := by
  by_cases special : c ∈ ['&', '<', '>', '\u00a0']
  · simp only [List.mem_cons, List.not_mem_nil, or_false] at special
    left
    rcases special with rfl | rfl | rfl | rfl <;> decide
  · exact .inr ⟨special, escapeChar_of_plain special⟩

/-! ## The written form -/

/-- Of the characters that markup takes for its own, only the ampersand is written. -/
theorem notMem_escapeChar (c : Char) : ∀ d ∈ escapeChar c, d ∉ ['<', '>', '\u00a0'] := by
  have clean : ∀ reference ∈ textReferences, ∀ d ∈ reference.1, d ∉ ['<', '>', '\u00a0'] := by
    simp [textReferences]
  intro d member
  rcases escapeChar_cases c with written | ⟨plain, itself⟩
  · exact clean _ written d member
  · rw [itself, List.mem_singleton] at member
    subst member
    exact fun special => plain (List.mem_cons_of_mem _ special)

/-- What begins with a character that a text has not is behind that text. -/
theorem suffix_of_notMem {x : Char} {name later rest : List Char} (absent : x ∉ name)
    (behind : x :: rest <:+ name ++ later) : x :: rest <:+ later := by
  induction name with
  | nil => exact behind
  | cons first name ih =>
    obtain ⟨other, absent⟩ := not_or.mp (mt List.mem_cons.mpr absent)
    rw [List.cons_append, List.suffix_cons_iff, List.cons.injEq] at behind
    rcases behind with ⟨same, -⟩ | behind
    · exact absurd same other
    · exact ih absent behind

/-- Every ampersand of the written form begins a reference. -/
theorem reference_of_suffix {text rest : List Char}
    (behind : '&' :: rest <:+ text.flatMap escapeChar) :
    ∃ reference ∈ textReferences, reference.1 <+: '&' :: rest := by
  have marked : ∀ reference ∈ textReferences,
      '&' :: reference.1.tail = reference.1 ∧ '&' ∉ reference.1.tail := by decide
  induction text with
  | nil => simp at behind
  | cons c text ih =>
    rw [List.flatMap_cons] at behind
    rcases escapeChar_cases c with written | ⟨plain, itself⟩
    · obtain ⟨whole, absent⟩ :
          '&' :: (escapeChar c).tail = escapeChar c ∧ '&' ∉ (escapeChar c).tail := marked _ written
      rw [← whole, List.cons_append, List.suffix_cons_iff] at behind
      rcases behind with here | behind
      · refine ⟨_, written, ?_⟩
        rw [here, ← List.cons_append, whole]
        exact List.prefix_append ..
      · exact ih (suffix_of_notMem absent behind)
    · have absent : '&' ∉ escapeChar c := by
        rw [itself, List.mem_singleton]
        rintro rfl
        exact plain List.mem_cons_self
      exact ih (suffix_of_notMem absent behind)

/-! ## Reading it again -/

/-- A reader that takes the four references for what they stand for, and every character but the
ampersand for itself. -/
structure Undoes (read : List Char → List Char) : Prop where
  nil : read [] = []
  reference : ∀ reference ∈ textReferences, ∀ rest,
    read (reference.1 ++ rest) = reference.2 :: read rest
  plain : ∀ c ≠ '&', ∀ rest, read (c :: rest) = c :: read rest

/-- Such a reader gives back every text from its written form, whatever else it reads. -/
theorem Undoes.flatMap {read : List Char → List Char} (undoes : Undoes read) (text : List Char) :
    read (text.flatMap escapeChar) = text := by
  induction text with
  | nil => exact undoes.nil
  | cons c text ih =>
    rw [List.flatMap_cons]
    rcases escapeChar_cases c with written | ⟨plain, itself⟩
    · rw [undoes.reference _ written, ih]
    · have other : c ≠ '&' := fun same => plain (same ▸ List.mem_cons_self)
      rw [itself, List.singleton_append, undoes.plain c other, ih]

theorem undoes_unescape : Undoes unescape where
  nil := rfl
  reference := by
    intro reference member rest
    simp only [textReferences, List.mem_cons, List.not_mem_nil, or_false] at member
    rcases member with rfl | rfl | rfl | rfl <;> rfl
  plain := by
    intro c other rest
    rw [unescape] <;> simp [other]

/-- The reader of pages knows far more references, and reads what begins with no ampersand as it
is, too. -/
theorem undoes_resolve : Undoes resolve where
  nil := rfl
  reference := by
    intro reference member rest
    simp only [textReferences, List.mem_cons, List.not_mem_nil, or_false] at member
    rcases member with rfl | rfl | rfl | rfl <;> rfl
  plain := by
    intro c other rest
    rw [resolve, resolveAfter]
    · rfl
    · exact other

/-- What is written is read from a page as it was. -/
theorem resolve_escapeText (text : String) : resolve (escapeText text).toList = text.toList := by
  rw [escapeText, String.toList_ofList, undoes_resolve.flatMap]

theorem escapeText_injective : Function.Injective escapeText := by
  intro text other same
  have read : unescape (escapeText text).toList = unescape (escapeText other).toList := by
    rw [same]
  simp only [escapeText, String.toList_ofList, undoes_unescape.flatMap] at read
  exact String.toList_inj.mp read

/-- Writing a text loses nothing and lets nothing through. None of the characters that markup takes
for its own is left but the ampersand, and each ampersand begins one of the four references.
Reading these from left to right gives the text back; so texts that are written alike are equal, as
are text nodes with the same markup. And texts one after the other are written one after the
other. -/
theorem escapeText_lossless [Serializer] (text : String) :
    (∀ c ∈ (escapeText text).toList, c ∉ ['<', '>', '\u00a0']) ∧
      (∀ rest, '&' :: rest <:+ (escapeText text).toList →
        ∃ reference ∈ textReferences, reference.1 <+: '&' :: rest) ∧
      unescape (escapeText text).toList = text.toList ∧
      (∀ other, escapeText other = escapeText text → other = text) ∧
      (∀ other, (Node.text other).html = (Node.text text).html → other = text) ∧
      ∀ more, escapeText (text ++ more) = escapeText text ++ escapeText more := by
  have written : (escapeText text).toList = text.toList.flatMap escapeChar := String.toList_ofList
  rw [written]
  refine ⟨?_, fun rest => reference_of_suffix, undoes_unescape.flatMap _,
    fun other same => escapeText_injective same, fun other same => escapeText_injective same, ?_⟩
  · intro d member
    obtain ⟨c, -, member⟩ := List.mem_flatMap.mp member
    exact notMem_escapeChar c d member
  · intro more
    rw [escapeText, String.toList_append, List.flatMap_append, String.ofList_append]
    rfl

end Markup

end Gleaner
