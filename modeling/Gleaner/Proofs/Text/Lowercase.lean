import Gleaner.Pattern
import Mathlib.Data.List.TakeWhile

/-! # Lower case in context

A character has its lower case form wherever it stands, but for the capital sigma, which has one
form at the end of a word and another elsewhere. So a part of a text can have another lower case
form than by itself, and a search that ignores case can miss what a search that regards it finds.
This happens to texts that begin or end on a capital sigma of which the text itself does not settle
where in its word it stands, and to no others. -/

namespace Gleaner

namespace Text

open Gleaner.Unicode

/-! ## A text between others -/

/-- Whether a sigma is the end of a word between the characters `before` it, nearest first, and
those `after` it. -/
def isFinal (before after : List Char) : Bool := startsCased before && !startsCased after

/-- The lower case form of a text behind the characters `before`, nearest first, and in front of
the characters `after`. -/
def lowerWithin (before : List Char) : List Char → List Char → List Char
  | [], _ => []
  | c :: rest, after =>
    lowerBetween before c (rest ++ after) ++ lowerWithin (c :: before) rest after

variable {before before' after after' text front back passed rest : List Char}

theorem lowerAfter_eq (before text : List Char) :
    lowerAfter before text = lowerWithin before text [] := by
  induction text generalizing before with
  | nil => rfl
  | cons c rest ih => rw [lowerAfter, lowerWithin, List.append_nil, ih]

theorem lowerWithin_append (before front back after : List Char) :
    lowerWithin before (front ++ back) after =
      lowerWithin before front (back ++ after) ++
        lowerWithin (front.reverse ++ before) back after := by
  induction front generalizing before with
  | nil => rfl
  | cons c rest ih =>
    simp only [List.cons_append, lowerWithin, ih, List.append_assoc, List.reverse_cons,
      List.nil_append]

theorem lowerBetween_sigma (before after : List Char) :
    lowerBetween before 'Σ' after = if isFinal before after then ['ς'] else ['σ'] := rfl

theorem lowerBetween_of_ne {c : Char} (other : c ≠ 'Σ') (before after : List Char) :
    lowerBetween before c after = lowerChar c := if_neg other

/-- The surroundings of a text count for its lower case form only as far as they decide which of
its sigmas are at the end of a word. -/
theorem lowerWithin_congr
    (same : ∀ front back, text = front ++ 'Σ' :: back →
      isFinal (front.reverse ++ before) (back ++ after) =
        isFinal (front.reverse ++ before') (back ++ after')) :
    lowerWithin before text after = lowerWithin before' text after' := by
  induction text generalizing before before' with
  | nil => rfl
  | cons c rest ih =>
    have first : lowerBetween before c (rest ++ after) =
        lowerBetween before' c (rest ++ after') := by
      by_cases sigma : c = 'Σ'
      · subst sigma
        have here := same [] rest rfl
        rw [List.reverse_nil, List.nil_append, List.nil_append] at here
        rw [lowerBetween_sigma, lowerBetween_sigma, here]
      · rw [lowerBetween_of_ne sigma, lowerBetween_of_ne sigma]
    have later : lowerWithin (c :: before) rest after = lowerWithin (c :: before') rest after' := by
      refine ih fun front back split => ?_
      have there := same (c :: front) back (by rw [split, List.cons_append])
      simpa only [List.reverse_cons, List.append_assoc, List.singleton_append] using there
    rw [lowerWithin, lowerWithin, first, later]

/-! ## Steady texts -/

/-- What is behind a character that counts for case is not looked at. -/
theorem startsCased_append (front back : List Char) :
    startsCased (front ++ back) =
      if front.all isCaseIgnorable then startsCased back else startsCased front := by
  unfold startsCased
  rw [List.dropWhile_append]
  cases kept : front.dropWhile isCaseIgnorable with
  | nil =>
    have passed : front.all isCaseIgnorable = true := by
      simpa [List.dropWhile_eq_nil_iff] using kept
    simp [passed]
  | cons c rest =>
    have stops : ¬front.all isCaseIgnorable = true := by
      intro passed
      simp [List.dropWhile_eq_nil_iff.mpr (List.all_eq_true.mp passed)] at kept
    simp [stops]

theorem startsCased_of_all (passed : front.all isCaseIgnorable = true) :
    startsCased front = false := by
  rw [startsCased, List.dropWhile_eq_nil_iff.mpr (List.all_eq_true.mp passed)]
  rfl

theorem startsCased_sigma (front back : List Char) :
    startsCased (front ++ 'Σ' :: back) = startsCased (front ++ ['Σ']) := by
  have counts : isCaseIgnorable 'Σ' = false := by decide
  rw [← List.singleton_append, ← List.append_assoc, startsCased_append]
  simp [counts]

/-- What is behind a capital sigma that is the first character to count for case. -/
def behindSigma? (text : List Char) : Option (List Char) :=
  match text.dropWhile isCaseIgnorable with
  | 'Σ' :: rest => some rest
  | _ => none

/-- Whether a text begins on a capital sigma that a cased character in front would make the end of
a word. -/
def opensOnSigma (text : List Char) : Bool := (behindSigma? text).any (!startsCased ·)

/-- Whether a text ends on a capital sigma that a cased character behind would not let be the end
of a word. -/
def closesOnSigma (text : List Char) : Bool := (behindSigma? text.reverse).any startsCased

/-- Whether a text itself settles where in its word each of its capital sigmas stands. -/
def isSteady (text : List Char) : Bool := !opensOnSigma text && !closesOnSigma text

theorem behindSigma?_eq_some_iff :
    behindSigma? text = some rest ↔
      ∃ front, text = front ++ 'Σ' :: rest ∧ front.all isCaseIgnorable = true := by
  unfold behindSigma?
  constructor
  · intro found
    split at found
    · next behind kept =>
      obtain rfl := Option.some.inj found
      refine ⟨text.takeWhile isCaseIgnorable, ?_, List.all_takeWhile⟩
      rw [← kept, List.takeWhile_append_dropWhile]
    · simp at found
  · rintro ⟨front, rfl, passed⟩
    have counts : isCaseIgnorable 'Σ' = false := by decide
    rw [List.dropWhile_append_of_pos (List.all_eq_true.mp passed),
      List.dropWhile_cons_of_neg (by simp [counts])]
    rfl

theorem opensOnSigma_iff :
    opensOnSigma text = true ↔
      ∃ front rest, text = front ++ 'Σ' :: rest ∧ front.all isCaseIgnorable = true ∧
        startsCased rest = false := by
  simp only [opensOnSigma, Option.any_eq_true, behindSigma?_eq_some_iff, Bool.not_eq_true']
  constructor
  · rintro ⟨rest, ⟨front, split, passed⟩, ends⟩
    exact ⟨front, rest, split, passed, ends⟩
  · rintro ⟨front, rest, split, passed, ends⟩
    exact ⟨rest, ⟨front, split, passed⟩, ends⟩

theorem closesOnSigma_iff :
    closesOnSigma text = true ↔
      ∃ front rest, text = front ++ 'Σ' :: rest ∧ startsCased front.reverse = true ∧
        rest.all isCaseIgnorable = true := by
  simp only [closesOnSigma, Option.any_eq_true, behindSigma?_eq_some_iff]
  constructor
  · rintro ⟨before, ⟨rest, split, passed⟩, cased⟩
    refine ⟨before.reverse, rest.reverse, ?_, by rwa [List.reverse_reverse], by simpa using passed⟩
    rw [← List.reverse_reverse text, split]
    simp
  · rintro ⟨front, rest, rfl, cased, passed⟩
    exact ⟨front.reverse, ⟨rest.reverse, by simp, by simpa using passed⟩, cased⟩

/-- In a steady text no surroundings change where a sigma stands in its word. -/
theorem isFinal_of_isSteady (steady : isSteady (front ++ 'Σ' :: back) = true)
    (before after : List Char) :
    isFinal (front.reverse ++ before) (back ++ after) = isFinal front.reverse back := by
  simp only [isSteady, Bool.and_eq_true, Bool.not_eq_true'] at steady
  obtain ⟨opens, closes⟩ := steady
  simp only [isFinal, startsCased_append, List.all_reverse]
  cases passed : front.all isCaseIgnorable with
  | true =>
    -- The sigma is the first character that counts, so the text must go on with the word.
    have cased : startsCased back = true := by
      by_contra ends
      refine absurd (opensOnSigma_iff.mpr ⟨front, back, rfl, passed, ?_⟩) (by simp [opens])
      exact eq_false_of_ne_true ends
    have stops : back.all isCaseIgnorable = false := by
      by_contra passed
      rw [startsCased_of_all (eq_true_of_ne_false passed)] at cased
      exact Bool.false_ne_true cased
    simp [cased, stops]
  | false =>
    cases passed' : back.all isCaseIgnorable with
    | false => simp
    | true =>
      -- The sigma is the last character that counts, so there is no word in front of it.
      have uncased : startsCased front.reverse = false := by
        by_contra cased
        refine absurd (closesOnSigma_iff.mpr ⟨front, back, rfl, ?_, passed'⟩) (by simp [closes])
        exact eq_true_of_ne_false cased
      simp [uncased]

/-- A steady text has the same lower case form wherever it stands. -/
theorem lowerWithin_of_isSteady (steady : isSteady text = true) (before after : List Char) :
    lowerWithin before text after = lowerAfter [] text := by
  rw [lowerAfter_eq]
  refine lowerWithin_congr fun front back split => ?_
  rw [List.append_nil, List.append_nil]
  exact isFinal_of_isSteady (split ▸ steady) before after

/-- The lower case form of a steady text is part of that of every text of which it is a part. -/
theorem lower_infix_of_isSteady {whole : List Char} (steady : isSteady text = true)
    (part : text <:+: whole) : lowerAfter [] text <:+: lowerAfter [] whole := by
  obtain ⟨front, back, rfl⟩ := part
  rw [lowerAfter_eq [] (front ++ text ++ back), List.append_assoc, lowerWithin_append,
    lowerWithin_append, lowerWithin_of_isSteady steady]
  exact ⟨_, _, List.append_assoc ..⟩

/-! ## Texts that are not steady -/

/-- A capital sigma parts what is in front of it from what is behind. -/
theorem lowerAfter_split (front back : List Char) :
    lowerAfter [] (front ++ 'Σ' :: back) =
      lowerWithin [] front ['Σ'] ++ (if isFinal front.reverse back then ['ς'] else ['σ']) ++
        lowerWithin ['Σ'] back [] := by
  have ahead : lowerWithin [] front ('Σ' :: back) = lowerWithin [] front ['Σ'] := by
    refine lowerWithin_congr fun first last _ => ?_
    rw [isFinal, startsCased_sigma, isFinal]
  have behind : lowerWithin ('Σ' :: front.reverse) back [] = lowerWithin ['Σ'] back [] := by
    refine lowerWithin_congr fun first last _ => ?_
    rw [isFinal, startsCased_sigma, isFinal]
  rw [lowerAfter_eq, lowerWithin_append, List.append_nil, List.append_nil, ahead, lowerWithin,
    List.append_nil, lowerBetween_sigma, behind, List.append_assoc]

/-- Where no character counts for case there is no sigma, so the surroundings do not count. -/
theorem lowerWithin_of_all (passed : text.all isCaseIgnorable = true)
    (before before' after after' : List Char) :
    lowerWithin before text after = lowerWithin before' text after' := by
  refine lowerWithin_congr fun front back split => ?_
  have counts : isCaseIgnorable 'Σ' = false := by decide
  rw [split, List.all_append, List.all_cons, counts] at passed
  simp at passed

theorem not_infix_of_count_lt {x : Char} {part whole : List Char}
    (fewer : whole.count x < part.count x) : ¬part <:+: whole :=
  fun within => Nat.not_lt.mpr (within.sublist.count_le x) fewer

/-- A letter in front makes the sigma on which a text opens the end of a word. -/
theorem not_infix_of_opensOnSigma (opens : opensOnSigma text = true) :
    ¬lowerAfter [] text <:+: lowerAfter [] ('a' :: text) := by
  obtain ⟨front, rest, rfl, passed, ends⟩ := opensOnSigma_iff.mp opens
  have passed' : front.reverse.all isCaseIgnorable = true := by rwa [List.all_reverse]
  have alone : isFinal front.reverse rest = false := by
    rw [isFinal, startsCased_of_all passed', Bool.false_and]
  have led : isFinal ('a' :: front).reverse rest = true := by
    have cased : startsCased ['a'] = true := by decide
    rw [isFinal, List.reverse_cons, startsCased_append, if_pos passed', cased, ends]
    rfl
  have letter : lowerWithin [] ('a' :: front) ['Σ'] = 'a' :: lowerWithin [] front ['Σ'] := by
    have itself : lowerBetween [] 'a' (front ++ ['Σ']) = ['a'] := by
      rw [lowerBetween_of_ne (by decide)]
      decide
    rw [lowerWithin, itself, lowerWithin_of_all passed ['a'] [] ['Σ'] ['Σ']]
    rfl
  refine not_infix_of_count_lt (x := 'σ') ?_
  rw [lowerAfter_split, ← List.cons_append, lowerAfter_split, alone, led, letter]
  simp

/-- A letter behind keeps the sigma on which a text closes from being the end of a word. -/
theorem not_infix_of_closesOnSigma (closes : closesOnSigma text = true) :
    ¬lowerAfter [] text <:+: lowerAfter [] (text ++ ['a']) := by
  obtain ⟨front, rest, rfl, cased, passed⟩ := closesOnSigma_iff.mp closes
  have alone : isFinal front.reverse rest = true := by
    rw [isFinal, cased, startsCased_of_all passed]
    rfl
  have followed : isFinal front.reverse (rest ++ ['a']) = false := by
    have goes_on : startsCased ['a'] = true := by decide
    rw [isFinal, startsCased_append, if_pos passed, goes_on, Bool.not_true, Bool.and_false]
  have letter : lowerWithin ['Σ'] (rest ++ ['a']) [] = lowerWithin ['Σ'] rest [] ++ ['a'] := by
    have itself : lowerBetween (rest.reverse ++ ['Σ']) 'a' [] = ['a'] := by
      rw [lowerBetween_of_ne (by decide)]
      decide
    rw [lowerWithin_append, lowerWithin, lowerWithin, List.append_nil, List.append_nil,
      List.append_nil, itself, lowerWithin_of_all passed ['Σ'] ['Σ'] ['a'] []]
  refine not_infix_of_count_lt (x := 'ς') ?_
  rw [lowerAfter_split, List.append_assoc, List.cons_append, lowerAfter_split, alone, followed,
    letter]
  simp

/-- The lower case form of a text is part of that of every text around it exactly if the text is
steady. -/
theorem isSteady_iff :
    isSteady text = true ↔
      ∀ whole, text <:+: whole → lowerAfter [] text <:+: lowerAfter [] whole := by
  constructor
  · exact fun steady whole part => lower_infix_of_isSteady steady part
  · intro always
    rw [isSteady, Bool.and_eq_true, Bool.not_eq_true', Bool.not_eq_true']
    constructor
    · refine eq_false_of_ne_true fun opens => not_infix_of_opensOnSigma opens (always _ ?_)
      exact List.suffix_cons 'a' text |>.isInfix
    · refine eq_false_of_ne_true fun closes => not_infix_of_closesOnSigma closes (always _ ?_)
      exact List.prefix_append text ['a'] |>.isInfix

example : isSteady ['a', 'Σ', 'b'] = true ∧ isSteady ['a', 'Σ'] = false ∧
    isSteady ['Σ', 'b'] = true ∧ isSteady ['Σ'] = false := by
  decide

/-! ## Texts without a sigma -/

/-- The sigma in its capital form and its two lower case forms. -/
def sigmas : List Char := ['Σ', 'σ', 'ς']

/-- Takes the two lower case forms of the sigma for one. -/
def joinSigmas (c : Char) : Char := if c = 'ς' then 'σ' else c

/-- With the two forms taken for one, lower case works character by character. -/
theorem map_joinSigmas_lowerWithin (before before' text after after' : List Char) :
    (lowerWithin before text after).map joinSigmas =
      (lowerWithin before' text after').map joinSigmas := by
  induction text generalizing before before' with
  | nil => rfl
  | cons c rest ih =>
    have first : (lowerBetween before c (rest ++ after)).map joinSigmas =
        (lowerBetween before' c (rest ++ after')).map joinSigmas := by
      by_cases sigma : c = 'Σ'
      · subst sigma
        rw [lowerBetween_sigma, lowerBetween_sigma]
        split <;> split <;> rfl
      · rw [lowerBetween_of_ne sigma, lowerBetween_of_ne sigma]
    rw [lowerWithin, lowerWithin, List.map_append, List.map_append, first, ih]

/-- Only a sigma has a lower case form of the sigma. -/
theorem mem_sigmas_of_moveCode {code : Nat}
    (sigma : moveCode lowerRanges code = 0x3c3 ∨ moveCode lowerRanges code = 0x3c2) :
    code = 0x3a3 ∨ code = 0x3c3 ∨ code = 0x3c2 := by
  have sources : ∀ range ∈ lowerRanges,
      range.preimage? 0x3c2 = none ∧ (range.preimage? 0x3c3).all (· = 0x3a3) = true := by
    decide +kernel
  cases moved : lowerRanges.findSome? (·.image? code) with
  | none =>
    rw [moveCode, moved, Option.getD_none] at sigma
    exact .inr sigma
  | some target =>
    rw [moveCode, moved, Option.getD_some] at sigma
    obtain ⟨range, member, image⟩ := List.exists_of_findSome?_eq_some moved
    have source := CaseRange.preimage?_eq_some_iff.mpr image
    obtain ⟨no_source, one_source⟩ := sources range member
    rcases sigma with rfl | rfl
    · rw [source] at one_source
      exact .inl (by simpa using one_source)
    · rw [source] at no_source
      simp at no_source

theorem toNat_ofNat_or_null (code : Nat) :
    (Char.ofNat code).toNat = code ∨ Char.ofNat code = '\x00' := by
  by_cases valid : code.isValidChar
  · have char : Char.ofNat code = Char.ofNatAux code valid := dif_pos valid
    exact .inl (congrArg Char.toNat char)
  · exact .inr (dif_neg valid)

theorem mem_sigmas_of_mem_lowerChar {c d : Char} (formed : d ∈ lowerChar c)
    (sigma : d = 'σ' ∨ d = 'ς') : c ∈ sigmas := by
  unfold lowerChar at formed
  split at formed
  · simp only [List.mem_cons, List.not_mem_nil, or_false] at formed
    rcases formed with rfl | rfl <;> simp at sigma
  · obtain rfl := List.mem_singleton.mp formed
    have target : moveCode lowerRanges c.toNat = 0x3c3 ∨ moveCode lowerRanges c.toNat = 0x3c2 := by
      rcases toNat_ofNat_or_null (moveCode lowerRanges c.toNat) with same | null
      · rw [← same]
        exact sigma.imp (fun first => by rw [first]; rfl) (fun second => by rw [second]; rfl)
      · rw [null] at sigma
        simp at sigma
    rw [← Char.ofNat_toNat c]
    rcases mem_sigmas_of_moveCode target with source | source | source <;> rw [source] <;> decide

/-- Text without a sigma has none in lower case. -/
theorem ne_sigma_of_mem_lowerWithin (plain : ∀ c ∈ text, c ∉ sigmas) :
    ∀ d ∈ lowerWithin before text after, d ≠ 'σ' ∧ d ≠ 'ς' := by
  induction text generalizing before with
  | nil => simp [lowerWithin]
  | cons c rest ih =>
    obtain ⟨other, later⟩ := List.forall_mem_cons.mp plain
    intro d member
    rw [lowerWithin, List.mem_append] at member
    rcases member with formed | member
    · have lowered : c ≠ 'Σ' := fun same => other (same ▸ List.mem_cons_self)
      rw [lowerBetween_of_ne lowered] at formed
      exact ⟨fun first => other (mem_sigmas_of_mem_lowerChar formed (.inl first)),
        fun second => other (mem_sigmas_of_mem_lowerChar formed (.inr second))⟩
    · exact ih later d member

theorem map_joinSigmas_eq_self {cs : List Char} (plain : ∀ c ∈ cs, c ≠ 'ς') :
    cs.map joinSigmas = cs :=
  (List.map_congr_left fun c member => if_neg (plain c member)).trans (List.map_id cs)

/-- Where there is no sigma, taking its two forms for one finds nothing more. -/
theorem infix_map_joinSigmas_iff {part whole : List Char}
    (plain : ∀ d ∈ part, d ≠ 'σ' ∧ d ≠ 'ς') :
    part <:+: whole.map joinSigmas ↔ part <:+: whole := by
  constructor
  · rintro ⟨front, back, joined⟩
    obtain ⟨ahead, behind, rfl, ahead_joined, -⟩ := List.map_eq_append_iff.mp joined.symm
    obtain ⟨first, here, rfl, -, rfl⟩ := List.map_eq_append_iff.mp ahead_joined
    have unjoined : ∀ c ∈ here, c ≠ 'ς' := by
      rintro c member rfl
      exact (plain 'σ' (List.mem_map_of_mem member)).1 rfl
    rw [map_joinSigmas_eq_self unjoined]
    exact List.infix_append first here behind
  · intro part_of
    rw [← map_joinSigmas_eq_self fun d member => (plain d member).2]
    exact part_of.map joinSigmas

/-- What has no sigma is found, regardless of case, in every text around one where it is found. -/
theorem lower_infix_of_plain {value whole : List Char} (plain : ∀ c ∈ value, c ∉ sigmas)
    (found : lowerAfter [] value <:+: lowerAfter [] text) (part : text <:+: whole) :
    lowerAfter [] value <:+: lowerAfter [] whole := by
  have lowered : ∀ d ∈ lowerAfter [] value, d ≠ 'σ' ∧ d ≠ 'ς' := by
    rw [lowerAfter_eq]
    exact ne_sigma_of_mem_lowerWithin plain
  have around : (lowerAfter [] text).map joinSigmas <:+: (lowerAfter [] whole).map joinSigmas := by
    obtain ⟨front, back, rfl⟩ := part
    rw [lowerAfter_eq [] (front ++ text ++ back), List.append_assoc, lowerWithin_append,
      lowerWithin_append, List.map_append, List.map_append, lowerAfter_eq,
      map_joinSigmas_lowerWithin [] (front.reverse ++ []) text [] (back ++ [])]
    exact ⟨_, _, List.append_assoc ..⟩
  rw [← infix_map_joinSigmas_iff lowered] at found ⊢
  exact found.trans around

end Text

namespace Pattern

open Text

variable {value text : String}

theorem contains_accepts_iff :
    (contains value).accepts text = true ↔ value.toList <:+: text.toList :=
  occursIn_eq_true_iff

theorem containsIgnoreCase_accepts_iff :
    (containsIgnoreCase value).accepts text = true ↔
      lowerAfter [] value.toList <:+: lowerAfter [] text.toList :=
  occursIn_eq_true_iff

/-- A search that ignores case finds what one that regards it finds, in whatever text, exactly if
what is looked for is steady. Whatever it finds in a text it finds in every text around that one,
exactly if that one is steady; and if what is looked for has no sigma, it does so in any case. Equal
texts are equal regardless of case, and a text is found in one that equals it regardless of case. -/
theorem ignoringCase_widens (value text : String) :
    (isSteady value.toList = true ↔
        ∀ whole, (contains value).accepts whole = true →
          (containsIgnoreCase value).accepts whole = true) ∧
      (isSteady text.toList = true ↔
        ∀ part, (containsIgnoreCase part).accepts text = true →
          ∀ whole : String, text.toList <:+: whole.toList →
            (containsIgnoreCase part).accepts whole = true) ∧
      ((∀ c ∈ value.toList, c ∉ sigmas) → (containsIgnoreCase value).accepts text = true →
          ∀ whole : String, text.toList <:+: whole.toList →
            (containsIgnoreCase value).accepts whole = true) ∧
      ((equals value).accepts text = true → (equalsIgnoreCase value).accepts text = true) ∧
      ((equalsIgnoreCase value).accepts text = true →
        (containsIgnoreCase value).accepts text = true) := by
  simp only [contains_accepts_iff, containsIgnoreCase_accepts_iff]
  refine ⟨⟨?_, ?_⟩, ⟨?_, ?_⟩, ?_, ?_, ?_⟩
  · exact fun steady whole part => lower_infix_of_isSteady steady part
  · intro widens
    refine isSteady_iff.mpr fun whole part => ?_
    have found := widens (String.ofList whole)
    rw [String.toList_ofList] at found
    exact found part
  · exact fun steady part found whole around =>
      found.trans (lower_infix_of_isSteady steady around)
  · intro widens
    refine isSteady_iff.mpr fun whole part => ?_
    have found := widens text (List.infix_refl _) (String.ofList whole)
    rw [String.toList_ofList] at found
    exact found part
  · exact fun plain found whole around => lower_infix_of_plain plain found around
  · intro same
    obtain rfl : text = value := by simpa [accepts] using same
    simp [accepts]
  · intro same
    have lowered : lower text = lower value := by simpa [accepts] using same
    have within : lower value <:+: lower text := lowered ▸ List.infix_refl (lower text)
    exact within

/-- A word that ends on a capital sigma is found in a longer word, but not when case is ignored,
though then, too, it is found in itself. -/
theorem final_sigma_is_missed :
    (contains "aΣ").accepts "aΣb" = true ∧ (containsIgnoreCase "aΣ").accepts "aΣb" = false ∧
      (containsIgnoreCase "aΣ").accepts "aΣ" = true ∧ "aΣ".toList <:+: "aΣb".toList := by
  decide

end Pattern

end Gleaner
