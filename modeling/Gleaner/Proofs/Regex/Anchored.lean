import Gleaner.Proofs.Regex.Reading

/-! # Patterns between anchors

A pattern that has to match a whole text is put into a group between the two ends of the text, as a
text itself. Three things come of that. A pattern that breaks out of the group may be accepted
though it is not well formed. One that ends in a comment makes the end of the group part of the
comment, and is refused. For all others the group is what it is meant to be, and the anchored
pattern matches exactly the texts that the pattern matches from one end to the other, if it is still
within the limits. What counts is the pattern as it is written: if case was to be ignored when it
was compiled, that is lost.

All this is so for any engine that goes by a lawful dialect; runs are shown with the one that
reads and walks. -/

namespace Gleaner.Pattern

open Regex

section

variable [Regex.Engine] {dialect : Dialect} {pattern text : String} {whole part : Pattern}

theorem ofPattern_eq_ok_iff :
    ofPattern pattern = .ok part ↔
      ∃ regex, compile? pattern = some regex ∧ regexFind regex = part := by
  unfold ofPattern
  cases compile? pattern <;> simp

theorem ofWholePattern_eq_ok_iff :
    ofWholePattern pattern = .ok whole ↔
      ∃ regex, compile? (anchored pattern) = some regex ∧ regexMatch regex = whole := by
  unfold ofWholePattern
  cases compile? (anchored pattern) <;> simp

section

variable (describes : dialect.Describes)

include describes

theorem exists_compile?_iff :
    (∃ regex, compile? pattern = some regex) ↔
      dialect.WellFormed pattern ∧ dialect.Fits false pattern := by
  rw [← describes.accepts false pattern, Option.isSome_iff_exists]
  rfl

theorem exists_ofPattern_iff :
    (∃ part, ofPattern pattern = .ok part) ↔
      dialect.WellFormed pattern ∧ dialect.Fits false pattern := by
  rw [← exists_compile?_iff describes]
  simp [ofPattern_eq_ok_iff, exists_comm]

theorem exists_ofWholePattern_iff :
    (∃ whole, ofWholePattern pattern = .ok whole) ↔
      dialect.WellFormed (anchored pattern) ∧ dialect.Fits false (anchored pattern) := by
  rw [← exists_compile?_iff describes]
  simp [ofWholePattern_eq_ok_iff, exists_comm]

theorem accepts_iff_spansPart (accepted : ofPattern pattern = .ok part) :
    part.accepts text = true ↔ dialect.SpansPart false pattern text := by
  obtain ⟨regex, compiled, rfl⟩ := ofPattern_eq_ok_iff.mp accepted
  exact describes.isMatch compiled text

theorem accepts_iff_spansAll (lawful : dialect.Lawful) (wellFormed : dialect.WellFormed pattern)
    (accepted : ofWholePattern pattern = .ok whole) :
    whole.accepts text = true ↔ dialect.SpansAll false pattern text := by
  have stays : ¬dialect.BreaksOut pattern := fun breaks =>
    lawful.not_wellFormed_of_breaksOut breaks wellFormed
  obtain ⟨anchors, -⟩ := (exists_ofWholePattern_iff describes).mp ⟨whole, accepted⟩
  have complete := (lawful.wellFormed_anchored_iff stays).mp anchors
  obtain ⟨regex, compiled, rfl⟩ := ofWholePattern_eq_ok_iff.mp accepted
  exact (describes.isMatch compiled text).trans (lawful.spansPart_anchored_iff complete)

end

/-- A pattern that breaks out of a group is not well formed. Any other is accepted as a pattern for
whole texts exactly if it is complete, so that the group closes behind it, and if it is within the
limits with the anchors. A well-formed pattern that is accepted both ways accepts the texts that it
matches from one end to the other in the one, those of which it matches a part in the other, and so
never fewer. -/
theorem whole_pattern_in_group (lawful : dialect.Lawful) (describes : dialect.Describes)
    (pattern : String) :
    (dialect.BreaksOut pattern → ¬dialect.WellFormed pattern) ∧
      ((∃ part, ofPattern pattern = .ok part) ↔
        dialect.WellFormed pattern ∧ dialect.Fits false pattern) ∧
      (¬dialect.BreaksOut pattern →
        ((∃ whole, ofWholePattern pattern = .ok whole) ↔
          dialect.Complete pattern ∧ dialect.Fits false (anchored pattern))) ∧
      (dialect.WellFormed pattern → ∀ whole, ofWholePattern pattern = .ok whole →
        ∀ text, whole.accepts text = true ↔ dialect.SpansAll false pattern text) ∧
      ∀ whole part, ofWholePattern pattern = .ok whole → ofPattern pattern = .ok part →
        ∀ text, (part.accepts text = true ↔ dialect.SpansPart false pattern text) ∧
          (whole.accepts text = true → part.accepts text = true) := by
  refine ⟨lawful.not_wellFormed_of_breaksOut, exists_ofPattern_iff describes, fun stays => ?_,
    fun wellFormed whole accepted text => accepts_iff_spansAll describes lawful wellFormed accepted,
    fun whole part all any text => ?_⟩
  · rw [exists_ofWholePattern_iff describes, lawful.wellFormed_anchored_iff stays]
  · obtain ⟨wellFormed, -⟩ := (exists_ofPattern_iff describes).mp ⟨part, any⟩
    have part_iff : part.accepts text = true ↔ _ := accepts_iff_spansPart describes any
    have whole_iff : whole.accepts text = true ↔ _ :=
      accepts_iff_spansAll describes lawful wellFormed all
    exact ⟨part_iff, fun accepts => part_iff.mpr (whole_iff.mp accepts).spansPart⟩

/-- A compiled pattern is anchored by its text, so it matches whole texts with the meaning that the
text has when case counts, whatever it was compiled with. It is refused only if its text ends in a
comment or is beyond the limits with the anchors. -/
theorem fullMatch_by_text (lawful : dialect.Lawful) (describes : dialect.Describes)
    {ignoreCase : Bool} {regex : Regex} (compiled : compileWith? ignoreCase pattern = some regex) :
    (∀ text, regex.isMatch text = true ↔ dialect.SpansPart ignoreCase pattern text) ∧
      ((∃ whole, fullMatch regex = .ok whole) ↔
        ¬dialect.WellFormed (pattern ++ ")") ∧ dialect.Fits false (anchored pattern)) ∧
      ∀ whole, fullMatch regex = .ok whole →
        ∀ text, whole.accepts text = true ↔ dialect.SpansAll false pattern text := by
  obtain ⟨wellFormed, -⟩ := (describes.accepts ignoreCase pattern).mp
    (Option.isSome_iff_exists.mpr ⟨regex, compiled⟩)
  have stays : ¬dialect.BreaksOut pattern := fun breaks =>
    lawful.not_wellFormed_of_breaksOut breaks wellFormed
  have complete : dialect.Complete pattern ↔ ¬dialect.WellFormed (pattern ++ ")") :=
    and_iff_right wellFormed
  rw [fullMatch, describes.pattern compiled]
  refine ⟨describes.isMatch compiled, ?_,
    fun whole accepted text => accepts_iff_spansAll describes lawful wellFormed accepted⟩
  rw [exists_ofWholePattern_iff describes, lawful.wellFormed_anchored_iff stays, complete]

end

theorem whole_pattern_in_group_alternatives :
    ∃ whole part, ofWholePattern "a|b" = .ok whole ∧ ofPattern "a|b" = .ok part ∧
      ∀ text, (whole.accepts text = true ↔ reading.SpansAll false "a|b" text) ∧
        (part.accepts text = true ↔ reading.SpansPart false "a|b" text) := by
  obtain ⟨-, accepted, -, all, both⟩ :=
    whole_pattern_in_group lawful_reading describes_reading "a|b"
  have whole : ofWholePattern "a|b" = .ok _ := rfl
  have part : ofPattern "a|b" = .ok _ := rfl
  have wellFormed := (accepted.mp ⟨_, part⟩).1
  exact ⟨_, _, whole, part, fun text => ⟨all wellFormed _ whole text, (both _ _ whole part text).1⟩⟩

/-- A pattern that breaks out is accepted, and then accepts texts of which a part is enough. One
that ends in a comment is well formed and is not accepted. -/
theorem stray_parenthesis_is_accepted :
    (∃ whole, ofWholePattern "a)|(?:b" = .ok whole ∧ whole.accepts "ax" = true) ∧
      ofPattern "a)|(?:b" = .error (.invalidRegex "a)|(?:b") ∧
      (∃ part, ofPattern "(?x)a # letter" = .ok part) ∧
      ofWholePattern "(?x)a # letter" = .error (.invalidRegex "(?x)a # letter") := by
  -- each branch is anchored at one end only
  have occurs : (Expr.alt
      (.seq (.look .textStart) (.seq (.seq (.chars (.single 'a')) .empty) .empty))
      (.seq (.seq (.chars (.single 'b')) .empty) (.seq (.look .textEnd) .empty))).occursIn
        ['a', 'x'] = true := by
    refine Expr.occursIn_iff.mpr ⟨0, 1, Nat.zero_le _, .inl ⟨0, ⟨rfl, rfl⟩, 1, ?_, rfl⟩⟩
    exact ⟨1, ⟨rfl, 'a', by decide, by decide⟩, rfl⟩
  exact ⟨⟨_, rfl, occurs⟩, rfl, ⟨_, rfl⟩, rfl⟩

theorem fullMatch_by_text_letter :
    ∃ regex whole, compileWith? true "a" = some regex ∧ fullMatch regex = .ok whole ∧
      ∀ text, whole.accepts text = true ↔ reading.SpansAll false "a" text := by
  have compiled : compileWith? true "a" = some _ := rfl
  obtain ⟨-, -, all⟩ := fullMatch_by_text lawful_reading describes_reading compiled
  exact ⟨_, _, compiled, rfl, all _ rfl⟩

/-- Compiled without regard to case, a letter matches its capital; anchored, it does not. -/
theorem fullMatch_regards_case :
    ∃ regex whole, compileWith? true "a" = some regex ∧ reading.SpansAll true "a" "A" ∧
      fullMatch regex = .ok whole ∧ whole.accepts "A" = false := by
  refine ⟨_, _, rfl, ⟨Nat.zero_le _, _, rfl, 1, ⟨rfl, 'A', by decide, by decide⟩, rfl⟩, rfl, ?_⟩
  refine eq_false_of_ne_true fun accepts => ?_
  have wellFormed : reading.WellFormed "a" := ⟨_, rfl, rfl⟩
  obtain ⟨-, s, reads, spans⟩ :=
    (accepts_iff_spansAll describes_reading lawful_reading wellFormed rfl).mp accepts
  obtain rfl := Option.some.inj reads
  obtain ⟨k, ⟨-, c, there, holds⟩, -⟩ := spans
  obtain rfl : 'A' = c := Option.some.inj there
  revert holds
  decide

end Gleaner.Pattern
