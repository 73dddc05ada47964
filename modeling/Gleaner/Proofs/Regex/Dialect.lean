import Gleaner.Pattern

/-! # Dialects

What is to be known of an engine in order to say what becomes of a pattern between anchors: which
patterns are well formed, which of these are within the limits on nesting and size, and what they
match. Of the syntax only groups and the two ends of a text play a part. A group closes behind a
pattern that is complete by itself, where the closing parenthesis is not part of a comment; what is
behind it stands in a row with the group, and means what follows. -/

namespace Gleaner.Regex

/-- The patterns that an engine accepts, and what they mean. -/
structure Dialect where
  /-- Whether a pattern keeps to the syntax. -/
  WellFormed (pattern : String) : Prop
  /-- Whether a pattern is within the limits. -/
  Fits (ignoreCase : Bool) (pattern : String) : Prop
  /-- Whether a pattern matches the stretch of a text between two positions. -/
  Spans (ignoreCase : Bool) (pattern text : String) (i j : Nat) : Prop

namespace Dialect

/-- A group around a pattern. -/
def group (pattern : String) : String := "(?:" ++ pattern ++ ")"

section

variable (dialect : Dialect)

/-- Whether a pattern matches a text from one end to the other. -/
def SpansAll (ignoreCase : Bool) (pattern text : String) : Prop :=
  dialect.Spans ignoreCase pattern text 0 text.length

/-- Whether a pattern matches a stretch of a text. -/
def SpansPart (ignoreCase : Bool) (pattern text : String) : Prop :=
  ∃ i j, dialect.Spans ignoreCase pattern text i j

/-- Whether a pattern is well formed and a closing parenthesis behind it closes what is around it.
If the pattern ends in a comment, the parenthesis is part of that, and then the two together are
well formed. -/
def Complete (pattern : String) : Prop :=
  dialect.WellFormed pattern ∧ ¬dialect.WellFormed (pattern ++ ")")

/-- Whether a pattern closes a group that it has not opened. -/
def BreaksOut (pattern : String) : Prop :=
  ∃ inner rest, pattern = inner ++ ")" ++ rest ∧ dialect.Complete inner

/-- A group with ends of the text beside it. -/
inductive Row : String → Prop
  | group {pattern : String} (complete : dialect.Complete pattern) : Row (group pattern)
  | textStart {pattern : String} (row : Row pattern) : Row ("\\A" ++ pattern)
  | textEnd {pattern : String} (row : Row pattern) : Row (pattern ++ "\\z")

/-- The rules of the syntax. -/
structure Lawful : Prop where
  /-- A parenthesis that closes nothing is a mistake, whatever follows. -/
  unopened {pattern : String} (complete : dialect.Complete pattern) (rest : String) :
    ¬dialect.WellFormed (pattern ++ ")" ++ rest)
  /-- A group that is opened is closed behind a complete pattern. -/
  closed {pattern : String} (wellFormed : dialect.WellFormed ("\\A(?:" ++ pattern)) :
    ∃ inner rest, pattern = inner ++ ")" ++ rest ∧ dialect.Complete inner
  /-- A group is well formed, and ends of the text may stand beside it. -/
  row {pattern : String} (row : dialect.Row pattern) : dialect.WellFormed pattern
  /-- A group matches what is in it. -/
  spans_group {pattern : String} (complete : dialect.Complete pattern) {ignoreCase : Bool}
    {text : String} {i j : Nat} :
    dialect.Spans ignoreCase (group pattern) text i j ↔ dialect.Spans ignoreCase pattern text i j
  /-- What follows on the start of a text matches only there. -/
  spans_textStart {pattern : String} (row : dialect.Row pattern) {ignoreCase : Bool}
    {text : String} {i j : Nat} :
    dialect.Spans ignoreCase ("\\A" ++ pattern) text i j ↔
      i = 0 ∧ dialect.Spans ignoreCase pattern text i j
  /-- What the end of a text follows on matches only up to there. -/
  spans_textEnd {pattern : String} (row : dialect.Row pattern) {ignoreCase : Bool}
    {text : String} {i j : Nat} :
    dialect.Spans ignoreCase (pattern ++ "\\z") text i j ↔
      j = text.length ∧ dialect.Spans ignoreCase pattern text i j

/-- Whether an engine goes by a dialect: it accepts the well-formed patterns within the limits, and
finds what they match. -/
structure Describes [Engine] : Prop where
  accepts (ignoreCase : Bool) (pattern : String) :
    (compileWith? ignoreCase pattern).isSome = true ↔
      dialect.WellFormed pattern ∧ dialect.Fits ignoreCase pattern
  pattern {ignoreCase : Bool} {pattern : String} {regex : Regex}
    (compiled : compileWith? ignoreCase pattern = some regex) : regex.pattern = pattern
  isMatch {ignoreCase : Bool} {pattern : String} {regex : Regex}
    (compiled : compileWith? ignoreCase pattern = some regex) (text : String) :
    regex.isMatch text = true ↔ dialect.SpansPart ignoreCase pattern text

end

variable {dialect : Dialect} {pattern text : String} {ignoreCase : Bool}

theorem SpansAll.spansPart (all : dialect.SpansAll ignoreCase pattern text) :
    dialect.SpansPart ignoreCase pattern text :=
  ⟨0, text.length, all⟩

/-- Behind the last place where a character stands, it stands nowhere else. -/
theorem append_cons_cases {x : Char} {front tail before rest : List Char} (last : x ∉ tail)
    (same : front ++ x :: tail = before ++ x :: rest) :
    front = before ∨ ∃ mid, front = before ++ x :: mid := by
  rcases List.append_eq_append_iff.mp same with ⟨mid, split, behind⟩ | ⟨mid, split, behind⟩
  · cases mid with
    | nil => exact .inl (by rw [split, List.append_nil])
    | cons c mid =>
      rw [List.cons_append, List.cons.injEq] at behind
      exact absurd (behind.2 ▸ List.mem_append_right mid List.mem_cons_self) last
  · cases mid with
    | nil => exact .inl (by rw [split, List.append_nil])
    | cons c mid =>
      rw [List.cons_append, List.cons.injEq] at behind
      exact .inr ⟨mid, by rw [split, behind.1]⟩

theorem anchored_eq_row (pattern : String) :
    Pattern.anchored pattern = "\\A" ++ group pattern ++ "\\z" := by
  have opening : "\\A(?:" = "\\A" ++ "(?:" := by decide
  have closing : ")\\z" = ")" ++ "\\z" := by decide
  simp only [Pattern.anchored, group, opening, closing, String.append_assoc]

theorem Row.anchored (complete : dialect.Complete pattern) :
    dialect.Row (Pattern.anchored pattern) := by
  rw [anchored_eq_row]
  exact .textEnd (.textStart (.group complete))

namespace Lawful

variable (lawful : dialect.Lawful)

include lawful

/-- What breaks out is not well formed. -/
theorem not_wellFormed_of_breaksOut (breaks : dialect.BreaksOut pattern) :
    ¬dialect.WellFormed pattern := by
  obtain ⟨inner, rest, rfl, complete⟩ := breaks
  exact lawful.unopened complete rest

/-- A pattern that does not break out is well formed between anchors exactly if it is complete. -/
theorem wellFormed_anchored_iff (stays : ¬dialect.BreaksOut pattern) :
    dialect.WellFormed (Pattern.anchored pattern) ↔ dialect.Complete pattern := by
  constructor
  · intro wellFormed
    rw [Pattern.anchored, String.append_assoc] at wellFormed
    obtain ⟨inner, rest, split, complete⟩ := lawful.closed wellFormed
    -- The group closes at the parenthesis behind the pattern, or at one in it.
    have places : pattern.toList ++ ')' :: ['\\', 'z'] = inner.toList ++ ')' :: rest.toList := by
      have chars := congrArg String.toList split
      rwa [String.append_assoc, String.toList_append, String.toList_append,
        String.toList_append] at chars
    rcases append_cons_cases (by decide) places with same | ⟨mid, within⟩
    · rwa [String.toList_inj.mp same]
    · refine absurd ⟨inner, String.ofList mid, ?_, complete⟩ stays
      rw [← String.toList_inj, within]
      simp
  · exact fun complete => lawful.row (.anchored complete)

theorem spansPart_anchored_iff (complete : dialect.Complete pattern) :
    dialect.SpansPart ignoreCase (Pattern.anchored pattern) text ↔
      dialect.SpansAll ignoreCase pattern text := by
  have spans (i j : Nat) : dialect.Spans ignoreCase (Pattern.anchored pattern) text i j ↔
      j = text.length ∧ i = 0 ∧ dialect.Spans ignoreCase pattern text i j := by
    rw [anchored_eq_row, lawful.spans_textEnd (.textStart (.group complete)),
      lawful.spans_textStart (.group complete), lawful.spans_group complete]
  constructor
  · rintro ⟨i, j, found⟩
    obtain ⟨rfl, rfl, all⟩ := (spans i j).mp found
    exact all
  · exact fun all => ⟨0, text.length, (spans _ _).mpr ⟨rfl, rfl, all⟩⟩

end Lawful

end Dialect

end Gleaner.Regex
