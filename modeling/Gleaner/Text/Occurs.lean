/-! # Occurrence of one text in another -/

namespace Gleaner.Text

/-- Whether `part` is a run of neighbouring members of the list. -/
def occursIn {α : Type} [BEq α] (part : List α) : List α → Bool
  | [] => part.isEmpty
  | x :: rest => part.isPrefixOf (x :: rest) || occursIn part rest

theorem occursIn_eq_true_iff {α : Type} [BEq α] [LawfulBEq α] {part whole : List α} :
    occursIn part whole = true ↔ part <:+: whole := by
  induction whole with
  | nil => simp [occursIn]
  | cons x rest ih => simp [occursIn, ih, List.infix_cons_iff]

end Gleaner.Text
