import Gleaner.Text.Quoted

/-! # Values on one line

How patterns, element specs, instructions and settings read in messages and logs. A value is
first described by a small tree of names, fields and items, and the tree has one printed form. -/

namespace Gleaner

/-- The description of a value. -/
inductive Display where
  /-- A name or number standing for itself. -/
  | atom (text : String)
  /-- A text, shown as a quotation. -/
  | quote (text : String)
  /-- A name applied to values, as in `Some("x")`. -/
  | applied (name : String) (values : List Display)
  /-- A name with labelled values, as in `EndLoop` with its `loop_id`. -/
  | record (name : String) (fields : List (String × Display))
  /-- Values in order. -/
  | items (values : List Display)

namespace Display

/-- A truth value. -/
def flag (value : Bool) : Display := atom (if value then "true" else "false")

/-- A number. -/
def number (value : Nat) : Display := atom (toString value)

/-- A value that may be missing. -/
def optional {α : Type} (describe : α → Display) : Option α → Display
  | none => atom "None"
  | some value => applied "Some" [describe value]

mutual

/-- The printed form of a description. -/
def render : Display → String
  | atom text => text
  | quote text => Text.quoted text
  | applied name values => name ++ "(" ++ renderAll values ++ ")"
  | record name fields => name ++ " \x7b " ++ renderFields fields ++ " \x7d"
  | items values => "[" ++ renderAll values ++ "]"

/-- Descriptions one after the other, with commas between them. -/
def renderAll : List Display → String
  | [] => ""
  | [value] => value.render
  | value :: rest => value.render ++ ", " ++ renderAll rest

/-- Labelled descriptions one after the other, with commas between them. -/
def renderFields : List (String × Display) → String
  | [] => ""
  | [(label, value)] => label ++ ": " ++ value.render
  | (label, value) :: rest => label ++ ": " ++ value.render ++ ", " ++ renderFields rest

end

end Display

end Gleaner
