import Gleaner.Json.Text

/-! # Reading records

A record is read from an object or from an array that has the fields in order. In an object
unknown keys are passed over, and no field may come twice. Of several faults the first from the
left is reported: that a field is missing shows at the end of the record, that it comes again at
its key. -/

namespace Gleaner.Json

/-- Passes over a number. One that is cut short by the end of the text has no other fault here
than one that goes on as it should not. -/
def skipNumeral (cs : List Char) : Except Fault (List Char) :=
  match readNumeral cs with
  | .ok (_, rest) => .ok rest
  | .error _ => .error .malformed

mutual

/-- Passes over a value. `budget` is at least twice the number of characters. -/
def skipValue : Nat → List Char → Except Fault (List Char)
  | 0, _ => .error .malformed
  | budget + 1, cs =>
    match skipSpace cs with
    | 'n' :: rest => (readWord ['u', 'l', 'l'] rest).map (·.2)
    | 't' :: rest => (readWord ['r', 'u', 'e'] rest).map (·.2)
    | 'f' :: rest => (readWord ['a', 'l', 's', 'e'] rest).map (·.2)
    | '"' :: rest => skipString rest
    | '[' :: rest =>
      match skipSpace rest with
      | ']' :: rest => .ok rest
      | [] => .error .truncated
      | rest => skipItems budget rest
    | '\x7b' :: rest =>
      match skipSpace rest with
      | '\x7d' :: rest => .ok rest
      | rest => skipMembers budget rest
    | c :: rest =>
      if c.isDigit || c = '-' then skipNumeral (c :: rest) else .error .malformed
    | [] => .error .truncated

/-- Passes over the items of an array and its end. -/
def skipItems : Nat → List Char → Except Fault (List Char)
  | 0, _ => .error .malformed
  | budget + 1, cs =>
    match skipValue budget cs with
    | .error fault => .error fault
    | .ok rest =>
      match skipSpace rest with
      | ',' :: rest => skipItems budget rest
      | ']' :: rest => .ok rest
      | rest => .error (unexpected rest)

/-- Passes over the members of an object and its end. -/
def skipMembers : Nat → List Char → Except Fault (List Char)
  | 0, _ => .error .malformed
  | budget + 1, cs =>
    match skipSpace cs with
    | '"' :: rest =>
      match skipString rest with
      | .error fault => .error fault
      | .ok rest =>
        match skipSpace rest with
        | ':' :: rest =>
          match skipValue budget rest with
          | .error fault => .error fault
          | .ok rest =>
            match skipSpace rest with
            | ',' :: rest => skipMembers budget rest
            | '\x7d' :: rest => .ok rest
            | rest => .error (unexpected rest)
        | rest => .error (unexpected rest)
    | rest => .error (unexpected rest)

end

/-- The fault of a value of the wrong kind: a scalar is read first, and may have a fault of its
own. -/
def wrongKind (cs : List Char) : Fault :=
  let after {α : Type} (result : Except Fault α) : Fault :=
    match result with
    | .ok _ => .data
    | .error fault => fault
  match cs with
  | 'n' :: rest => after (readWord ['u', 'l', 'l'] rest)
  | 't' :: rest => after (readWord ['r', 'u', 'e'] rest)
  | 'f' :: rest => after (readWord ['a', 'l', 's', 'e'] rest)
  | '"' :: rest => after (readString rest)
  | '[' :: _ => .data
  | '\x7b' :: _ => .data
  | c :: rest =>
    if c.isDigit || c = '-' then
      match readNumeral (c :: rest) with
      | .ok (n, _) => if n.isTooLarge then .malformed else .data
      | .error fault => fault
    else .malformed
  | [] => .truncated

/-- Reads a truth value. -/
def readFlag : Reader Bool := fun cs =>
  match skipSpace cs with
  | 't' :: rest => (readWord ['r', 'u', 'e'] rest).map fun (_, rest) => (true, rest)
  | 'f' :: rest => (readWord ['a', 'l', 's', 'e'] rest).map fun (_, rest) => (false, rest)
  | cs => .error (wrongKind cs)

/-- Reads a natural number of 64 bits. -/
def readWord64 : Reader Nat := fun cs =>
  let cs := skipSpace cs
  match readNumeral cs with
  | .ok (n, rest) =>
    match n.word? with
    | some value => .ok (value, rest)
    | none => .error (wrongKind cs)
  | .error _ => .error (wrongKind cs)

/-- Reads a string. -/
def readText : Reader String := fun cs =>
  match skipSpace cs with
  | '"' :: rest => readString rest
  | cs => .error (wrongKind cs)

/-- Reads a value or `null`. -/
def readOptional {α : Type} (read : Reader α) : Reader (Option α) := fun cs =>
  match skipSpace cs with
  | 'n' :: rest => (readWord ['u', 'l', 'l'] rest).map fun (_, rest) => (none, rest)
  | cs => (read cs).map fun (value, rest) => (some value, rest)

/-- The key that comes next in an object, without its opening quote; or the end of the object. -/
inductive NextKey where
  | key (rest : List Char)
  | done (rest : List Char)

/-- Finds the next key of an object, or its end. -/
def nextKey (first : Bool) (cs : List Char) : Except Fault NextKey :=
  match skipSpace cs with
  | '\x7d' :: rest => .ok (.done rest)
  | [] => .error .truncated
  | ',' :: rest =>
    if first then .error .malformed
    else
      match skipSpace rest with
      | '"' :: rest => .ok (.key rest)
      | rest => .error (unexpected rest)
  | '"' :: rest => if first then .ok (.key rest) else .error .malformed
  | _ => .error .malformed

/-- Reads the colon after a key. -/
def readColon (cs : List Char) : Except Fault (List Char) :=
  match skipSpace cs with
  | ':' :: rest => .ok rest
  | rest => .error (unexpected rest)

/-- Reads an object whose values are all of one kind, after its bracket. -/
def readMembers {α : Type} (read : Reader α) :
    Nat → Bool → List (String × α) → Reader (List (String × α))
  | 0, _, _, _ => .error .malformed
  | budget + 1, first, members, cs => do
    match ← nextKey first cs with
    | .done rest => return (members.reverse, rest)
    | .key rest =>
      let (key, rest) ← readString rest
      let (value, rest) ← read (← readColon rest)
      readMembers read budget false ((key, value) :: members) rest

/-- Reads an object whose values are all of one kind. -/
def readObjectOf {α : Type} (read : Reader α) : Reader (List (String × α)) := fun cs =>
  match skipSpace cs with
  | '\x7b' :: rest => readMembers read (rest.length + 1) true [] rest
  | cs => .error (wrongKind cs)

/-- A field of a record of type `σ`: its key, a reader for its value, and whether an object has
to have it. -/
structure Field (σ : Type) where
  key : String
  read : Reader (σ → σ)
  required : Bool

/-- A kind of records: the fields, the record that has none of them, and whether an array may
end before the last field. -/
structure Shape (σ : Type) where
  fields : List (Field σ)
  blank : σ
  shortArrays : Bool

namespace Shape

variable {σ : Type}

/-- Reads the members of an object and its end. `seen` holds the keys of fields that were read. -/
def readObject (shape : Shape σ) : Nat → Bool → List String → σ → Reader σ
  | 0, _, _, _, _ => .error .malformed
  | budget + 1, first, seen, record, cs => do
    match ← nextKey first cs with
    | .done rest =>
      if shape.fields.any fun field => field.required && !seen.contains field.key then
        throw .data
      return (record, rest)
    | .key rest =>
      let (key, rest) ← readString rest
      match shape.fields.find? (·.key = key) with
      | none =>
        let rest ← readColon rest
        let rest ← skipValue (2 * rest.length + 2) rest
        shape.readObject budget false seen record rest
      | some field =>
        if seen.contains key then throw .data
        let (update, rest) ← field.read (← readColon rest)
        shape.readObject budget false (key :: seen) (update record) rest

/-- Reads the rest of an array from the given fields on. -/
def readArray (shape : Shape σ) : List (Field σ) → Bool → σ → Reader σ
  | [], first, record, cs =>
    match skipSpace cs with
    | ']' :: rest => .ok (record, rest)
    | [] => .error .truncated
    | _ => if first then .error .data else .error .malformed
  | field :: fields, first, record, cs =>
    match skipSpace cs with
    | ']' :: rest => if shape.shortArrays then .ok (record, rest) else .error .data
    | [] => .error .truncated
    | ',' :: rest =>
      if first then readField field fields record (',' :: rest)
      else
        match skipSpace rest with
        | ']' :: _ => .error .malformed
        | [] => .error .truncated
        | rest => readField field fields record rest
    | rest => if first then readField field fields record rest else .error .malformed
where
  /-- Reads the value of a field and goes on behind it. -/
  readField (field : Field σ) (fields : List (Field σ)) (record : σ) (cs : List Char) :
      Except Fault (σ × List Char) := do
    let (update, rest) ← field.read cs
    shape.readArray fields false (update record) rest

/-- Reads a record. -/
def read (shape : Shape σ) : Reader σ := fun cs =>
  match skipSpace cs with
  | '[' :: rest => shape.readArray shape.fields true shape.blank rest
  | '\x7b' :: rest => shape.readObject (rest.length + 1) true [] shape.blank rest
  | cs => .error (wrongKind cs)

/-- The record that a text holds, with nothing after it. -/
def readText (shape : Shape σ) (text : String) : Except Fault σ := do
  let (record, rest) ← shape.read text.toList
  if (skipSpace rest).isEmpty then return record else throw .malformed

end Shape

end Gleaner.Json
