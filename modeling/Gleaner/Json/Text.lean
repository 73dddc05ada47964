import Gleaner.Text.Digit

/-! # The small parts of JSON text

White space, words, strings and numbers. A reader takes characters from the front of a text and
gives what it read with the rest, or the first fault from the left. -/

namespace Gleaner.Json

open Gleaner.Text

/-- What is wrong with a text. -/
inductive Fault where
  /-- The text is JSON so far, but not what was asked for. -/
  | data
  /-- The text is not JSON. -/
  | malformed
  /-- The text ends too early. -/
  | truncated

/-- Takes a value from the front of a text. -/
abbrev Reader (α : Type) := List Char → Except Fault (α × List Char)

/-- The white space of JSON. -/
def isSpace (c : Char) : Bool := c = ' ' || c = '\n' || c = '\t' || c = '\r'

/-- The text without white space in front. -/
def skipSpace (cs : List Char) : List Char := cs.dropWhile isSpace

/-- The fault of a text that goes on as it should not, or ends where it should not. -/
def unexpected : List Char → Fault
  | [] => .truncated
  | _ => .malformed

/-- Reads the given characters. -/
def readWord : List Char → Reader Unit
  | [], cs => .ok ((), cs)
  | _ :: _, [] => .error .truncated
  | w :: word, c :: cs => if w = c then readWord word cs else .error .malformed

/-- Reads the four digits of an escape. What is too short for them in bytes ends too early. -/
def readHex (cs : List Char) : Except Fault (Nat × List Char) :=
  match cs with
  | a :: b :: c :: d :: rest =>
    if [a, b, c, d].all fun c => (digitValue? 16 c).isSome then
      .ok (digitsValue 16 [a, b, c, d], rest)
    else .error .malformed
  | short => .error (if (String.ofList short).utf8ByteSize < 4 then .truncated else .malformed)

/-- What a character stands for after a backslash, the escape by number apart. -/
def escaped? (c : Char) : Option Char :=
  match c with
  | '"' => some '"'
  | '\\' => some '\\'
  | '/' => some '/'
  | 'b' => some '\x08'
  | 'f' => some '\x0c'
  | 'n' => some '\n'
  | 'r' => some '\r'
  | 't' => some '\t'
  | _ => none

/-- Reads the character of an escape by number, which may take two of them. -/
def readUnit (cs : List Char) : Except Fault (Char × List Char) := do
  let (first, rest) ← readHex cs
  if first < 0xd800 ∨ 0xdfff < first then return (Char.ofNat first, rest)
  if 0xdc00 ≤ first then throw .malformed
  match rest with
  | '\\' :: 'u' :: rest =>
    let (second, rest) ← readHex rest
    if second < 0xdc00 ∨ 0xdfff < second then throw .malformed
    return (Char.ofNat (0x10000 + (first - 0xd800) * 0x400 + (second - 0xdc00)), rest)
  | [] => throw .truncated
  | ['\\'] => throw .truncated
  | _ => throw .malformed

/-- Passes over the digits of an escape by number, whatever they stand for. -/
def skipUnit (cs : List Char) : Except Fault (Char × List Char) :=
  (readHex cs).map fun (_, rest) => ('\ufffd', rest)

/-- Reads a string after its opening quote; `unit` reads escapes by number. `budget` is at least
the number of characters, and `read` holds what was read before, last first. -/
def readStringWith (unit : Reader Char) : Nat → List Char → Reader (List Char)
  | _, _, [] => .error .truncated
  | 0, _, _ => .error .malformed
  | _, read, '"' :: rest => .ok (read.reverse, rest)
  | _, _, ['\\'] => .error .truncated
  | budget + 1, read, '\\' :: 'u' :: rest =>
    match unit rest with
    | .ok (c, rest) => readStringWith unit budget (c :: read) rest
    | .error fault => .error fault
  | budget + 1, read, '\\' :: c :: rest =>
    match escaped? c with
    | some c => readStringWith unit budget (c :: read) rest
    | none => .error .malformed
  | budget + 1, read, c :: rest =>
    if c.toNat < 0x20 then .error .malformed else readStringWith unit budget (c :: read) rest

/-- Reads a string after its opening quote. -/
def readString : Reader String := fun cs =>
  (readStringWith readUnit cs.length [] cs).map fun (content, rest) =>
    (String.ofList content, rest)

/-- Passes over a string after its opening quote, without regard to what its escapes by number
stand for. -/
def skipString (cs : List Char) : Except Fault (List Char) :=
  (readStringWith skipUnit cs.length [] cs).map (·.2)

/-- A number as it is written: its sign, its digits before and after the point, and its
exponent. -/
structure Numeral where
  negative : Bool
  whole : List Char
  fraction : List Char
  exponent : Int
  /-- Whether there is neither a point nor an exponent. -/
  isWhole : Bool

/-- Reads digits, at least one. -/
def readDigits : Reader (List Char) := fun cs =>
  match cs.takeWhile Char.isDigit with
  | [] => .error (unexpected cs)
  | digits => .ok (digits, cs.dropWhile Char.isDigit)

/-- Reads the part of a number before the point; a zero stands alone there. -/
def readWhole : Reader (List Char)
  | '0' :: rest =>
    match rest with
    | c :: _ => if c.isDigit then .error .malformed else .ok (['0'], rest)
    | [] => .ok (['0'], [])
  | cs => readDigits cs

/-- Reads the number that digits write. -/
def readNatural : Reader Nat := fun cs =>
  (readDigits cs).map fun (digits, rest) => (digitsValue 10 digits, rest)

/-- Reads the exponent of a number after its letter. -/
def readExponent : Reader Int
  | '-' :: rest => (readNatural rest).map fun (n, rest) => (-(n : Int), rest)
  | '+' :: rest => (readNatural rest).map fun (n, rest) => ((n : Int), rest)
  | cs => (readNatural cs).map fun (n, rest) => ((n : Int), rest)

/-- Reads a number. -/
def readNumeral : Reader Numeral := fun cs => do
  let negative := cs.head? = some '-'
  let (whole, rest) ← readWhole (if negative then cs.drop 1 else cs)
  let (fraction, rest) ←
    match rest with
    | '.' :: rest => readDigits rest
    | rest => pure ([], rest)
  let (exponent, rest) ←
    match rest with
    | 'e' :: rest => (readExponent rest).map fun (e, rest) => (some e, rest)
    | 'E' :: rest => (readExponent rest).map fun (e, rest) => (some e, rest)
    | rest => pure (none, rest)
  let isWhole := fraction.isEmpty && exponent.isNone
  return (⟨negative, whole, fraction, exponent.getD 0, isWhole⟩, rest)

namespace Numeral

/-- The largest natural number of 64 bits. -/
def maxWord : Nat := 0xffffffffffffffff

/-- Appends digits to a number as long as 64 bits hold it, and counts those that are left. -/
def appendDigits (value : Nat) : List Char → Nat × Nat
  | [] => (value, 0)
  | digit :: digits =>
    let longer := value * 10 + digitsValue 10 [digit]
    if longer ≤ maxWord then appendDigits longer digits else (value, digits.length + 1)

/-- The digits that count for the size of a number, and the power of ten that scales them. Those
after the point may be taken up although some before it were left out. -/
def scaled (n : Numeral) : Nat × Int :=
  let (value, left) := appendDigits 0 n.whole
  let (value, unused) := appendDigits value n.fraction
  (value, n.exponent + left - (n.fraction.length - unused : Nat))

/-- The nearest number that has no more than 53 binary digits before its zeros; of two such
numbers, the one whose digits are even. -/
def roundDouble (n : Nat) : Nat :=
  let unit := 1 <<< (n.log2 - 52)
  let digits := n / unit
  let rest := 2 * (n % unit)
  let up := unit < rest || (rest = unit && digits % 2 = 1)
  (digits + up.toNat) * unit

/-- The least number that is nearer to 2^1024 than to any binary number of double precision. -/
def overflow : Nat := (1 <<< 1024) - (1 <<< 970)

/-- The largest power of ten of double precision. -/
def maxPower : Int := 308

/-- Whether a number is too large for double precision when it is worked out as a product of its
digits and a power of ten, each rounded first. -/
def isTooLarge (n : Numeral) : Bool :=
  let (digits, power) := n.scaled
  if digits = 0 || power < 0 then false
  else if maxPower < power then true
  else overflow ≤ roundDouble digits * roundDouble (Nat.pow 10 power.toNat)

/-- The natural number that is written, if it is one of 64 bits. -/
def word? (n : Numeral) : Option Nat :=
  let value := digitsValue 10 n.whole
  if !n.negative && n.isWhole && value ≤ maxWord then some value else none

end Numeral

end Gleaner.Json
