import Gleaner.Regex.Expr
import Gleaner.Text.Digit

/-! # Reading an escape

What a backslash begins, read one character at a time: a character by its code point or by a
letter, a punctuation mark that stands for itself, an abbreviation for a set, or a condition on
a position. -/

namespace Gleaner.Regex.Reader

open Gleaner.Text

/-- What an escape stands for. -/
inductive EscapeValue where
  | char (c : Char)
  | set (s : CharSet)
  | look (a : Assertion)

/-- How far an escape has been read. -/
inductive Escape where
  /-- After the backslash. -/
  | start
  /-- After the letter that announces a code point of `digits` digits or between braces. -/
  | code (digits : Nat)
  /-- Inside a code point of which `missing` digits are still to come. -/
  | fixed (missing value : Nat)
  /-- Inside a code point between braces; `begun` after its first digit. -/
  | braced (begun : Bool) (value : Nat)

/-- The character of a code point, if it is one. -/
def charOf? (code : Nat) : Option Char :=
  if code.isValidChar then some (Char.ofNat code) else none

/-- What a letter or punctuation mark stands for after a backslash. -/
def escaped? (c : Char) : Option EscapeValue :=
  match c with
  | 'd' => some (.set (.property .digit))
  | 's' => some (.set (.property .space))
  | 'w' => some (.set (.property .word))
  | 'D' => some (.set (.compl (.property .digit)))
  | 'S' => some (.set (.compl (.property .space)))
  | 'W' => some (.set (.compl (.property .word)))
  | 'a' => some (.char '\x07')
  | 'f' => some (.char '\x0c')
  | 't' => some (.char '\t')
  | 'n' => some (.char '\n')
  | 'r' => some (.char '\r')
  | 'v' => some (.char '\x0b')
  | 'A' => some (.look .textStart)
  | 'z' => some (.look .textEnd)
  | 'b' => some (.look .wordBoundary)
  | 'B' => some (.look .notWordBoundary)
  | '<' => some (.look .wordStart)
  | '>' => some (.look .wordEnd)
  | c => if c.toNat < 0x80 && !c.isAlphanum then some (.char c) else none

namespace Escape

/-- Whether an escape may be continued after white space where that is skipped. -/
def skipsBlank : Escape → Bool
  | start => false
  | _ => true

/-- Reads the next character of an escape; the escape goes on or is complete. -/
def read : Escape → Char → Option (Escape ⊕ EscapeValue)
  | start, 'x' => some (.inl (code 2))
  | start, 'u' => some (.inl (code 4))
  | start, 'U' => some (.inl (code 8))
  | start, c => (escaped? c).map .inr
  | code digits, c => if c = '\x7b' then some (.inl (braced false 0)) else readFixed digits 0 c
  | fixed missing value, c => readFixed missing value c
  | braced begun value, c =>
    if c = '\x7d' then
      if begun then (charOf? value).map (.inr ∘ .char) else none
    else (digitValue? 16 c).map fun digit => .inl (braced true (value * 16 + digit))
where
  /-- Reads one of the digits that are missing. -/
  readFixed (missing value : Nat) (c : Char) : Option (Escape ⊕ EscapeValue) :=
    (digitValue? 16 c).bind fun digit =>
      let value := value * 16 + digit
      if missing ≤ 1 then (charOf? value).map (.inr ∘ .char)
      else some (.inl (fixed (missing - 1) value))

end Escape

end Gleaner.Regex.Reader
