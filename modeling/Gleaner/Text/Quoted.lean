import Gleaner.Unicode.Printable

/-! # Quoted text

Text between double quotes, on one line. Every character that would end the quotation, break
the line or not show is written as an escape; the apostrophe is not. -/

namespace Gleaner.Text

open Gleaner.Unicode

/-- The escape for a character by its code point, in hexadecimal between braces. -/
def codeEscape (c : Char) : List Char :=
  ['\\', 'u', '{'] ++ Nat.toDigits 16 c.toNat ++ ['}']

/-- How a character reads inside a quotation. -/
def quoteChar (c : Char) : List Char :=
  if c = '\x00' then ['\\', '0']
  else if c = '\t' then ['\\', 't']
  else if c = '\n' then ['\\', 'n']
  else if c = '\r' then ['\\', 'r']
  else if c = '"' then ['\\', '"']
  else if c = '\\' then ['\\', '\\']
  else if isPrintable c then [c]
  else codeEscape c

/-- A text as a quotation. -/
def quoted (text : String) : String :=
  String.ofList ('"' :: text.toList.flatMap quoteChar ++ ['"'])

end Gleaner.Text
