/-
  EntitySchema.Text.Escaped
  ────────────────────────────────
  **QUOTED DISPLAY OF A TEXT.**

  A text inside a message stands between double quotes.  Quotes,
  backslashes and the usual control characters get their short escape;
  every character without a visible form of its own is shown by its code
  point in braces.
-/
import EntitySchema.Text.Case
import EntitySchema.Text.EscapedTable

namespace EntitySchema.Text

/-- Hexadecimal form without leading zeros. -/
def hex (n : Nat) : List Char := Nat.toDigits 16 n

/-- Display of one character inside quotes. -/
def displayChar (c : Char) : List Char :=
  if c = '\x00' then ['\\', '0']
  else if c = '\t' then ['\\', 't']
  else if c = '\r' then ['\\', 'r']
  else if c = '\n' then ['\\', 'n']
  else if c = '\\' then ['\\', '\\']
  else if c = '"' then ['\\', '"']
  else if inRanges escapedRanges c.toNat then
    ['\\', 'u', '\x7b'] ++ hex c.toNat ++ ['\x7d']
  else [c]

/-- Display of a text between double quotes. -/
def display (s : String) : String :=
  String.ofList ('"' :: s.toList.flatMap displayChar ++ ['"'])

end EntitySchema.Text
