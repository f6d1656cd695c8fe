/-
# PartitionedRollout.Text.Quoted -- quoted texts for messages

`quote` writes a text between double quotes so that every character of it can be told apart on
a terminal: quotes and backslashes are escaped, the four usual controls have their short
escapes, and any other unprintable character is spelled as its scalar value in braces.
-/

import PartitionedRollout.Text.Unprintable

namespace PartitionedRollout.Text

/-- One character as it stands inside a quoted text. -/
def quoteChar (c : Char) : List Char :=
  if c = '\x22' then ['\\', '\x22']
  else if c = '\\' then ['\\', '\\']
  else if c = '\n' then ['\\', 'n']
  else if c = '\r' then ['\\', 'r']
  else if c = '\t' then ['\\', 't']
  else if c = '\x00' then ['\\', '0']
  else if isUnprintable c then
    ['\\', 'u', '\x7b'] ++ Nat.toDigits 16 c.toNat ++ ['\x7d']
  else [c]

/-- The text between double quotes, with what cannot be shown escaped. -/
def quote (s : String) : String :=
  String.ofList ('\x22' :: s.toList.flatMap quoteChar ++ ['\x22'])

end PartitionedRollout.Text
