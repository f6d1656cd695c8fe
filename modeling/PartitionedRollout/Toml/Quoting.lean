/-
# PartitionedRollout.Toml.Quoting -- writing TOML strings

A text is written in the plainest of the kinds of strings that can hold it. One line is
preferred to several and double quotes to single ones, but above all a text that needs no
escapes gets none: only a text that no kind can hold as it stands is written with escapes.
-/

import PartitionedRollout.Toml.Text

namespace PartitionedRollout.Toml

/-! ## What a text holds -/

/-- The length of the longest run of a character, where `run` of them stand in front of the text. -/
def longestRunFrom (c : Char) : (run : Nat) → List Char → Nat
  | run, [] => run
  | run, x :: rest =>
    if x = c then longestRunFrom c (run + 1) rest else max run (longestRunFrom c 0 rest)

/-- The length of the longest run of a character. -/
def longestRun (c : Char) (s : List Char) : Nat :=
  longestRunFrom c 0 s

/-- A character that can only be written as an escape, line feeds apart. -/
def needsEscape (c : Char) : Bool :=
  !isTextChar c && c != '\n'

/-! ## Kinds of strings -/

/-- A way to write a string. -/
inductive Style where
  /-- Double quotes on one line. -/
  | basic
  /-- Single quotes on one line. -/
  | literal
  /-- Double quotes over several lines. -/
  | multiBasic
  /-- Single quotes over several lines. -/
  | multiLiteral
  deriving DecidableEq, Repr

/-- The text can be written without escapes in the given way. Between three quotes, two of them may
stand in the text. -/
def Style.holds (s : List Char) : Style → Bool
  | .basic => !s.any needsEscape && !s.contains '\\' && longestRun '\x22' s == 0 && !s.contains '\n'
  | .literal => !s.any needsEscape && longestRun '\x27' s == 0 && !s.contains '\n'
  | .multiBasic => !s.any needsEscape && !s.contains '\\' && longestRun '\x22' s ≤ 2
  | .multiLiteral => !s.any needsEscape && longestRun '\x27' s ≤ 2

/-- The way in which a text is written. -/
def Style.of (s : List Char) : Style :=
  if Style.basic.holds s then .basic
  else if Style.literal.holds s then .literal
  else if Style.multiBasic.holds s then .multiBasic
  else if Style.multiLiteral.holds s then .multiLiteral
  else if s.contains '\n' then .multiBasic
  else .basic

/-! ## Writing -/

/-- The upper-case hexadecimal digit of a number below sixteen. -/
def upperHexDigit (n : Nat) : Char :=
  (Nat.digitChar n).toUpper

/-- One character between double quotes, quotes and line feeds apart. -/
def escapeChar (c : Char) : List Char :=
  if c = '\\' then ['\\', '\\']
  else if c = '\x08' then ['\\', 'b']
  else if c = '\t' then ['\\', 't']
  else if c = '\x0c' then ['\\', 'f']
  else if c = '\r' then ['\\', 'r']
  else if isTextChar c then [c]
  else ['\\', 'u', '0', '0', upperHexDigit (c.toNat / 16), upperHexDigit (c.toNat % 16)]

/-- A text between double quotes on one line. -/
def basicChars (s : List Char) : List Char :=
  s.flatMap fun c =>
    if c = '\x22' then ['\\', '\x22'] else if c = '\n' then ['\\', 'n'] else escapeChar c

/-- A text between double quotes over several lines, where `run` quotes stand in front of it. A
third quote in a row is escaped, and the count begins anew behind it. -/
def multiBasicChars : (run : Nat) → List Char → List Char
  | _, [] => []
  | run, c :: rest =>
    if c = '\x22' then
      if run = 2 then '\\' :: '\x22' :: multiBasicChars 0 rest
      else '\x22' :: multiBasicChars (run + 1) rest
    else if c = '\n' then '\n' :: multiBasicChars 0 rest
    else escapeChar c ++ multiBasicChars 0 rest

/-- The line break behind opening quotes, which a text over several lines gets. -/
def openingBreak (s : List Char) : List Char :=
  if s.contains '\n' then ['\n'] else []

/-- A text in the given way. -/
def Style.write (s : List Char) : Style → List Char
  | .basic => '\x22' :: basicChars s ++ ['\x22']
  | .literal => '\x27' :: s ++ ['\x27']
  | .multiBasic =>
    '\x22' :: '\x22' :: '\x22' :: openingBreak s ++ multiBasicChars 0 s ++ ['\x22', '\x22', '\x22']
  | .multiLiteral =>
    '\x27' :: '\x27' :: '\x27' :: openingBreak s ++ s ++ ['\x27', '\x27', '\x27']

/-- A text as a TOML string. -/
def stringChars (s : List Char) : List Char :=
  (Style.of s).write s

end PartitionedRollout.Toml
