/-
# PartitionedRollout.Toml.Text -- reading TOML strings

There are four kinds of strings: basic strings with escapes and literal strings without, each
on one line or over several. Each reader here starts behind the opening quotes and ends behind
the closing ones. In a string over several lines, a line break right behind the opening quotes
is not part of the text, every line break counts as a line feed, and one or two quotes may
stand anywhere, also before the closing ones.
-/

import PartitionedRollout.Json.Escape

namespace PartitionedRollout.Toml

/-- Spaces and tabs, the only blanks inside a line. -/
def isSpace (c : Char) : Bool :=
  c == ' ' || c == '\t'

/-- The characters that may stand in comments and, quotes and backslashes apart, in strings: all but
the controls, of which the tab is allowed. -/
def isTextChar (c : Char) : Bool :=
  c == '\t' || (0x20 ≤ c.toNat && c.toNat != 0x7F)

/-- What follows a line break, if the text starts with one. -/
def lineBreak? : List Char → Option (List Char)
  | '\n' :: rest => some rest
  | '\r' :: '\n' :: rest => some rest
  | _ => none

/-! ## Escapes -/

/-- The character of a letter that follows a backslash. -/
def letter? : Char → Option Char
  | '\x22' => some '\x22'
  | '\\' => some '\\'
  | 'b' => some '\x08'
  | 'f' => some '\x0c'
  | 'n' => some '\n'
  | 'r' => some '\r'
  | 't' => some '\t'
  | _ => none

/-- The number of a list of hexadecimal digits. -/
def hexNumber? (ds : List Char) : Option Nat :=
  ds.foldlM (fun n d => (Json.hexValue? d).map (16 * n + ·)) 0

/-- The character with a scalar value given by hexadecimal digits. -/
def scalar? (ds : List Char) : Option Char :=
  (hexNumber? ds).bind fun n =>
    if n.isValidChar then some (Char.ofNat n) else none

/-! ## The four kinds -/

/-- The text of a basic string on one line, and what follows it. -/
def basic? : List Char → Option (List Char × List Char)
  | [] => none
  | '\x22' :: rest => some ([], rest)
  | '\\' :: 'u' :: a :: b :: c :: d :: rest =>
    match scalar? [a, b, c, d] with
    | none => none
    | some x => (basic? rest).map fun (s, r) => (x :: s, r)
  | '\\' :: 'U' :: a :: b :: c :: d :: e :: f :: g :: h :: rest =>
    match scalar? [a, b, c, d, e, f, g, h] with
    | none => none
    | some x => (basic? rest).map fun (s, r) => (x :: s, r)
  | '\\' :: c :: rest =>
    match letter? c with
    | none => none
    | some x => (basic? rest).map fun (s, r) => (x :: s, r)
  | c :: rest =>
    if isTextChar c && c != '\\' then (basic? rest).map fun (s, r) => (c :: s, r) else none

/-- The text of a literal string on one line, and what follows it. -/
def literal? : List Char → Option (List Char × List Char)
  | [] => none
  | '\x27' :: rest => some ([], rest)
  | c :: rest => if isTextChar c then (literal? rest).map fun (s, r) => (c :: s, r) else none

/-- A backslash here ends a line: nothing but blanks stands between it and the line break. -/
def endsLine (rest : List Char) : Bool :=
  (lineBreak? (rest.dropWhile isSpace)).isSome

/-- The text of a basic string over several lines, and what follows it. While `folding`, blanks
and line breaks are passed over. -/
def multiBasic? (folding : Bool) : List Char → Option (List Char × List Char)
  | [] => none
  | '\x22' :: '\x22' :: '\x22' :: '\x22' :: '\x22' :: rest => some (['\x22', '\x22'], rest)
  | '\x22' :: '\x22' :: '\x22' :: '\x22' :: rest => some (['\x22'], rest)
  | '\x22' :: '\x22' :: '\x22' :: rest => some ([], rest)
  | '\\' :: 'u' :: a :: b :: c :: d :: rest =>
    match scalar? [a, b, c, d] with
    | none => none
    | some x => (multiBasic? false rest).map fun (s, r) => (x :: s, r)
  | '\\' :: 'U' :: a :: b :: c :: d :: e :: f :: g :: h :: rest =>
    match scalar? [a, b, c, d, e, f, g, h] with
    | none => none
    | some x => (multiBasic? false rest).map fun (s, r) => (x :: s, r)
  | '\\' :: c :: rest =>
    match letter? c with
    | some x => (multiBasic? false rest).map fun (s, r) => (x :: s, r)
    | none => if endsLine (c :: rest) then multiBasic? true (c :: rest) else none
  | '\r' :: '\n' :: rest =>
    if folding then multiBasic? true rest
    else (multiBasic? false rest).map fun (s, r) => ('\n' :: s, r)
  | c :: rest =>
    if folding && (isSpace c || c == '\n') then multiBasic? true rest
    else if c == '\n' || (isTextChar c && c != '\\') then
      (multiBasic? false rest).map fun (s, r) => (c :: s, r)
    else none

/-- The text of a literal string over several lines, and what follows it. -/
def multiLiteral? : List Char → Option (List Char × List Char)
  | [] => none
  | '\x27' :: '\x27' :: '\x27' :: '\x27' :: '\x27' :: rest => some (['\x27', '\x27'], rest)
  | '\x27' :: '\x27' :: '\x27' :: '\x27' :: rest => some (['\x27'], rest)
  | '\x27' :: '\x27' :: '\x27' :: rest => some ([], rest)
  | '\r' :: '\n' :: rest => (multiLiteral? rest).map fun (s, r) => ('\n' :: s, r)
  | c :: rest =>
    if c == '\n' || isTextChar c then (multiLiteral? rest).map fun (s, r) => (c :: s, r) else none

/-- The text without the line break that it starts with. -/
def skipLineBreak (s : List Char) : List Char :=
  (lineBreak? s).getD s

/-- The string that a text starts with, of any kind, and what follows it. -/
def string? : List Char → Option (List Char × List Char)
  | '\x22' :: '\x22' :: '\x22' :: rest => multiBasic? false (skipLineBreak rest)
  | '\x22' :: rest => basic? rest
  | '\x27' :: '\x27' :: '\x27' :: rest => multiLiteral? (skipLineBreak rest)
  | '\x27' :: rest => literal? rest
  | _ => none

end PartitionedRollout.Toml
