/-
# PartitionedRollout.Toml.Reader -- the statements of a TOML text

A TOML text is a list of statements, each on lines of its own: a header opens a table or a
further element of an array of tables, and an entry gives a value to a key. Arrays and inline
tables nest in values, and a text that nests them too deeply is refused, as is a key of too
many parts.
-/

import PartitionedRollout.Toml.Scalar
import PartitionedRollout.Toml.Table

namespace PartitionedRollout.Toml

/-- Neither arrays and inline tables nor the parts of a key may nest to this depth. -/
def depthLimit : Nat := 80

/-! ## Blanks and comments -/

/-- The text without the blanks in front. -/
def skipSpaces (s : List Char) : List Char :=
  s.dropWhile isSpace

/-- The text without the comment in front, if there is one. -/
def skipComment : List Char → List Char
  | '#' :: rest => rest.dropWhile isTextChar
  | rest => rest

/-- What follows the end of a line, if nothing but blanks and a comment stands before it. -/
def lineEnd? (s : List Char) : Option (List Char) :=
  match skipComment (skipSpaces s) with
  | [] => some []
  | rest => lineBreak? rest

/-- The text without the blanks, comments and line breaks in front. While `inComment`, the rest of
the line is passed over as well. -/
def skipLines (inComment : Bool) : List Char → List Char
  | [] => []
  | '\n' :: rest => skipLines false rest
  | '\r' :: '\n' :: rest => skipLines false rest
  | c :: rest =>
    if inComment then if isTextChar c then skipLines true rest else c :: rest
    else if isSpace c then skipLines false rest
    else if c == '#' then skipLines true rest
    else c :: rest

/-! ## Keys -/

/-- The characters of a key without quotes. -/
def isBareChar (c : Char) : Bool :=
  c.isAlphanum || c == '-' || c == '_'

/-- The part of a key that a text starts with, and what follows it. -/
def keyPart? : List Char → Option (String × List Char)
  | '\x22' :: rest => (basic? rest).map fun (s, r) => (String.ofList s, r)
  | '\x27' :: rest => (literal? rest).map fun (s, r) => (String.ofList s, r)
  | s =>
    let bare := s.takeWhile isBareChar
    if bare.isEmpty then none else some (String.ofList bare, s.dropWhile isBareChar)

/-- The parts of a key, with points between them and blanks around them, and what follows it. A
key has at most `limit` parts. -/
def keyParts? : (limit : Nat) → List Char → Option (Path × List Char)
  | 0, _ => none
  | limit + 1, s => do
    let (part, rest) ← keyPart? (skipSpaces s)
    match skipSpaces rest with
    | '.' :: more =>
      let (path, rest) ← keyParts? limit more
      return (⟨part :: path.parents, path.last⟩, rest)
    | rest => return (⟨[], part⟩, rest)

/-- The key that a text starts with, with blanks around it, and what follows it. -/
def key? (s : List Char) : Option (Path × List Char) :=
  keyParts? (depthLimit - 1) s

/-! ## Values -/

/-- Something that a text may start with: it is given together with what follows it. -/
abbrev Reading (α : Type) := List Char → Option (α × List Char)

/-- The items of an array behind its opening bracket, and what follows its closing bracket. There
may be a comma behind the last item. An array has at most `limit` items. -/
def items? (value? : Reading Value) : (limit : Nat) → Reading (List Value)
  | 0, _ => none
  | limit + 1, s =>
    match skipLines false s with
    | ']' :: rest => some ([], rest)
    | s => do
      let (v, rest) ← value? s
      match skipLines false rest with
      | ']' :: rest => return ([v], rest)
      | ',' :: rest =>
        let (vs, rest) ← items? value? limit rest
        return (v :: vs, rest)
      | _ => none

/-- One key with its value, up to the value's end. -/
def assignment? (value? : Reading Value) : Reading (Path × Value) := fun s => do
  let (path, rest) ← key? s
  match rest with
  | '=' :: rest =>
    let (v, rest) ← value? (skipSpaces rest)
    return ((path, v), rest)
  | _ => none

/-- The entries of an inline table, of which there is at least one, and what follows its closing
brace. An inline table has at most `limit` entries. -/
def members? (value? : Reading Value) : (limit : Nat) → Reading (List (Path × Value))
  | 0, _ => none
  | limit + 1, s => do
    let (entry, rest) ← assignment? value? s
    match skipSpaces rest with
    | '\x7d' :: rest => return ([entry], rest)
    | ',' :: rest =>
      let (entries, rest) ← members? value? limit rest
      return (entry :: entries, rest)
    | _ => none

/-- The value that a text starts with, and what follows it. Arrays and inline tables nest at most
`depth` deep. -/
def valueWithin? : (depth : Nat) → List Char → Option (Value × List Char)
  | _, '\x22' :: s =>
    (string? ('\x22' :: s)).map fun (t, rest) => (.text (String.ofList t), rest)
  | _, '\x27' :: s =>
    (string? ('\x27' :: s)).map fun (t, rest) => (.text (String.ofList t), rest)
  | 0, '[' :: _ => none
  | 0, '\x7b' :: _ => none
  | depth + 1, '[' :: rest => do
    let (items, rest) ← items? (valueWithin? depth) (rest.length + 1) rest
    return (.array items, rest)
  | depth + 1, '\x7b' :: rest =>
    match skipSpaces rest with
    | '\x7d' :: rest => some (.table [], rest)
    | _ => do
      let (entries, rest) ← members? (valueWithin? depth) (rest.length + 1) rest
      let table ← Table.ofEntries? entries
      return (table.toValue, rest)
  | _, s => word? s

/-- The value that a text starts with, and what follows it. -/
def value? : Reading Value :=
  valueWithin? (depthLimit - 1)

/-! ## Statements -/

/-- A statement of a text. -/
inductive Statement where
  /-- The header of a table. -/
  | table (path : Path)
  /-- The header of a further element of an array of tables. -/
  | element (path : Path)
  /-- A key with its value. -/
  | entry (path : Path) (value : Value)
  deriving Repr

/-- The statement that a text starts with, up to the end of its line, and what follows it. -/
def statement? : Reading Statement
  | '[' :: '[' :: rest => do
    match ← key? rest with
    | (path, ']' :: ']' :: rest) => return (.element path, ← lineEnd? rest)
    | _ => none
  | '[' :: rest => do
    match ← key? rest with
    | (path, ']' :: rest) => return (.table path, ← lineEnd? rest)
    | _ => none
  | s => do
    let ((path, v), rest) ← assignment? value? s
    return (.entry path v, ← lineEnd? rest)

/-- The statements of a text, of which there are at most `limit`. -/
def statementsWithin? : (limit : Nat) → List Char → Option (List Statement)
  | 0, _ => none
  | limit + 1, s =>
    match skipLines false s with
    | [] => some []
    | s => do
      let (statement, rest) ← statement? s
      let statements ← statementsWithin? limit rest
      return statement :: statements

/-- The text without the byte-order mark in front. -/
def skipMark : List Char → List Char
  | '\uFEFF' :: rest => rest
  | rest => rest

/-- The statements of a text; every statement takes at least one character. -/
def statements? (s : List Char) : Option (List Statement) :=
  statementsWithin? (s.length + 1) (skipMark s)

end PartitionedRollout.Toml
