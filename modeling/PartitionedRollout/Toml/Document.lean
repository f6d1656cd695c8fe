/-
# PartitionedRollout.Toml.Document -- TOML texts

The statements of a text build one table. An entry goes into the table whose header came last,
or into the whole where no header has come yet. A statement that contradicts an earlier one
makes the text unreadable.
-/

import PartitionedRollout.Toml.Reader

namespace PartitionedRollout.Toml

/-- A text that has been read up to some statement. -/
structure Document where
  /-- The table of the whole text. -/
  root : Table
  /-- The names of the table whose header came last. -/
  current : List String

namespace Document

/-- A text of which nothing has been read. -/
def start : Document :=
  ⟨.empty .header, []⟩

/-- Take one statement. -/
def step? (d : Document) : Statement → Option Document
  | .table path => (d.root.modifyAt? .parent (Table.open? path.last) path.parents).map fun t =>
      ⟨t, path.parents ++ [path.last]⟩
  | .element path => (d.root.modifyAt? .parent (Table.push? path.last) path.parents).map fun t =>
      ⟨t, path.parents ++ [path.last]⟩
  | .entry path v => (d.root.modifyAt? .parent (Table.insertAt? path v) d.current).map fun t =>
      ⟨t, d.current⟩

end Document

/-- The table of a list of statements. -/
def ofStatements? (l : List Statement) : Option Value :=
  (l.foldlM Document.step? .start).map fun d => d.root.toValue

/-- The table of a list of characters. -/
def ofChars? (s : List Char) : Option Value :=
  (statements? s).bind ofStatements?

/-- Read a TOML text. -/
def read? (s : String) : Option Value :=
  ofChars? s.toList

end PartitionedRollout.Toml
