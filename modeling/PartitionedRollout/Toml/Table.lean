/-
# PartitionedRollout.Toml.Table -- tables that grow entry by entry

While a text is read, a table remembers how it came to be, because that decides what may still
happen to it. A table with a header of its own may not get a second one, a table that a dotted
key made may only grow by dotted keys, and a table that is there only because a header named
it as a parent may still get its own header. What an entry holds as a value never changes
again.
-/

import PartitionedRollout.Toml.Value

namespace PartitionedRollout.Toml

/-- A key of one or more parts: the last one names the entry, the others the tables around it. -/
structure Path where
  /-- The names of the tables around the entry, outermost first. -/
  parents : List String
  /-- The name of the entry. -/
  last : String
  deriving DecidableEq, Repr

/-- How a table came to be. -/
inductive Making where
  /-- By a header, or as the whole text. -/
  | header
  /-- By a dotted key. -/
  | dotted
  /-- As a parent in a header. -/
  | parent
  deriving DecidableEq, Repr

/-- What stands under a name while a text is read. -/
inductive Item where
  /-- A value. -/
  | value (v : Value)
  /-- A table. -/
  | table (making : Making) (entries : List (String × Item))
  /-- An array of tables, last element first. -/
  | tables (elements : List (List (String × Item)))
  deriving Inhabited

/-- A table while a text is read. -/
structure Table where
  /-- How it came to be. -/
  making : Making
  /-- Its entries. -/
  entries : List (String × Item)

namespace Table

/-- A table of the given making without entries. -/
def empty (making : Making) : Table :=
  ⟨making, []⟩

/-- What stands under a name. -/
def item? (t : Table) (name : String) : Option Item :=
  t.entries.lookup name

/-- Replace what stands under a name, in place if something does. -/
def putEntry (name : String) (item : Item) : List (String × Item) → List (String × Item)
  | [] => [(name, item)]
  | (k, i) :: rest => if k = name then (name, item) :: rest else (k, i) :: putEntry name item rest

/-- The table with something put under a name. -/
def put (t : Table) (name : String) (item : Item) : Table :=
  ⟨t.making, putEntry name item t.entries⟩

/-- The table as an item. -/
def toItem (t : Table) : Item :=
  .table t.making t.entries

/-- Change the table that a list of names leads to. A name that leads nowhere yet leads to a new
table of the given making; a name of an array of tables leads to its last element. A dotted key
may not enter a table with a header. -/
def modifyAt? (making : Making) (change : Table → Option Table) :
    List String → Table → Option Table
  | [], t => change t
  | name :: names, t =>
    match t.item? name with
    | none => (modifyAt? making change names (.empty making)).map fun c => t.put name c.toItem
    | some (.value _) => none
    | some (.tables []) => none
    | some (.tables (entries :: before)) =>
      (modifyAt? making change names ⟨.header, entries⟩).map fun c =>
        t.put name (.tables (c.entries :: before))
    | some (.table made entries) =>
      if making = .dotted ∧ made = .header then none
      else (modifyAt? making change names ⟨made, entries⟩).map fun c => t.put name c.toItem

/-- Give a value to a name that has none. The table has to be one that the key made when the key is
dotted, and one with a header when it is not. -/
def insert? (dotted : Bool) (name : String) (v : Value) (t : Table) : Option Table :=
  if dotted ≠ (t.making == .dotted) then none
  else
    match t.item? name with
    | none => some (t.put name (.value v))
    | some _ => none

/-- Give a value to a key. -/
def insertAt? (path : Path) (v : Value) (t : Table) : Option Table :=
  modifyAt? .dotted (insert? (!path.parents.isEmpty) path.last v) path.parents t

/-- Open a table under a name by its header. -/
def open? (name : String) (t : Table) : Option Table :=
  match t.item? name with
  | none => some (t.put name (.table .header []))
  | some (.table .parent entries) => some (t.put name (.table .header entries))
  | some _ => none

/-- Open a further element of the array of tables under a name. -/
def push? (name : String) (t : Table) : Option Table :=
  match t.item? name with
  | none => some (t.put name (.tables [[]]))
  | some (.tables elements) => some (t.put name (.tables ([] :: elements)))
  | some _ => none

/-- The inline table with the given entries. -/
def ofEntries? (entries : List (Path × Value)) : Option Table :=
  entries.foldlM (fun t e => insertAt? e.1 e.2 t) (.empty .header)

end Table

/-! ## Values -/

mutual

/-- An item as a value. -/
def Item.toValue : Item → Value
  | .value v => v
  | .table _ entries => .table (entriesToValue entries)
  | .tables elements => .array (elementsToValue elements [])

/-- The entries of a table as values. -/
def entriesToValue : List (String × Item) → List (String × Value)
  | [] => []
  | (name, item) :: rest => (name, item.toValue) :: entriesToValue rest

/-- The elements of an array of tables as values, last element first, in front of the ones before.
-/
def elementsToValue : List (List (String × Item)) → List Value → List Value
  | [], later => later
  | entries :: before, later => elementsToValue before (.table (entriesToValue entries) :: later)

end

/-- A table as a value. -/
def Table.toValue (t : Table) : Value :=
  .table (entriesToValue t.entries)

end PartitionedRollout.Toml
