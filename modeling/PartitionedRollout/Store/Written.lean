/-
# PartitionedRollout.Store.Written -- stores as texts

A store is written as a JSON object that maps its keys to the texts of its entries. An empty
text stands for a store without entries.
-/

import PartitionedRollout.Store.Basic

namespace PartitionedRollout.Store

/-- The text of a store. -/
def encode (s : Store) : String :=
  (Json.record (s.table.entries.map fun e => (e.1, .text (String.ofList e.2)))).compact

/-- The store with the given texts under their keys. -/
def ofTexts (texts : TextMap String) : Store :=
  ⟨TextMap.ofList (texts.entries.map fun e => (e.1, e.2.toList))⟩

/-- The store of a text. -/
def decode? (text : String) : Option Store :=
  if text.isEmpty then some empty
  else (Json.read? text).bind fun j => (Json.textMap? j).map ofTexts

end PartitionedRollout.Store
