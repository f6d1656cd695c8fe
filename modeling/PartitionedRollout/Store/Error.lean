/-
# PartitionedRollout.Store.Error -- why a store refuses

An error says which step went wrong and carries what a caller needs to react: the key that was
not found, the two versions of a conflict, or a code and a reason. `message` is the only place
where the wording is fixed.
-/

namespace PartitionedRollout

/-- Why an operation on a store failed. -/
inductive StoreError where
  /-- The store could not be opened. -/
  | open (cause : String)
  /-- A transaction could not be begun or committed. -/
  | transaction (cause : String)
  /-- The table of workload sets could not be opened. -/
  | table (cause : String)
  /-- An entry could not be read. -/
  | read (cause : String)
  /-- An entry could not be written. -/
  | write (cause : String)
  /-- A workload set could not be written as a text. -/
  | serialize (cause : String)
  /-- A stored text is no workload set. -/
  | deserialize (cause : String)
  /-- There is no entry with this key. -/
  | notFound (key : String)
  /-- The caller's copy is stale: someone else wrote in between. -/
  | conflict (key : String) (expected actual : UInt64)
  /-- A structured rejection. -/
  | status (code : UInt16) (reason detail : String)
  deriving DecidableEq, Repr, Inhabited

namespace StoreError

/-- The rejection of a specification that must not be accepted. -/
def invalid (detail : String) : StoreError :=
  .status 422 "Invalid" detail

/-- The text of an error. -/
def message : StoreError → String
  | .open c => s!"failed to open database: {c}"
  | .transaction c => s!"transaction error: {c}"
  | .table c => s!"table error: {c}"
  | .read c => s!"read error: {c}"
  | .write c => s!"write error: {c}"
  | .serialize c => s!"serialization error: {c}"
  | .deserialize c => s!"deserialization error: {c}"
  | .notFound key => s!"not found: {key}"
  | .conflict key expected actual =>
    s!"conflict on {key}: the object has been modified " ++
      s!"(expected resource version {expected}, found {actual})"
  | .status code reason detail => s!"{reason} ({code}): {detail}"

/-- The word that names the case. -/
def label : StoreError → String
  | .open _ => "Open"
  | .transaction _ => "Transaction"
  | .table _ => "Table"
  | .read _ => "Read"
  | .write _ => "Write"
  | .serialize _ => "Serialize"
  | .deserialize _ => "Deserialize"
  | .notFound _ => "NotFound"
  | .conflict .. => "Conflict"
  | .status .. => "Status"

/-- The error says that something does not exist. -/
def isNotFound : StoreError → Bool
  | .notFound _ => true
  | _ => false

/-- The error says that the caller's copy is stale. -/
def isConflict : StoreError → Bool
  | .conflict .. => true
  | _ => false

end StoreError

end PartitionedRollout
