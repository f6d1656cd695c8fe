/-
# PartitionedRollout.Store.Operation -- operations on a store as data

An operation is one call that some client makes of a store. `perform` says what it answers and
what it leaves behind, so a history of calls by any number of clients is a list of operations.
An operation that answers with an error leaves the store as it was.
-/

import PartitionedRollout.Store.Basic

namespace PartitionedRollout

/-- Where a store keeps its entries. -/
inductive Backend where
  /-- In memory: what is closed is lost. -/
  | memory
  /-- On disk. -/
  | disk
  deriving DecidableEq, Repr

/-- One call of a store. -/
inductive StoreOperation where
  /-- Create or replace a workload set. -/
  | put (w : WorkloadSet)
  /-- Replace the specification of a workload set. -/
  | update (w : WorkloadSet)
  /-- Change the status of a workload set. -/
  | updateStatus (id : WorkloadId) (f : WorkloadStatus → WorkloadStatus)
  /-- Read a workload set. -/
  | find (id : WorkloadId)
  /-- Read every workload set. -/
  | list
  /-- Remove a workload set. -/
  | delete (id : WorkloadId)
  /-- Close the store and open it again. -/
  | reopen
  /-- Put a text under a key behind the back of the store. -/
  | writeText (key text : String)

/-- The answer to an operation. -/
inductive StoreAnswer where
  /-- The workload set as it is stored now. -/
  | stored (w : WorkloadSet)
  /-- The workload set that was looked for, if there is one. -/
  | found (w : Option WorkloadSet)
  /-- Every workload set. -/
  | listed (l : List WorkloadSet)
  /-- Whether there was something to remove. -/
  | removed (b : Bool)
  /-- The store is open. -/
  | opened
  /-- The text is there. -/
  | written
  /-- Nothing was done. -/
  | failed (e : StoreError)
  deriving DecidableEq, Repr

namespace Store

/-- The answer and the store after a write. -/
def answerWrite (s : Store) : Except StoreError (WorkloadSet × Store) → StoreAnswer × Store
  | .ok (w, s') => (.stored w, s')
  | .error e => (.failed e, s)

/-- The answer to a look at the store. -/
def answerRead {α : Type} (answer : α → StoreAnswer) : Except StoreError α → StoreAnswer
  | .ok a => answer a
  | .error e => .failed e

/-- The answer to an operation, and the store after it. -/
def perform (b : Backend) (s : Store) : StoreOperation → StoreAnswer × Store
  | .put w => s.answerWrite (s.put w)
  | .update w => s.answerWrite (s.update w)
  | .updateStatus id f => s.answerWrite (s.updateStatus id f)
  | .find id => (answerRead .found (s.find id), s)
  | .list => (answerRead .listed s.list, s)
  | .delete id =>
    let (existed, s') := s.delete id
    (.removed existed, s')
  | .reopen => (.opened, match b with | .memory => .empty | .disk => s)
  | .writeText key text => (.written, s.writeText key text)

end Store

end PartitionedRollout
