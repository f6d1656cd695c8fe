/-
# PartitionedRollout.Store.Basic -- the store of workload sets

A store maps keys to the written form of workload sets. It keeps two numbers in every entry:
the version, which every successful write raises, and the generation, which a write raises
when it changes the specification. An update of the specification must present the current
version; putting a whole set and writing a status need not. An operation that fails leaves the
store as it was: it returns an error and no store.
-/

import PartitionedRollout.Store.Error
import PartitionedRollout.Workload.Record

namespace PartitionedRollout

/-- The written workload sets by key. -/
structure Store where
  /-- The written forms, in key order. -/
  table : TextMap (List Char)
  deriving DecidableEq, Inhabited

namespace Store

/-- The store without entries. -/
def empty : Store :=
  ⟨TextMap.empty⟩

/-- The workload set that a written form stands for. -/
def decode (text : List Char) : Except StoreError WorkloadSet :=
  match WorkloadSet.ofChars? text with
  | some w => .ok w
  | none => .error (.deserialize "not a workload set")

/-- The entry under a key. -/
def entry (s : Store) (key : String) : Except StoreError (Option WorkloadSet) :=
  match s.table.get? key with
  | none => .ok none
  | some text => (decode text).map some

/-- The store with an entry written. -/
def write (s : Store) (key : String) (w : WorkloadSet) : Store :=
  ⟨s.table.insert key w.toChars⟩

/-- Refuse a specification that must not be accepted. -/
def admissible (spec : WorkloadSpec) : Except StoreError Unit :=
  match spec.fault? with
  | none => .ok ()
  | some fault => .error (.invalid fault.message)

/-- The version and generation of a write that follows an entry, or of a first write. -/
def nextNumbers (previous : Option WorkloadSet) (spec : WorkloadSpec) : UInt64 × UInt64 :=
  match previous with
  | none => (1, 1)
  | some p =>
    (p.resourceVersion + 1, if p.spec = spec then p.generation else p.generation + 1)

/-- Create or replace a workload set, whatever version the given one carries. -/
def put (s : Store) (w : WorkloadSet) : Except StoreError (WorkloadSet × Store) := do
  admissible w.spec
  let previous ← s.entry w.id.key
  let (version, generation) := nextNumbers previous w.spec
  let next := { w with resourceVersion := version, generation := generation }
  return (next, s.write w.id.key next)

/-- The workload set of an identity, if there is one. -/
def find (s : Store) (id : WorkloadId) : Except StoreError (Option WorkloadSet) :=
  s.entry id.key

/-- The workload set of an identity. -/
def get (s : Store) (id : WorkloadId) : Except StoreError WorkloadSet := do
  match ← s.find id with
  | some w => return w
  | none => throw (.notFound id.key)

/-- Replace the specification of a stored set. The given copy has to carry the current version; its
status and identity are not looked at, and the stored ones stay. -/
def update (s : Store) (w : WorkloadSet) : Except StoreError (WorkloadSet × Store) := do
  admissible w.spec
  let key := w.id.key
  match ← s.entry key with
  | none => throw (.notFound key)
  | some current =>
    if current.resourceVersion ≠ w.resourceVersion then
      throw (.conflict key w.resourceVersion current.resourceVersion)
    let (version, generation) := nextNumbers (some current) w.spec
    let next := { current with
      spec := w.spec, resourceVersion := version, generation := generation }
    return (next, s.write key next)

/-- Change the status of a stored set. -/
def updateStatus (s : Store) (id : WorkloadId) (f : WorkloadStatus → WorkloadStatus) :
    Except StoreError (WorkloadSet × Store) := do
  match ← s.entry id.key with
  | none => throw (.notFound id.key)
  | some current =>
    let next := { current with
      status := f current.status, resourceVersion := current.resourceVersion + 1 }
    return (next, s.write id.key next)

/-- Every workload set, in key order. -/
def list (s : Store) : Except StoreError (List WorkloadSet) :=
  s.table.values.mapM decode

/-- Remove a workload set; the answer says whether there was one. -/
def delete (s : Store) (id : WorkloadId) : Bool × Store :=
  ((s.table.get? id.key).isSome, ⟨s.table.erase id.key⟩)

/-- Put a text under a key as it is. -/
def writeText (s : Store) (key text : String) : Store :=
  ⟨s.table.insert key text.toList⟩

end Store

end PartitionedRollout
