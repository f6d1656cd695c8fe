/-
# PartitionedRollout.Rollout.Error -- what can end a rollout

A store error is classified and tagged with the set that it is about before anyone sees it.
Two of the constructors of `RolloutError` are wrappers: one adds the ordinal that was being
handled, the other the set that was being rolled out. `root` looks through both, `kind` is
that of the root, and `ordinal` is the outermost one that an error names.
-/

import PartitionedRollout.Rollout.Failure
import PartitionedRollout.Store.Error
import PartitionedRollout.TimeSpan.Printer
import PartitionedRollout.Workload.Basic

namespace PartitionedRollout

/-- The coarse kind of a failure. -/
inductive ErrorKind where
  /-- The workload set does not exist. -/
  | notFound
  /-- Somebody else wrote in between. -/
  | conflict
  /-- A structured rejection by the store. -/
  | status
  /-- Everything else. -/
  | other
  deriving DecidableEq, Repr

/-- The word for a kind. -/
def ErrorKind.message : ErrorKind → String
  | .notFound => "not found"
  | .conflict => "conflict"
  | .status => "status"
  | .other => "error"

/-- The kind of a store error. -/
def StoreError.kind : StoreError → ErrorKind
  | .notFound _ => .notFound
  | .conflict .. => .conflict
  | .status .. => .status
  | _ => .other

/-- A classified store error about one workload set. -/
structure StoreFailure where
  /-- The workload set. -/
  id : WorkloadId
  /-- The error. -/
  error : StoreError
  deriving DecidableEq, Repr

namespace StoreFailure

/-- The kind of the error. -/
def kind (f : StoreFailure) : ErrorKind :=
  f.error.kind

/-- The text of the failure. -/
def message (f : StoreFailure) : String :=
  s!"workload set {f.id}: {f.kind.message}: {f.error.message}"

end StoreFailure

/-- What can end a rollout. -/
inductive RolloutError where
  /-- A store call failed. -/
  | store (failure : StoreFailure)
  /-- The desired set could not be computed. -/
  | transform (id : WorkloadId) (cause : Failure)
  /-- Not all replicas became ready before an ordinal was updated. -/
  | readinessWait (ordinal : UInt32) (cause : Failure)
  /-- A replica did not verify within its budget. -/
  | verificationTimeout (ordinal attempts : UInt32) (elapsed : TimeSpan) (last : Failure)
  /-- The health gate failed after an ordinal was updated. -/
  | healthProbe (checkpoint : String) (ordinal : UInt32) (cause : Failure)
  /-- The rollout was told to stop. -/
  | cancelled (ordinal : UInt32)
  /-- A failure without an ordinal of its own, met while one was being handled. -/
  | atOrdinal (ordinal : UInt32) (source : RolloutError)
  /-- A failure of the strategy, with the set that was being rolled out. -/
  | strategy (id : WorkloadId) (source : RolloutError)
  deriving DecidableEq, Repr

namespace RolloutError

/-- The classified form of an error that a store returned. -/
def ofStore (id : WorkloadId) (e : StoreError) : RolloutError :=
  .store ⟨id, e⟩

/-- The text of an error, without its causes. -/
def message : RolloutError → String
  | .store f => f.message
  | .transform id _ => s!"error applying transform to {id}"
  | .readinessWait p _ =>
    s!"error while waiting for all replicas to be ready before ordinal {p}"
  | .verificationTimeout p n d _ => s!"ordinal {p} did not verify after {n} attempts in {d}"
  | .healthProbe checkpoint p _ => s!"health probe failed {checkpoint} (ordinal {p})"
  | .cancelled p => s!"rollout cancelled at ordinal {p}"
  | .atOrdinal p _ => s!"stopped at ordinal {p}"
  | .strategy id _ => s!"error applying update strategy to {id}"

/-- The texts of the causes below an error, outermost first. -/
def causes : RolloutError → List String
  | .store f => [f.error.message]
  | .transform _ c => c.chain
  | .readinessWait _ c => c.chain
  | .verificationTimeout _ _ _ c => c.chain
  | .healthProbe _ _ c => c.chain
  | .cancelled _ => []
  | .atOrdinal _ e => e.message :: e.causes
  | .strategy _ e => e.message :: e.causes

/-- The error without the wrappers around it. -/
def root : RolloutError → RolloutError
  | .atOrdinal _ e => e.root
  | .strategy _ e => e.root
  | e => e

/-- The kind of the root; what did not come from the store is of the last kind. -/
def kind (e : RolloutError) : ErrorKind :=
  match e.root with
  | .store f => f.kind
  | _ => .other

/-- The ordinal that the rollout stopped at, if it got that far. -/
def ordinal : RolloutError → Option UInt32
  | .strategy _ e => e.ordinal
  | .atOrdinal p _ => some p
  | .readinessWait p _ => some p
  | .verificationTimeout p _ _ _ => some p
  | .healthProbe _ p _ => some p
  | .cancelled p => some p
  | .store _ => none
  | .transform _ _ => none

/-- Add the ordinal that is being handled, unless the error names one already. -/
def addOrdinal (e : RolloutError) (p : UInt32) : RolloutError :=
  if e.ordinal.isSome then e else .atOrdinal p e

/-- Add the set that is being rolled out. -/
def inStrategy (e : RolloutError) (id : WorkloadId) : RolloutError :=
  .strategy id e

/-- The error comes from a set that does not exist. -/
def isNotFound (e : RolloutError) : Bool :=
  e.kind == .notFound

/-- The error comes from a conflict. -/
def isConflict (e : RolloutError) : Bool :=
  e.kind == .conflict

end RolloutError

end PartitionedRollout
