/-
# PartitionedRollout.Rollout.ConflictRetry -- updates that survive other writers

An update that meets a conflict is tried again on the latest version of the set: it is read
anew, the change is made to it anew, and it is written. The number of attempts is bounded, and
any other failure ends the attempts at once.
-/

import PartitionedRollout.Rollout.Error
import PartitionedRollout.Rollout.Program

namespace PartitionedRollout

/-- The budget for attempts that meet conflicts. -/
structure ConflictRetry where
  /-- The attempts in all, the first included; none counts as one. -/
  maxAttempts : UInt32
  /-- The wait before the set is read anew. -/
  interval : TimeSpan
  deriving DecidableEq, Repr

/-- Six attempts, ten milliseconds apart. -/
def ConflictRetry.standard : ConflictRetry :=
  ⟨6, .ofMillis 10⟩

/-- The attempts that may follow the first one. -/
def ConflictRetry.retries (policy : ConflictRetry) : Nat :=
  policy.maxAttempts.toNat - 1

/-- Write a candidate; after a conflict, make the next candidate from the latest version and write
that, as long as retries are left. -/
def updateWithin (id : WorkloadId) (partition : UInt32) (interval : TimeSpan)
    (change : WorkloadSet → WorkloadSet) :
    (retries : Nat) → (candidate : WorkloadSet) → Program (Except RolloutError WorkloadSet)
  | 0, candidate => do
    match ← .call (.update candidate) with
    | .ok stored => return .ok stored
    | .error e => return .error (.ofStore id e)
  | retries + 1, candidate => do
    match ← .call (.update candidate) with
    | .ok stored => return .ok stored
    | .error e =>
      if !e.isConflict then
        return .error (.ofStore id e)
      if ← .call (.sleep interval) then
        return .error (.cancelled partition)
      match ← .call (.get id) with
      | .error e => return .error (.ofStore id e)
      | .ok latest =>
        updateWithin id partition interval change retries ((change latest).withPartition partition)

/-- Persist a partition on a workload set, together with what `change` does to it. The first attempt
is made on the given copy. -/
def updateWithRetry (policy : ConflictRetry) (id : WorkloadId) (w : WorkloadSet)
    (partition : UInt32) (change : WorkloadSet → WorkloadSet) :
    Program (Except RolloutError WorkloadSet) :=
  updateWithin id partition policy.interval change policy.retries
    ((change w).withPartition partition)

end PartitionedRollout
