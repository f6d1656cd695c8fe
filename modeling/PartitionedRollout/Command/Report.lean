/-
# PartitionedRollout.Command.Report -- record what was observed of a replica

A report is written into the status of a stored set. It replaces the first report on its
replica; the first report on a replica is put in, and the reports are then in order of their
ordinals. A report without a revision stands for the revision of the stored template, which
only a replica at or above the partition is sure to run.
-/

import PartitionedRollout.Command.Arguments
import PartitionedRollout.Store.Basic
import PartitionedRollout.Workload.Revision

namespace PartitionedRollout

/-- The status with a report recorded. -/
def WorkloadStatus.record (s : WorkloadStatus) (r : ReplicaStatus) : WorkloadStatus :=
  match s.replica? r.ordinal with
  | some _ => s.modifyReplica r.ordinal fun _ => r
  | none =>
    ⟨s.observedGeneration, (s.replicas ++ [r]).mergeSort fun a b => a.ordinal ≤ b.ordinal⟩

/-- Why a report is refused. -/
inductive ReportError where
  /-- The store refuses. -/
  | store (e : StoreError)
  /-- There is no such set. -/
  | missing (id : WorkloadId)
  /-- The set has no such replica. -/
  | outOfRange (id : WorkloadId) (ordinal replicas : UInt32)
  /-- The replica need not run the stored template. -/
  | belowPartition (id : WorkloadId) (ordinal partition : UInt32)
  deriving DecidableEq, Repr

/-- The text of an error. -/
def ReportError.message : ReportError → String
  | .store e => e.message
  | .missing id => s!"workload set {id} not found"
  | .outOfRange id o n => s!"ordinal {o} out of range for {id} with {n} replicas"
  | .belowPartition id o p =>
    s!"ordinal {o} is below partition {p} of {id} and may run an older template; pass --revision"

namespace Command.ReplicaReport

/-- The revision that a report is about. -/
def revisionOn (r : ReplicaReport) (w : WorkloadSet) : Except ReportError String :=
  let partition := w.spec.partition.getD 0
  match r.revision with
  | some revision => .ok revision
  | none =>
    if r.ordinal < partition then .error (.belowPartition w.id r.ordinal partition)
    else .ok w.updateRevision

end Command.ReplicaReport

/-- The store after a report, and the set as it is stored now. -/
def Store.report (s : Store) (id : WorkloadId) (r : Command.ReplicaReport) :
    Except ReportError (WorkloadSet × Store) :=
  match s.find id with
  | .error e => .error (.store e)
  | .ok none => .error (.missing id)
  | .ok (some current) =>
    if current.spec.replicas ≤ r.ordinal then
      .error (.outOfRange id r.ordinal current.spec.replicas)
    else
      match r.revisionOn { current with id := id } with
      | .error e => .error e
      | .ok revision =>
        match s.updateStatus id (·.record ⟨r.ordinal, revision, r.ready, r.address⟩) with
        | .error e => .error (.store e)
        | .ok written => .ok written

end PartitionedRollout
