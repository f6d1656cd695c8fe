/-
# PartitionedRollout.Rollout.Verification -- does a replica run the desired template?

A verifier says whether a replica has converged to the working copy of a rollout. The one
defined here reads the stored set and compares the reported revision with that of the working
copy; the replica also has to be ready. A verifier outside this library is asked by request.
-/

import PartitionedRollout.Rollout.Program
import PartitionedRollout.Workload.Revision

namespace PartitionedRollout

/-- A way to tell whether a replica runs the template of a working copy. -/
structure Verifier where
  /-- Look once. -/
  verify : (desired : WorkloadSet) → (id : WorkloadId) → (ordinal : UInt32) →
    Program (Except Failure Unit)
  /-- Look once, but stop without an answer when the shutdown signal is noticed meanwhile. -/
  check : (desired : WorkloadSet) → (id : WorkloadId) → (ordinal : UInt32) →
    Program (Option (Except Failure Unit))

namespace Verifier

/-- A verifier outside this library. -/
def external : Verifier where
  verify desired _ ordinal := .call (.verify ordinal desired)
  check desired _ ordinal := .call (.check ordinal desired)

end Verifier

/-- What a report on a replica says about a revision that it should run. -/
def WorkloadStatus.converged (s : WorkloadStatus) (id : WorkloadId) (want : String)
    (ordinal : UInt32) : Except Failure Unit :=
  match s.replica? ordinal with
  | none => .error (.plain s!"replica {ordinal} of {id} has not reported status")
  | some r =>
    if r.revision ≠ want then
      .error (.plain s!"replica {ordinal} of {id} runs revision {r.revision}, want {want}")
    else if !r.ready then .error (.plain s!"replica {ordinal} of {id} is not ready")
    else .ok ()

/-- Read the stored set and compare the report on a replica with a revision. -/
def verifyRevision (want : String) (id : WorkloadId) (ordinal : UInt32) :
    Program (Except Failure Unit) := do
  match ← .call (.get id) with
  | .error e => return .error ⟨s!"reading {id} to verify ordinal {ordinal}", [e.message]⟩
  | .ok latest => return latest.status.converged id want ordinal

/-- The verifier that compares revisions. It makes a single store call. A check always ends with an
answer: what the shutdown signal could cut short is one read, and the rollout then ends as if the
look in front of it had noticed the signal (`run_rollOutSuite_interruptible`). -/
def Verifier.revision : Verifier where
  verify desired id ordinal := verifyRevision desired.updateRevision id ordinal
  check desired id ordinal := some <$> verifyRevision desired.updateRevision id ordinal

end PartitionedRollout
