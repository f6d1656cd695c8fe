/-
# PartitionedRollout.Health.Readiness -- wait until every replica is ready

The gate reads the stored set again and again. It ends when every replica is ready; when the
budget is spent, which is looked at only after a set that was not ready; when the set cannot
be read; and when the shutdown signal ends the wait between two reads.
-/

import PartitionedRollout.Health.Settings
import PartitionedRollout.Rollout.Program
import PartitionedRollout.TimeSpan.Printer

namespace PartitionedRollout

/-- The failure of a gate whose budget is spent. -/
def notReady (w : WorkloadSet) (id : WorkloadId) (elapsed : TimeSpan) : Failure :=
  .plain s!"{w.status.readyCount} of {w.spec.replicas} replicas of {id} ready after {elapsed}"

/-- The reads of a gate that was begun at `start`. -/
def awaitReadyFrom (s : ReadinessSettings) (id : WorkloadId) (start : TimeSpan) :
    (rounds : Nat) → Program (Except Failure Unit)
  | 0 => .halt .exhausted
  | rounds + 1 => do
    match ← .call (.get id) with
    | .error e => return .error ⟨s!"reading {id} while waiting for readiness", [e.message]⟩
    | .ok w =>
      if w.allReady then
        return .ok ()
      let elapsed := (← .call .now) - start
      if s.timeout ≤ elapsed then
        return .error (notReady w id elapsed)
      if ← .call (.sleep s.pollInterval) then
        return .error (.plain s!"cancelled while waiting for {id} to be ready")
      awaitReadyFrom s id start rounds

/-- Wait until every replica of a set reports that it is ready. -/
def awaitReady (rounds : Nat) (s : ReadinessSettings) (id : WorkloadId) :
    Program (Except Failure Unit) := do
  let start ← .call .now
  awaitReadyFrom s id start rounds

end PartitionedRollout
