/-
# PartitionedRollout.Rollout.Strategy -- one ordinal at a time, highest first

With the partition at `p`, only ordinals at or above `p` move to the current template. The
strategy walks `p` down from the highest ordinal to zero. An ordinal that already verifies is
skipped. For any other one the strategy waits until all replicas are ready, persists the
partition, polls until the replica verifies, reads the set anew, and asks for the health of
the cluster. The first failure stops it; running it again picks up where it stopped, because
converged ordinals are skipped.
-/

import PartitionedRollout.Rollout.ConflictRetry
import PartitionedRollout.Rollout.Polling
import PartitionedRollout.Rollout.Verification

namespace PartitionedRollout

/-- Pacing, and the waits between which an ordinal is updated. -/
structure Gates where
  /-- The pacing. -/
  timing : Timing
  /-- Wait until every replica is ready. -/
  awaitReady : Program (Except Failure Unit)
  /-- Say whether the cluster is healthy at a checkpoint. -/
  probeHealth : (checkpoint : String) → (ordinal : UInt32) → Program (Except Failure Unit)

/-- Gates outside this library. -/
def Gates.external (timing : Timing) : Gates where
  timing := timing
  awaitReady := .call .awaitReady
  probeHealth checkpoint ordinal := .call (.probeHealth checkpoint ordinal)

/-- The strategy's parameters. -/
structure Strategy where
  /-- Tells converged replicas. -/
  verifier : Verifier
  /-- The budget for conflicts. -/
  retry : ConflictRetry
  /-- Draw the waits of a poll at random. -/
  jitter : Bool
  /-- The most rounds that a poll may take. -/
  rounds : Nat

/-- How a rollout ended. `skipSleep` says that the last ordinal handled needed no waits, so that the
next attempt need not be put off. -/
structure Outcome where
  /-- The last ordinal handled had converged before. -/
  skipSleep : Bool
  /-- The error that stopped the rollout, if one did. -/
  result : Except RolloutError Unit
  deriving Repr

namespace Outcome

/-- The rollout went through. -/
def completed (skipSleep : Bool) : Outcome :=
  ⟨skipSleep, .ok ()⟩

/-- The rollout was stopped. -/
def failed (skipSleep : Bool) (e : RolloutError) : Outcome :=
  ⟨skipSleep, .error e⟩

end Outcome

namespace Strategy

/-- The spacing of the looks at one replica. -/
def backoff (s : Strategy) (g : Gates) : Backoff :=
  let b := Backoff.ofTiming g.timing
  if s.jitter then b else b.withoutJitter

/-- The name of the point at which health is asked for. -/
def checkpoint (id : WorkloadId) : String :=
  s!"between updating replicas for {id.name}"

/-- Update one ordinal that has not converged. Returns the working copy as well, whether or not the
update succeeds. -/
def updateOrdinal (s : Strategy) (g : Gates) (id : WorkloadId) (working : WorkloadSet)
    (p : UInt32) : Program (WorkloadSet × Except RolloutError Unit) := do
  if let .error cause ← g.awaitReady then
    return (working, .error (.readinessWait p cause))
  let desired := working.spec.template
  let working := working.withPartition p
  if let .error e ← updateWithRetry s.retry id working p (·.withTemplate desired) then
    return (working, .error (e.addOrdinal p))
  match ← poll s.rounds (s.backoff g) (s.verifier.check working id p) with
  | .error (.timedOut attempts elapsed last) =>
    return (working, .error (.verificationTimeout p attempts elapsed last))
  | .error (.cancelled _) => return (working, .error (.cancelled p))
  | .ok _ =>
    match ← .call (.get id) with
    | .error e => return (working, .error ((RolloutError.ofStore id e).addOrdinal p))
    | .ok latest =>
      if let .error cause ← g.probeHealth (checkpoint id) p then
        return (latest, .error (.healthProbe (checkpoint id) p cause))
      return (latest, .ok ())

/-- Handle the `count` lowest ordinals, highest first. -/
def walk (s : Strategy) (g : Gates) (id : WorkloadId) :
    (count : Nat) → (working : WorkloadSet) → (skipSleep : Bool) → Program (WorkloadSet × Outcome)
  | 0, working, skipSleep => return (working, .completed skipSleep)
  | count + 1, working, skipSleep => do
    let p := UInt32.ofNat count
    if ← .call .stopping then
      return (working, .failed skipSleep (.cancelled p))
    match ← s.verifier.verify working id p with
    | .ok () => walk s g id count working true
    | .error _ =>
      let (working, result) ← s.updateOrdinal g id working p
      match result with
      | .error e => return (working, .failed false e)
      | .ok () => walk s g id count working false

/-- Roll a working copy out to its replicas. Returns the working copy as it is at the end. -/
def rollOut (s : Strategy) (g : Gates) (id : WorkloadId) (working : WorkloadSet) :
    Program (WorkloadSet × Outcome) :=
  s.walk g id working.spec.replicas.toNat working false

end Strategy

end PartitionedRollout
