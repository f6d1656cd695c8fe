/-
# PartitionedRollout.Health.ClusterProbe -- health checks of every replica

A checkpoint runs in rounds. A round reads the stored set and sends a health request to every
replica in ascending order; the first one that has no address or does not answer with a
success decides the round. The rounds feed a tracker, whose verdict ends the checkpoint.
-/

import PartitionedRollout.Health.Tracker
import PartitionedRollout.Rollout.Program

namespace PartitionedRollout

/-- Request a path of an address. What cannot be sent fails like what is not answered. -/
def httpProbe (address path : String) (timeout : TimeSpan) : Program ProbeResult :=
  match HttpRequest.of? address path with
  | none => return .failed
  | some r => ProbeResult.ofStatus <$> .call (.fetch r timeout)

/-- Request the health of `count` replicas from a given ordinal on, up to the first bad one. -/
def probeReplicas (s : HealthSettings) (status : WorkloadStatus) :
    (count ordinal : Nat) → Program ProbeResult
  | 0, _ => return .healthy
  | count + 1, ordinal =>
    match (status.replica? (UInt32.ofNat ordinal)).bind (·.address) with
    | none => return .failed
    | some address => do
      match ← httpProbe address s.endpoint s.timeout with
      | .healthy => probeReplicas s status count (ordinal + 1)
      | bad => return bad

/-- One round. -/
def probeRound (s : HealthSettings) (id : WorkloadId) : Program ProbeResult := do
  match ← .call (.get id) with
  | .error _ => return .failed
  | .ok w => probeReplicas s w.status w.spec.replicas.toNat 0

/-- The rounds of a checkpoint, from a given state of the count on. How many rounds there were is not
kept: nothing depends on it, and only a log would show it. -/
def probeClusterFrom (s : HealthSettings) (id : WorkloadId) (checkpoint : String) :
    (rounds : Nat) → HealthTracker → Program (Except Failure Unit)
  | 0, _ => .halt .exhausted
  | rounds + 1, t => do
    if ← .call .stopping then
      return .error (.plain s!"cancelled while checking cluster health {checkpoint}")
    let t ← .ofOption (t.record? (← probeRound s id))
    match t.status with
    | .healthy => return .ok ()
    | .unhealthy =>
      return .error
        (.plain s!"cluster unhealthy {checkpoint}: {t.failures} failed rounds in a row")
    | .unknown =>
      if ← .call (.sleep t.nextInterval) then
        return .error (.plain s!"cancelled while checking cluster health {checkpoint}")
      probeClusterFrom s id checkpoint rounds t

/-- Check the health of a cluster at a checkpoint. -/
def probeCluster (rounds : Nat) (s : HealthSettings) (id : WorkloadId) (checkpoint : String) :
    Program (Except Failure Unit) :=
  probeClusterFrom s id checkpoint rounds (.ofSettings s)

end PartitionedRollout
