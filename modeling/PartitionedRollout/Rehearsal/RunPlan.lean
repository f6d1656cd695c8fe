/-
# PartitionedRollout.Rehearsal.RunPlan -- rehearsals of whole rollouts

A plan says what one run rolls out, how its gates behave, and what others do meanwhile. Runs
may follow each other in one cluster: the store and the clock go on, what is still to come
still comes, and every run has a shutdown signal and a log of its own.
-/

import PartitionedRollout.Health.ClusterProbe
import PartitionedRollout.Health.Readiness
import PartitionedRollout.Rehearsal.Reply
import PartitionedRollout.Rollout.Controller

namespace PartitionedRollout

/-- A run and its surroundings. -/
structure RunPlan where
  /-- The workload set to roll out. -/
  id : WorkloadId
  /-- What others do just before the run. -/
  before : Action
  /-- What others do so many milliseconds after the start. -/
  timeline : List (Nat × Action)
  /-- The desired set. -/
  desired : DesiredChange
  /-- The calls of a scripted readiness gate. -/
  readiness : List GateScript
  /-- The calls of a scripted health gate. -/
  health : List GateScript
  /-- The settings of a readiness gate that reads the store, in place of a scripted one. -/
  storeReadiness : Option ReadinessSettings
  /-- The settings of a health gate that sends requests, in place of a scripted one. -/
  httpHealth : Option HealthSettings
  /-- The pacing. -/
  timing : Timing
  /-- The budget for conflicts. -/
  retry : ConflictRetry
  /-- Draw the waits of polls at random. -/
  jitter : Bool
  /-- The strategy is called on a set that has been read and transformed before. -/
  direct : Bool

namespace Cluster

/-- Do what a timeline says of the start, and put the rest of it on the calendar. -/
def prepare (c : Cluster) (timeline : List (Nat × Action)) : Cluster :=
  let c := timeline.foldl (fun c e => if e.1 = 0 then c.act e.2 else c) c
  timeline.foldl (fun c e => if e.1 = 0 then c else c.schedule e.1 (.act e.2)) c

/-- The cluster at the start of a run. -/
def begin (c : Cluster) (p : RunPlan) : Cluster :=
  let c := { c with
    signal := .fresh
    readiness := p.readiness
    health := p.health
    desired := p.desired
    log := [] }
  (c.prepare p.timeline).act p.before

end Cluster

namespace RunPlan

/-- The gates of a run. -/
def gates (p : RunPlan) (rounds : Nat) : Gates :=
  let scripted := Gates.external p.timing
  { scripted with
    awaitReady := match p.storeReadiness with
      | none => scripted.awaitReady
      | some s => PartitionedRollout.awaitReady rounds s p.id
    probeHealth := match p.httpHealth with
      | none => scripted.probeHealth
      | some s => fun checkpoint _ => probeCluster rounds s p.id checkpoint }

/-- The strategy of a run. -/
def strategy (p : RunPlan) (rounds : Nat) : Strategy :=
  ⟨.revision, p.retry, p.jitter, rounds⟩

/-- The whole run. -/
def program (p : RunPlan) (rounds : Nat) : Program Outcome :=
  rollOutSuite (p.gates rounds) ⟨externalTransform, p.strategy rounds⟩ p.id

/-- Run the strategy alone, on a set that is read and transformed before. The log ends with the
working copy. -/
def rehearseDirect (p : RunPlan) (rounds : Nat) (c : Cluster) : Ending Outcome × Cluster :=
  match c.store.get p.id with
  | .error e => (.ok (.failed false (.ofStore p.id e)), c)
  | .ok current =>
    match c.rehearse (externalTransform current) with
    | (.error h, c) => (.error h, c)
    | (.ok (.error cause), c) => (.ok (.failed false (.transform p.id cause)), c)
    | (.ok (.ok desired), c) =>
      match c.rehearse ((p.strategy rounds).rollOut (p.gates rounds) p.id desired) with
      | (.error h, c) => (.error h, c)
      | (.ok (working, outcome), c) =>
        (.ok outcome,
          c.note s!"working copy rv {working.resourceVersion} cancelled {c.signal.stop}")

/-- Rehearse a run in a cluster. -/
def rehearse (p : RunPlan) (rounds : Nat) (c : Cluster) : Ending Outcome × Cluster :=
  let c := c.begin p
  if p.direct then p.rehearseDirect rounds c else c.rehearse (p.program rounds)

end RunPlan

end PartitionedRollout
