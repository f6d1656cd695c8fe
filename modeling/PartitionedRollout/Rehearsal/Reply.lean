/-
# PartitionedRollout.Rehearsal.Reply -- how a simulated cluster answers requests

Store calls are carried out on the simulated store, unless the script of the rehearsal makes
them fail, and noted in the log. Waits let time pass. Gates and checks do what their scripts
say, and a draw gives the interval itself.
-/

import PartitionedRollout.Rehearsal.Cluster
import PartitionedRollout.Rollout.Backoff

namespace PartitionedRollout.Cluster

/-- The result of a store call as the log shows it. -/
def showResult : Except StoreError WorkloadSet → String
  | .ok w => s!"rv {w.resourceVersion}"
  | .error e => s!"error {e.label}"

/-- A partition as the log shows it. -/
def showPartition : Option UInt32 → String
  | none => "none"
  | some p => toString p

/-- Carry out a store call under the first entry of a script. -/
def scripted (c : Cluster) (script : List CallScript)
    (call : Cluster → Except StoreError WorkloadSet × Cluster) :
    Except StoreError WorkloadSet × Cluster :=
  match script with
  | [] => call c
  | .after a :: _ => call (c.act a)
  | .fail e :: _ => (.error e, c)

/-- Read a workload set. -/
def get (c : Cluster) (id : WorkloadId) : Except StoreError WorkloadSet × Cluster :=
  let (x, c) := { c with gets := c.gets.drop 1 }.scripted c.gets fun c => (c.store.get id, c)
  (x, c.note s!"get {id} -> {showResult x}")

/-- Replace the specification of a workload set. The replicas react after a success. -/
def update (c : Cluster) (w : WorkloadSet) : Except StoreError WorkloadSet × Cluster :=
  let (x, c) := { c with updates := c.updates.drop 1 }.scripted c.updates fun c =>
    match c.store.update w with
    | .ok (stored, store) => (.ok stored, { c with store := store })
    | .error e => (.error e, c)
  let c := c.note <|
    s!"update rv {w.resourceVersion} partition {showPartition w.spec.partition} -> {showResult x}"
  match x with
  | .ok stored => (x, c.reactAll stored)
  | .error _ => (x, c)

/-- The result of something that fails or not. -/
def resultOf : Option Failure → Except Failure Unit
  | none => .ok ()
  | some f => .error f

/-- Call a gate under the first entry of its script. -/
def gate (c : Cluster) (script : List GateScript) (text : String) :
    Except Failure Unit × Cluster :=
  let s := script.headD .plain
  let c := ((c.pass s.takes).note text).act s.action
  (resultOf s.failure, c)

/-- The script of the next check. -/
def nextCheck (c : Cluster) : CheckScript :=
  c.checks.headD ⟨none, none⟩

/-- Note that a check is begun. -/
def beginCheck (c : Cluster) : Cluster :=
  let checks := match c.checks with
    | _ :: s :: rest => s :: rest
    | l => l
  { c with checks := checks, checked := c.checked + 1 }.note s!"check {c.checked + 1}"

/-- Send an HTTP request. A server that never answers uses up the budget. -/
def fetch (c : Cluster) (r : HttpRequest) (timeout : TimeSpan) : Option UInt16 × Cluster :=
  let (answer, network) := c.network.send r
  let c := { c with network := network }
  match answer with
  | none => (none, c)
  | some .hang => (none, (c.waitFor timeout.ceilMillis false).2)
  | some a => (a.code?, c)

/-- Answer a request. -/
def answer (c : Cluster) : (r : Request) → r.Reply × Cluster
  | .get id => c.get id
  | .update w => c.update w
  | .transform w => (c.desired.apply w, c.note "transform")
  | .verify _ _ => (resultOf c.nextCheck.failure, c.beginCheck.pass c.nextCheck.takes)
  | .check _ _ =>
    let s := c.nextCheck
    let c := c.beginCheck
    match s.takes with
    | none => (some (resultOf s.failure), c)
    | some n =>
      let (stopped, c) := c.waitFor n true
      (if stopped then none else some (resultOf s.failure), c)
  | .awaitReady => { c with readiness := c.readiness.drop 1 }.gate c.readiness "readiness"
  | .probeHealth checkpoint ordinal =>
    { c with health := c.health.drop 1 }.gate c.health s!"health {ordinal} {checkpoint}"
  | .stopping => (c.signal.stop, c)
  | .sleep d => c.waitFor d.ceilMillis true
  | .now => (.ofMillis (UInt64.ofNat c.clock), c)
  | .draw interval _ => (interval.scale? ⟨1, 1⟩, c)
  | .fetch r timeout => c.fetch r timeout

/-- Run a program in a cluster. -/
def rehearse {α : Type} (c : Cluster) (p : Program α) : Ending α × Cluster :=
  p.run answer c

end PartitionedRollout.Cluster
