/-
# PartitionedRollout.Rehearsal.Cluster -- a simulated cluster

The cluster has a store, a shutdown signal, and a clock in milliseconds that only moves while
somebody waits. Events are due at given instants: deeds of others, and replicas that finish
moving to another revision. A wait handles every event that falls due before it ends, in order
of time, and events of one instant before the signal is looked at again. Who has waited goes
first: an event due at the very end of a wait happens only when somebody waits again. Replicas
start to move when an update of the specification succeeds, and only those at or above its
partition do.
-/

import PartitionedRollout.Rehearsal.Action
import PartitionedRollout.Rehearsal.Network
import PartitionedRollout.Rollout.Failure
import PartitionedRollout.Rollout.Transform
import PartitionedRollout.Store.Basic
import PartitionedRollout.TimeSpan.Basic
import PartitionedRollout.Workload.Revision

namespace PartitionedRollout

/-- The shutdown signal. -/
structure Signal where
  /-- The rollout is told to stop. -/
  stop : Bool
  /-- Somebody can still change the signal. -/
  attached : Bool
  deriving DecidableEq, Repr

/-- The signal at the start: nobody has told anything yet. -/
def Signal.fresh : Signal :=
  ⟨false, true⟩

/-- The signal after somebody sent a value. -/
def Signal.send (s : Signal) (stop : Bool) : Signal :=
  if s.attached then { s with stop := stop } else s

/-- How a replica reacts to an update. -/
structure AgentRule where
  /-- The replica serves when it has moved. -/
  ready : Bool
  /-- The replica never moves. -/
  stuck : Bool
  /-- The milliseconds that the move takes; without any it is done at once. -/
  delay : Nat
  deriving DecidableEq, Repr

/-- The reactions of all replicas. -/
structure Agents where
  /-- The rules of single replicas. -/
  rules : List (UInt32 × AgentRule)
  /-- The rule of every other replica; without one it never moves. -/
  fallback : Option AgentRule
  deriving DecidableEq, Repr

/-- The rule of a replica that moves at all. -/
def Agents.rule? (a : Agents) (ordinal : UInt32) : Option AgentRule :=
  ((a.rules.lookup ordinal).or a.fallback).filter fun r => !r.stuck

/-- What falls due at some instant. -/
inductive Work where
  /-- Somebody else does something. -/
  | act (action : Action)
  /-- A replica has moved to a revision. -/
  | settle (ordinal : UInt32) (revision : String) (ready : Bool)
  deriving Repr

/-- Something that will happen. -/
structure Event where
  /-- The instant. -/
  due : Nat
  /-- What happens. -/
  work : Work
  deriving Repr

/-- What a gate does when it is called. -/
structure GateScript where
  /-- The milliseconds that it takes. -/
  takes : Option Nat
  /-- What is done at its end. -/
  action : Action
  /-- Its failure, if it fails. -/
  failure : Option Failure
  deriving Repr

/-- A gate that succeeds at once. -/
def GateScript.plain : GateScript :=
  ⟨none, [], none⟩

/-- What a check does when it is called. -/
structure CheckScript where
  /-- The milliseconds that it takes. -/
  takes : Option Nat
  /-- Its failure, if it fails. -/
  failure : Option Failure
  deriving Repr

/-- The desired set, as changes to the current one. -/
structure DesiredChange where
  /-- The transform fails. -/
  failure : Option Failure
  /-- The image. -/
  image : Option String
  /-- Entries laid over the environment. -/
  env : Option (TextMap String)
  /-- The arguments. -/
  args : Option (List String)
  /-- The number of replicas. -/
  replicas : Option UInt32
  /-- The partition. -/
  partition : Option UInt32
  deriving Repr

namespace DesiredChange

/-- The desired set is the current one. -/
def identity : DesiredChange :=
  ⟨none, none, none, none, none, none⟩

/-- The changes behind the image. -/
def applyFields (d : DesiredChange) (w : WorkloadSet) : WorkloadSet :=
  let t := w.spec.template
  let t := { t with env := (d.env.map t.env.union).getD t.env, args := d.args.getD t.args }
  { w with spec := ⟨d.replicas.getD w.spec.replicas, t, d.partition.or w.spec.partition⟩ }

/-- The desired set. -/
def apply (d : DesiredChange) (w : WorkloadSet) : Except Failure WorkloadSet :=
  match d.failure, d.image with
  | some f, _ => .error f
  | none, none => .ok (d.applyFields w)
  | none, some image => (setImage image w).map d.applyFields

end DesiredChange

/-- A line of a log: when and what. -/
structure LogLine where
  /-- The instant. -/
  instant : Nat
  /-- The text. -/
  text : String
  deriving DecidableEq, Repr

/-- A simulated cluster. -/
structure Cluster where
  /-- The store. -/
  store : Store
  /-- The workload set that others act on. -/
  id : WorkloadId
  /-- The milliseconds since the start. -/
  clock : Nat
  /-- The shutdown signal. -/
  signal : Signal
  /-- What will happen, in order of time. -/
  pending : List Event
  /-- What happens to the reads to come. -/
  gets : List CallScript
  /-- What happens to the updates to come. -/
  updates : List CallScript
  /-- The reactions of the replicas. -/
  agents : Agents
  /-- The calls of the readiness gate to come. -/
  readiness : List GateScript
  /-- The calls of the health gate to come. -/
  health : List GateScript
  /-- The checks to come; the last one repeats. -/
  checks : List CheckScript
  /-- The number of checks that have been begun. -/
  checked : Nat
  /-- The desired set. -/
  desired : DesiredChange
  /-- The servers of the replicas. -/
  network : Network
  /-- What has happened, latest first. -/
  log : List LogLine

namespace Cluster

/-- A cluster in which nothing happens by itself. -/
def ofStore (store : Store) (id : WorkloadId) : Cluster where
  store := store
  id := id
  clock := 0
  signal := .fresh
  pending := []
  gets := []
  updates := []
  agents := ⟨[], none⟩
  readiness := []
  health := []
  checks := []
  checked := 0
  desired := .identity
  network := .empty
  log := []

/-- Write a line into the log. -/
def note (c : Cluster) (text : String) : Cluster :=
  { c with log := ⟨c.clock, text⟩ :: c.log }

/-- The workload set that others act on, if it can be read. -/
def stored? (c : Cluster) : Option WorkloadSet :=
  match c.store.find c.id with
  | .ok w => w
  | .error _ => none

/-! ## Deeds -/

/-- The store after a write, or as it was if the write was refused. -/
def afterWrite (c : Cluster) (r : Except StoreError (WorkloadSet × Store)) : Cluster :=
  match r with
  | .ok (_, s) => { c with store := s }
  | .error _ => c

/-- Do one thing. -/
def perform (c : Cluster) : Deed → Cluster
  | .race => c.afterWrite (c.store.updateStatus c.id (StatusEdit.apply · .bump))
  | .delete => { c with store := (c.store.delete c.id).2 }
  | .cancel => { c with signal := c.signal.send true }
  | .uncancel => { c with signal := c.signal.send false }
  | .dropSender => { c with signal := { c.signal with attached := false } }
  | .status edits => c.afterWrite (c.store.updateStatus c.id (StatusEdit.applyAll edits))
  | .put w => c.afterWrite (c.store.put w)
  | .spec edit =>
    match c.stored? with
    | none => c
    | some w => c.afterWrite (c.store.update { w with spec := edit.apply w.spec })

/-- Do a list of things. -/
def act (c : Cluster) (a : Action) : Cluster :=
  a.foldl perform c

/-- Report that a replica has moved to a revision. Replicas report to the set that others act on,
whichever set was updated. -/
def settle (c : Cluster) (ordinal : UInt32) (revision : String) (ready : Bool) : Cluster :=
  c.afterWrite (c.store.updateStatus c.id fun s =>
    s.modifyReplica ordinal fun r => { r with revision := revision, ready := ready })

/-- Do what has fallen due. What others do is in the log before it is done, what a replica did
after it. -/
def happen (c : Cluster) : Work → Cluster
  | .act a => (c.note "timeline").act a
  | .settle ordinal revision ready =>
    (c.settle ordinal revision ready).note s!"agent {ordinal}"

/-! ## Time -/

/-- Put an event at its place in a list in order of time, behind the ones of the same instant. -/
def insertEvent (e : Event) : List Event → List Event
  | [] => [e]
  | f :: rest => if e.due < f.due then e :: f :: rest else f :: insertEvent e rest

/-- Let something happen a number of milliseconds from now. -/
def schedule (c : Cluster) (delay : Nat) (w : Work) : Cluster :=
  { c with pending := insertEvent ⟨c.clock + delay, w⟩ c.pending }

/-- Something else is due at the given instant. -/
def dueAt (instant : Nat) : List Event → Bool
  | [] => false
  | e :: _ => e.due == instant

/-- Let the clock run to an instant, with everything that falls due before it. Stops early, and says
so, if it may and the signal tells to stop. -/
def advance (deadline : Nat) (mayStop : Bool) : List Event → Cluster → Bool × Cluster
  | [], c => (false, { c with clock := deadline, pending := [] })
  | e :: rest, c =>
    if deadline ≤ e.due then (false, { c with clock := deadline, pending := e :: rest })
    else
      let c := { c with clock := e.due }.happen e.work
      if mayStop && c.signal.stop && !dueAt e.due rest then (true, { c with pending := rest })
      else advance deadline mayStop rest c

/-- Wait until an instant. An instant that has passed is not waited for. -/
def waitUntil (c : Cluster) (deadline : Nat) (mayStop : Bool) : Bool × Cluster :=
  if mayStop && c.signal.stop then (true, c)
  else if deadline ≤ c.clock then (false, c)
  else advance deadline mayStop c.pending c

/-- The milliseconds of thirty years of 365 days. No wait takes longer. -/
def longestWait : Nat :=
  30 * 365 * 24 * 3600 * 1000

/-- Wait for some milliseconds. -/
def waitFor (c : Cluster) (millis : Nat) (mayStop : Bool) : Bool × Cluster :=
  c.waitUntil (c.clock + min millis longestWait) mayStop

/-- Wait for some milliseconds, whatever the signal says. -/
def pass (c : Cluster) (takes : Option Nat) : Cluster :=
  match takes with
  | none => c
  | some n => (c.waitFor n false).2

/-! ## Replicas -/

/-- Let a replica react to an update that stored `w`. A move that takes time is made only by a
replica that does not run the revision yet. -/
def react (w : WorkloadSet) (c : Cluster) (r : ReplicaStatus) : Cluster :=
  if r.ordinal < w.spec.partition.getD 0 then c
  else
    match c.agents.rule? r.ordinal with
    | none => c
    | some rule =>
      let revision := w.updateRevision
      if rule.delay = 0 then c.settle r.ordinal revision rule.ready
      else if r.revision = revision then c
      else c.schedule rule.delay (.settle r.ordinal revision rule.ready)

/-- Let every replica react to an update. -/
def reactAll (c : Cluster) (w : WorkloadSet) : Cluster :=
  w.status.replicas.foldl (react w) c

end Cluster

end PartitionedRollout
