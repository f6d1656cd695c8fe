/-
# PartitionedRollout.Rehearsal.Action -- what others do while a rollout runs

A rehearsal runs a program in a simulated cluster in which others are at work as well: they
write to the store and they send and withdraw the shutdown signal. An action is a list of such
deeds, done in order and without a pause.
-/

import PartitionedRollout.Store.Error
import PartitionedRollout.Workload.Basic

namespace PartitionedRollout

/-- A change of a status. -/
inductive StatusEdit where
  /-- Replace the first report with the ordinal of this one, or append it if there is none. -/
  | set (report : ReplicaStatus)
  /-- Append a report. -/
  | push (report : ReplicaStatus)
  /-- Say of a replica whether it serves, if it has reported. -/
  | ready (ordinal : UInt32) (value : Bool)
  /-- Remove every report of a replica. -/
  | remove (ordinal : UInt32)
  /-- Forget everything. -/
  | clear
  /-- Set the observed generation. -/
  | generation (value : UInt64)
  /-- Raise the observed generation by one. -/
  | bump
  deriving DecidableEq, Repr

/-- The status after a change. -/
def StatusEdit.apply (s : WorkloadStatus) : StatusEdit → WorkloadStatus
  | .set r =>
    match s.replica? r.ordinal with
    | none => ⟨s.observedGeneration, s.replicas ++ [r]⟩
    | some _ => s.modifyReplica r.ordinal fun _ => r
  | .push r => ⟨s.observedGeneration, s.replicas ++ [r]⟩
  | .ready o b => s.modifyReplica o fun r => { r with ready := b }
  | .remove o => ⟨s.observedGeneration, s.replicas.filter fun r => r.ordinal != o⟩
  | .clear => .empty
  | .generation n => ⟨n, s.replicas⟩
  | .bump => ⟨s.observedGeneration + 1, s.replicas⟩

/-- The status after a list of changes. -/
def StatusEdit.applyAll (edits : List StatusEdit) (s : WorkloadStatus) : WorkloadStatus :=
  edits.foldl StatusEdit.apply s

/-- New values for whole fields of a specification; absent ones stay. -/
structure SpecEdit where
  /-- The number of replicas. -/
  replicas : Option UInt32
  /-- The template. -/
  template : Option Template
  /-- The partition, or that there is none. -/
  partition : Option (Option UInt32)
  deriving DecidableEq, Repr

/-- The specification with the new values. -/
def SpecEdit.apply (e : SpecEdit) (s : WorkloadSpec) : WorkloadSpec :=
  ⟨e.replicas.getD s.replicas, e.template.getD s.template, e.partition.getD s.partition⟩

/-- One thing that somebody else does. -/
inductive Deed where
  /-- Write a status that differs in the observed generation only. -/
  | race
  /-- Remove the workload set. -/
  | delete
  /-- Send the shutdown signal. -/
  | cancel
  /-- Withdraw the shutdown signal. -/
  | uncancel
  /-- Go away without a word: the signal stays as it is for good. -/
  | dropSender
  /-- Write a status. -/
  | status (edits : List StatusEdit)
  /-- Put a whole workload set. -/
  | put (w : WorkloadSet)
  /-- Read the workload set and write it back with another specification. -/
  | spec (edit : SpecEdit)
  deriving DecidableEq, Repr

/-- Things done in order and without a pause. -/
abbrev Action := List Deed

/-- What happens to a store call. -/
inductive CallScript where
  /-- The action is done just before the call. -/
  | after (action : Action)
  /-- The call fails and does nothing. -/
  | fail (e : StoreError)
  deriving Repr

end PartitionedRollout
