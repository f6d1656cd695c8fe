/-
# PartitionedRollout.Proofs.Command.Report -- what a report leaves in the store

A report on a replica is refused for one of three reasons, all of which are about the specification
of the stored set, and then nothing is written. Otherwise the set is written with the report
recorded in its status, and nothing else about it changes except its version. As a report changes no
specification, it does not decide whether another one is refused, and two reports on different
replicas come to the same in either order.
-/

import PartitionedRollout.Proofs.Command.Stores
import PartitionedRollout.Proofs.Store.Entry
import PartitionedRollout.Proofs.Workload.Recorded

namespace PartitionedRollout

open Command Store

/-! ## Reports on a stored set -/

/-- A report is refused, given the set that is stored, if there is one. -/
def Command.ReplicaReport.Refused (r : ReplicaReport) : Option WorkloadSet → Prop
  | none => True
  | some w =>
    w.spec.replicas ≤ r.ordinal ∨ r.revision = none ∧ r.ordinal < w.spec.partition.getD 0

/-- What is recorded of the replica: without a revision, that of the stored template. -/
def Command.ReplicaReport.observed (r : ReplicaReport) (w : WorkloadSet) : ReplicaStatus :=
  ⟨r.ordinal, r.revision.getD w.spec.template.revision, r.ready, r.address⟩

/-- The set as it is stored after a report. -/
def WorkloadSet.afterReport (w : WorkloadSet) (r : ReplicaReport) : WorkloadSet :=
  withStatus w (·.record (r.observed w))

/-- What a report does to a set. -/
structure Recorded (r : ReplicaReport) (current stored : WorkloadSet) : Prop where
  /-- The report is what counts for its replica. -/
  reported : stored.status.replica? r.ordinal = some (r.observed current)
  /-- What counts for the others still does. -/
  others : ∀ q, q ≠ r.ordinal → stored.status.replica? q = current.status.replica? q
  /-- Nothing else changes. -/
  id : stored.id = current.id
  spec : stored.spec = current.spec
  generation : stored.generation = current.generation
  observedGeneration : stored.status.observedGeneration = current.status.observedGeneration
  /-- The version counts the write. -/
  resourceVersion : stored.resourceVersion = current.resourceVersion + 1
  /-- Entries in order stay so. -/
  ordered : current.status.Ordered → stored.status.Ordered

section

variable {s : Store} {w : WorkloadSet} {id : WorkloadId} {found : Option WorkloadSet}
  {r r₁ r₂ : ReplicaReport}

theorem recorded_afterReport (w : WorkloadSet) (r : ReplicaReport) :
    Recorded r w (w.afterReport r) where
  reported := w.status.replica?_record_self (r.observed w)
  others _ hq := w.status.replica?_record_of_ne hq
  id := rfl
  spec := rfl
  generation := rfl
  observedGeneration := w.status.observedGeneration_record _
  resourceVersion := rfl
  ordered h := h.record _

/-- A report changes no specification, so it does not matter to another one. -/
theorem Command.ReplicaReport.refused_afterReport :
    r₂.Refused (some (w.afterReport r₁)) ↔ r₂.Refused (some w) :=
  Iff.rfl

/-- Reports on different replicas come to the same in either order. -/
theorem WorkloadSet.afterReport_comm (w : WorkloadSet) (hne : r₁.ordinal ≠ r₂.ordinal) :
    (w.afterReport r₁).afterReport r₂ = (w.afterReport r₂).afterReport r₁ := by
  have hstatus : (w.status.record (r₁.observed w)).record (r₂.observed w) =
      (w.status.record (r₂.observed w)).record (r₁.observed w) := w.status.record_comm hne
  simp only [afterReport, withStatus]
  exact congrArg (fun status => WorkloadSet.mk _ _ _ _ status) hstatus

namespace Store

/-- What is written last is what is stored. -/
theorem write_write (s : Store) (key : String) (w w' : WorkloadSet) :
    (s.write key w).write key w' = s.write key w' := by
  refine congrArg Store.mk (TextMap.eq_of_get? ?_)
  intro k
  simp only [write, TextMap.get?_insert]
  split <;> rfl

theorem report_of_refused (hfound : s.find id = .ok found) (h : r.Refused found) :
    ∃ e, s.report id r = .error e := by
  rw [report, hfound]
  cases found with
  | none => exact ⟨_, rfl⟩
  | some w =>
    by_cases hrange : w.spec.replicas ≤ r.ordinal
    · exact ⟨_, if_pos hrange⟩
    · obtain ⟨hrevision, hbelow⟩ := h.resolve_left hrange
      simp [hrange, ReplicaReport.revisionOn, hrevision, hbelow]

theorem report_of_not_refused (hfound : s.find id = .ok (some w)) (h : ¬ r.Refused (some w)) :
    s.report id r = .ok (w.afterReport r, s.write id.key (w.afterReport r)) := by
  obtain ⟨hrange, hrevision⟩ := not_or.1 h
  have hrevisionOn : r.revisionOn { w with id := id } =
      .ok (r.revision.getD w.spec.template.revision) := by
    rw [ReplicaReport.revisionOn]
    cases hr : r.revision with
    | some revision => rfl
    | none =>
      have hreached : ¬ r.ordinal < w.spec.partition.getD 0 := fun hbelow => hrevision ⟨hr, hbelow⟩
      simp [hreached, WorkloadSet.updateRevision]
  have hupdate : s.updateStatus id
      (·.record ⟨r.ordinal, r.revision.getD w.spec.template.revision, r.ready, r.address⟩) =
        .ok (w.afterReport r, s.write id.key (w.afterReport r)) :=
    updateStatus_eq_ok_iff.2 ⟨w, hfound, rfl, rfl⟩
  rw [report, hfound]
  simp only [hrange, if_false, hrevisionOn, hupdate]

end Store

/-! ## The command -/

namespace Command

variable {σ : Type} {h : Host (StateM σ)} {c : Config} {contents : σ → Option Store} {t : σ}

/-- A refused report leaves the store as it is. -/
theorem run_report_of_refused (hh : h.Keeps c.storePath contents) (ht : contents t = some s)
    (hfound : s.find id = .ok found) (hr : r.Refused found) :
    ∃ f t', (report h c id r).run t = (.error f, t') ∧ contents t' = some s := by
  obtain ⟨t', hopen, ht'⟩ := hh.run_openStore ht
  obtain ⟨e, he⟩ := report_of_refused hfound hr
  refine ⟨.plain e.message, t', ?_, ht'⟩
  rw [report, run_bind_ok hopen]
  simp only [he]
  rfl

/-- Any other report is stored. -/
theorem run_report_of_not_refused (hh : h.Keeps c.storePath contents) (ht : contents t = some s)
    (hfound : s.find id = .ok (some w)) (hr : ¬ r.Refused (some w)) :
    ∃ t', (report h c id r).run t = (.ok (.success ""), t') ∧
      contents t' = some (s.write id.key (w.afterReport r)) := by
  obtain ⟨t₁, hopen, ht₁⟩ := hh.run_openStore ht
  obtain ⟨t₂, hsave, ht₂⟩ := hh.run_saveStore ht₁ (s.write id.key (w.afterReport r))
  refine ⟨t₂, ?_, ht₂⟩
  rw [report, run_bind_ok hopen]
  simp only [report_of_not_refused hfound hr]
  rw [run_bind_ok hsave]
  rfl

/-- A report that succeeds was not refused. -/
theorem stored_of_run_report (hh : h.Keeps c.storePath contents) (ht : contents t = some s)
    (hfound : s.find id = .ok found) {a : Answer} {t' : σ}
    (hrun : (report h c id r).run t = (.ok a, t')) :
    ∃ w, found = some w ∧ ¬ r.Refused (some w) ∧ a = .success "" ∧
      contents t' = some (s.write id.key (w.afterReport r)) := by
  have hr : ¬ r.Refused found := by
    intro hr
    obtain ⟨f, t'', hfail, -⟩ := run_report_of_refused hh ht hfound hr
    cases (Prod.mk.inj (hrun.symm.trans hfail)).1
  cases found with
  | none => exact absurd trivial hr
  | some w =>
    obtain ⟨t'', hsuccess, ht''⟩ := run_report_of_not_refused hh ht hfound hr
    obtain ⟨ha, rfl⟩ := Prod.mk.inj (hrun.symm.trans hsuccess)
    exact ⟨w, rfl, hr, Except.ok.inj ha, ht''⟩

/-- **Reports.** The store is in a file, and an identity has a set there or none. A report fails
exactly if it is refused, and then the store is as it was. Otherwise the set is written with the
report recorded, and nothing else is written. If two reports on different replicas are made one
after the other and succeed, they succeed the other way round as well, and the same is stored in the
end. -/
theorem report_records (hh : h.Keeps c.storePath contents) (ht : contents t = some s)
    (hfound : s.find id = .ok found) :
    (∀ r, ∃ answer t' s', (report h c id r).run t = (answer, t') ∧ contents t' = some s' ∧
      ((∃ f, answer = .error f) ↔ r.Refused found) ∧
      (r.Refused found → s' = s) ∧
      (¬ r.Refused found → ∃ current stored, found = some current ∧ s' = s.write id.key stored ∧
        s'.find id = .ok (some stored) ∧ Recorded r current stored)) ∧
    ∀ r₁ r₂ a₁ a₂ t₁ t₁₂, r₁.ordinal ≠ r₂.ordinal →
      (report h c id r₁).run t = (.ok a₁, t₁) → (report h c id r₂).run t₁ = (.ok a₂, t₁₂) →
      ∃ t₂ t₂₁ s', (report h c id r₂).run t = (.ok a₂, t₂) ∧
        (report h c id r₁).run t₂ = (.ok a₁, t₂₁) ∧
        contents t₁₂ = some s' ∧ contents t₂₁ = some s' := by
  constructor
  · intro r
    by_cases hr : r.Refused found
    · obtain ⟨f, t', hrun, ht'⟩ := run_report_of_refused hh ht hfound hr
      exact ⟨_, t', s, hrun, ht', by simp [hr], fun _ => rfl, fun h => absurd hr h⟩
    · cases found with
      | none => exact absurd trivial hr
      | some w =>
        obtain ⟨t', hrun, ht'⟩ := run_report_of_not_refused hh ht hfound hr
        refine ⟨_, t', _, hrun, ht', by simp [hr], fun h => absurd h hr, fun _ => ?_⟩
        exact ⟨w, w.afterReport r, rfl, rfl, by simp [find], recorded_afterReport w r⟩
  · intro r₁ r₂ a₁ a₂ t₁ t₁₂ hne hfirst hsecond
    have hagain : ∀ (r : ReplicaReport) (w : WorkloadSet),
        (s.write id.key (w.afterReport r)).find id = .ok (some (w.afterReport r)) :=
      fun r w => by simp [find]
    obtain ⟨w, rfl, hr₁, rfl, ht₁⟩ := stored_of_run_report hh ht hfound hfirst
    obtain ⟨_, ⟨⟩, hr₂, rfl, ht₁₂⟩ := stored_of_run_report hh ht₁ (hagain r₁ w) hsecond
    -- Neither report matters to whether the other one is refused.
    obtain ⟨t₂, hrun₂, ht₂⟩ :=
      run_report_of_not_refused hh ht hfound (ReplicaReport.refused_afterReport.not.1 hr₂)
    obtain ⟨t₂₁, hrun₂₁, ht₂₁⟩ := run_report_of_not_refused hh ht₂ (hagain r₂ w)
      (ReplicaReport.refused_afterReport.not.2 hr₁)
    refine ⟨t₂, t₂₁, _, hrun₂, hrun₂₁, ht₁₂, ?_⟩
    rw [ht₂₁, write_write, write_write, w.afterReport_comm hne]

end Command

end

/-! ## A report among entries without order -/

namespace Unordered

/-- The set that is reported on. -/
def id : WorkloadId :=
  ⟨"db", "cockroach"⟩

/-- Three replicas, of which the last one has two entries, in front of that of the first one. -/
def start : WorkloadSet :=
  putOver none
    { WorkloadSet.ofSpec id 3 (.ofImage "v1") with
      status := ⟨1, [⟨2, "new", true, none⟩, ⟨0, "old", true, none⟩, ⟨2, "old", false, none⟩]⟩ }

/-- The store. -/
def store : Store :=
  Store.empty.write id.key start

/-- A configuration that names the file of the store. -/
def config : Config :=
  { Config.empty with store := some ⟨some "state.redb"⟩ }

/-- The file with the store. -/
def tree : FileTree :=
  FileTree.empty.put (FileTree.home ++ ["state.redb"]) (.store store)

/-- The report on the replica in the middle. -/
def middle : ReplicaReport :=
  ⟨1, some "new", true, none⟩

/-- A report on the first replica, which does not say what it runs. -/
def first : ReplicaReport :=
  ⟨0, none, true, none⟩

end Unordered

/-- The entry in front still counts for the last replica, although all are sorted. The report that
does not say what the first replica runs stands for the stored template. -/
theorem Command.report_records_unordered :
    (∃ answer t' stored,
      (report FileTree.host Unordered.config Unordered.id Unordered.middle).run Unordered.tree =
        (answer, t') ∧
      t'.storeIn "state.redb" = some (Unordered.store.write Unordered.id.key stored) ∧
      stored.status.replica? 1 = some ⟨1, "new", true, none⟩ ∧
      stored.status.replica? 2 = some ⟨2, "new", true, none⟩) ∧
    ∃ answer t' stored,
      (report FileTree.host Unordered.config Unordered.id Unordered.first).run Unordered.tree =
        (answer, t') ∧
      t'.storeIn "state.redb" = some (Unordered.store.write Unordered.id.key stored) ∧
      stored.status.replica? 0 = some ⟨0, (Template.ofImage "v1").revision, true, none⟩ ∧
      stored.status.replica? 2 = some ⟨2, "new", true, none⟩ := by
  have hkeeps : FileTree.host.Keeps Unordered.config.storePath (FileTree.storeIn "state.redb") :=
    FileTree.host_keeps FileTree.plainName_state
  have hfound : Unordered.store.find Unordered.id = .ok (some Unordered.start) := by
    simp [Unordered.store, find]
  have htree : Unordered.tree.storeIn "state.redb" = some Unordered.store :=
    FileTree.storeIn_put _ _ _
  have hrecords := (report_records hkeeps htree hfound).1
  constructor
  · obtain ⟨answer, t', s', hrun, ht', -, -, hstored⟩ := hrecords Unordered.middle
    obtain ⟨current, stored, hcurrent, rfl, -, hrecorded⟩ := hstored (by
      rintro (hrange | ⟨hrevision, -⟩)
      · exact absurd hrange (by decide)
      · cases hrevision)
    obtain rfl := Option.some.inj hcurrent
    exact ⟨answer, t', stored, hrun, ht', hrecorded.reported, hrecorded.others 2 (by decide)⟩
  · obtain ⟨answer, t', s', hrun, ht', -, -, hstored⟩ := hrecords Unordered.first
    obtain ⟨current, stored, hcurrent, rfl, -, hrecorded⟩ := hstored (by
      rintro (hrange | ⟨-, hbelow⟩)
      · exact absurd hrange (by decide)
      · exact absurd hbelow (by decide))
    obtain rfl := Option.some.inj hcurrent
    exact ⟨answer, t', stored, hrun, ht', hrecorded.reported, hrecorded.others 2 (by decide)⟩

end PartitionedRollout
