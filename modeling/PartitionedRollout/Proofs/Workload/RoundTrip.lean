/-
# PartitionedRollout.Proofs.Workload.RoundTrip -- stored workload sets read back

What a store writes for a workload set is read back as the same set. Each record is written with
all its fields, so that reading never falls back on a default, and each map of texts is written in
key order, so that reading puts every entry behind the ones before it.
-/

import PartitionedRollout.Proofs.Json.Records
import PartitionedRollout.Workload.Record

namespace PartitionedRollout

open Json

/-! ## Records -/

theorem Template.plain_toJson (t : Template) : Plain t.toJson := by
  refine plain_record ?_
  simp only [List.forall_mem_cons, List.not_mem_nil, false_implies, implies_true, and_true]
  refine ⟨plain_text _, .array ?_, plain_record ?_⟩
  · intro v hv
    obtain ⟨s, -, rfl⟩ := List.mem_map.1 hv
    exact plain_text s
  · intro m hm
    obtain ⟨e, -, rfl⟩ := List.mem_map.1 hm
    exact plain_text e.2

@[simp]
theorem Template.ofJson?_toJson (t : Template) : Template.ofJson? t.toJson = some t := by
  have hargs : list? string? (.array (t.args.map .text)) = some t.args := list?_map string?_text _
  rw [Template.ofJson?, Template.toJson, fields?_record]
  · simp [Fields.required, Fields.defaulted, hargs]
  · rfl
  · decide

theorem WorkloadSpec.plain_toJson (s : WorkloadSpec) : Plain s.toJson := by
  refine plain_record ?_
  simp only [List.forall_mem_cons, List.not_mem_nil, false_implies, implies_true, and_true]
  refine ⟨.natural _, s.template.plain_toJson, plain_record ?_⟩
  simp only [List.forall_mem_cons, List.not_mem_nil, false_implies, implies_true, and_true]
  cases s.partition with
  | none => exact .null
  | some p => exact .natural _

@[simp]
theorem partitionOfJson?_record (p : Option UInt32) :
    partitionOfJson? (.record [("partition", optionJson (fun p => .natural p.toNat) p)]) =
      some p := by
  rw [partitionOfJson?, fields?_record]
  · cases p <;> simp [Fields.optional, optionJson]
  · rfl
  · decide

@[simp]
theorem WorkloadSpec.ofJson?_toJson (s : WorkloadSpec) :
    WorkloadSpec.ofJson? s.toJson = some s := by
  rw [WorkloadSpec.ofJson?, WorkloadSpec.toJson, fields?_record]
  · simp [Fields.required, Fields.defaulted]
  · rfl
  · decide

theorem ReplicaStatus.plain_toJson (r : ReplicaStatus) : Plain r.toJson := by
  refine plain_record ?_
  simp only [List.forall_mem_cons, List.not_mem_nil, false_implies, implies_true, and_true]
  refine ⟨.natural _, plain_text _, .bool _, ?_⟩
  cases r.address with
  | none => exact .null
  | some a => exact plain_text a

@[simp]
theorem ReplicaStatus.ofJson?_toJson (r : ReplicaStatus) :
    ReplicaStatus.ofJson? r.toJson = some r := by
  rw [ReplicaStatus.ofJson?, ReplicaStatus.toJson, fields?_record]
  · obtain ⟨ordinal, revision, ready, _ | address⟩ := r <;>
      simp [Fields.required, Fields.omittable, optionJson]
    rfl
  · rfl
  · decide

theorem WorkloadStatus.plain_toJson (s : WorkloadStatus) : Plain s.toJson := by
  refine plain_record ?_
  simp only [List.forall_mem_cons, List.not_mem_nil, false_implies, implies_true, and_true]
  refine ⟨.natural _, .array ?_⟩
  intro v hv
  obtain ⟨r, -, rfl⟩ := List.mem_map.1 hv
  exact r.plain_toJson

@[simp]
theorem WorkloadStatus.ofJson?_toJson (s : WorkloadStatus) :
    WorkloadStatus.ofJson? s.toJson = some s := by
  have hreplicas : list? ReplicaStatus.ofJson? (.array (s.replicas.map ReplicaStatus.toJson)) =
      some s.replicas :=
    list?_map ReplicaStatus.ofJson?_toJson _
  rw [WorkloadStatus.ofJson?, WorkloadStatus.toJson, fields?_record]
  · simp [Fields.required, hreplicas]
  · rfl
  · decide

theorem WorkloadSet.plain_toJson (w : WorkloadSet) : Plain w.toJson := by
  refine plain_record ?_
  simp only [List.forall_mem_cons, List.not_mem_nil, false_implies, implies_true, and_true]
  refine ⟨plain_record ?_, w.spec.plain_toJson, w.status.plain_toJson⟩
  simp only [List.forall_mem_cons, List.not_mem_nil, false_implies, implies_true, and_true]
  exact ⟨plain_text _, plain_text _, .natural _, .natural _⟩

theorem WorkloadSet.ofJson?_toJson (w : WorkloadSet) : WorkloadSet.ofJson? w.toJson = some w := by
  have hmeta : ObjectMeta.ofJson? (.record [("namespace", .text w.id.namespaceName),
      ("name", .text w.id.name), ("resource_version", .natural w.resourceVersion.toNat),
      ("generation", .natural w.generation.toNat)]) =
      some ⟨w.id, w.resourceVersion, w.generation⟩ := by
    rw [ObjectMeta.ofJson?, fields?_record]
    · simp [Fields.required, Fields.defaulted]
    · rfl
    · decide
  rw [WorkloadSet.ofJson?, WorkloadSet.toJson, fields?_record]
  · simp [Fields.required, Fields.defaulted, hmeta]
  · rfl
  · decide

/-- **Round trip.** A stored workload set reads back as what was stored. -/
@[simp]
theorem WorkloadSet.ofChars?_toChars (w : WorkloadSet) :
    WorkloadSet.ofChars? w.toChars = some w := by
  rw [WorkloadSet.ofChars?, WorkloadSet.toChars, ofChars?_compactChars w.plain_toJson,
    Option.bind_some, w.ofJson?_toJson]

end PartitionedRollout
