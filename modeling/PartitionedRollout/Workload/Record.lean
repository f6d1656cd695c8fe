/-
# PartitionedRollout.Workload.Record -- workload sets as JSON

A workload set is written as an object with `metadata`, `spec` and `status`, every field
present and in a fixed order. It is read tolerantly: unknown members are passed over, and the
bookkeeping numbers, the partition, arguments, environment, status and addresses may be left
out.
-/

import PartitionedRollout.Json.Printer
import PartitionedRollout.Json.Reader
import PartitionedRollout.Json.Record
import PartitionedRollout.Workload.Basic

namespace PartitionedRollout

open Json

/-! ## Writing -/

/-- A template as JSON. -/
def Template.toJson (t : Template) : Json :=
  .record [
    ("image", .text t.image),
    ("args", .array (t.args.map .text)),
    ("env", .record (t.env.entries.map fun e => (e.1, .text e.2)))]

/-- An absent value is `null`. -/
def optionJson {α : Type} (f : α → Json) : Option α → Json
  | none => .null
  | some a => f a

/-- A specification as JSON. -/
def WorkloadSpec.toJson (s : WorkloadSpec) : Json :=
  .record [
    ("replicas", .natural s.replicas.toNat),
    ("template", s.template.toJson),
    ("update_strategy",
      .record [("partition", optionJson (fun p => .natural p.toNat) s.partition)])]

/-- A report on a replica as JSON. -/
def ReplicaStatus.toJson (r : ReplicaStatus) : Json :=
  .record [
    ("ordinal", .natural r.ordinal.toNat),
    ("revision", .text r.revision),
    ("ready", .bool r.ready),
    ("address", optionJson .text r.address)]

/-- A status as JSON. -/
def WorkloadStatus.toJson (s : WorkloadStatus) : Json :=
  .record [
    ("observed_generation", .natural s.observedGeneration.toNat),
    ("replicas", .array (s.replicas.map ReplicaStatus.toJson))]

/-- A workload set as JSON. -/
def WorkloadSet.toJson (w : WorkloadSet) : Json :=
  .record [
    ("metadata", .record [
      ("namespace", .text w.id.namespaceName),
      ("name", .text w.id.name),
      ("resource_version", .natural w.resourceVersion.toNat),
      ("generation", .natural w.generation.toNat)]),
    ("spec", w.spec.toJson),
    ("status", w.status.toJson)]

/-! ## Reading -/

/-- Read a template. -/
def Template.ofJson? (j : Json) : Option Template := do
  let r ← fields? ["image", "args", "env"] false j
  let image ← r.required "image" string?
  let args ← r.defaulted "args" [] (list? string?)
  let env ← r.defaulted "env" TextMap.empty textMap?
  return ⟨image, args, env⟩

/-- Read the part of a specification that holds the partition. -/
def partitionOfJson? (j : Json) : Option (Option UInt32) := do
  let r ← fields? ["partition"] false j
  r.optional "partition" uint32?

/-- Read a specification. -/
def WorkloadSpec.ofJson? (j : Json) : Option WorkloadSpec := do
  let r ← fields? ["replicas", "template", "update_strategy"] false j
  let replicas ← r.required "replicas" uint32?
  let template ← r.required "template" Template.ofJson?
  let partition ← r.defaulted "update_strategy" none partitionOfJson?
  return ⟨replicas, template, partition⟩

/-- Read a report on a replica. -/
def ReplicaStatus.ofJson? (j : Json) : Option ReplicaStatus := do
  let r ← fields? ["ordinal", "revision", "ready", "address"] false j
  let ordinal ← r.required "ordinal" uint32?
  let revision ← r.required "revision" string?
  let ready ← r.required "ready" bool?
  let address ← r.omittable "address" string?
  return ⟨ordinal, revision, ready, address⟩

/-- Read a status. -/
def WorkloadStatus.ofJson? (j : Json) : Option WorkloadStatus := do
  let r ← fields? ["observed_generation", "replicas"] false j
  let observedGeneration ← r.required "observed_generation" uint64?
  let replicas ← r.required "replicas" (list? ReplicaStatus.ofJson?)
  return ⟨observedGeneration, replicas⟩

/-- The bookkeeping part of a workload set: identity, version and generation. -/
structure ObjectMeta where
  /-- The identity. -/
  id : WorkloadId
  /-- The version. -/
  resourceVersion : UInt64
  /-- The generation. -/
  generation : UInt64

/-- Read the bookkeeping part. -/
def ObjectMeta.ofJson? (j : Json) : Option ObjectMeta := do
  let r ← fields? ["namespace", "name", "resource_version", "generation"] false j
  let namespaceName ← r.required "namespace" string?
  let name ← r.required "name" string?
  let resourceVersion ← r.defaulted "resource_version" 0 uint64?
  let generation ← r.defaulted "generation" 0 uint64?
  return ⟨⟨namespaceName, name⟩, resourceVersion, generation⟩

/-- Read a workload set. -/
def WorkloadSet.ofJson? (j : Json) : Option WorkloadSet := do
  let r ← fields? ["metadata", "spec", "status"] false j
  let m ← r.required "metadata" ObjectMeta.ofJson?
  let spec ← r.required "spec" WorkloadSpec.ofJson?
  let status ← r.defaulted "status" .empty WorkloadStatus.ofJson?
  return ⟨m.id, m.resourceVersion, m.generation, spec, status⟩

/-! ## Texts -/

/-- The characters that are stored for a workload set. -/
def WorkloadSet.toChars (w : WorkloadSet) : List Char :=
  w.toJson.compactChars

/-- The workload set of a list of characters. -/
def WorkloadSet.ofChars? (s : List Char) : Option WorkloadSet :=
  (Json.ofChars? s).bind WorkloadSet.ofJson?

/-- The text of a workload set. -/
def WorkloadSet.encode (w : WorkloadSet) : String :=
  String.ofList w.toChars

/-- Read a workload set from a JSON text. -/
def WorkloadSet.decode? (s : String) : Option WorkloadSet :=
  WorkloadSet.ofChars? s.toList

/-- The characters of a template, from which its revision is computed. -/
def Template.toChars (t : Template) : List Char :=
  t.toJson.compactChars

/-- The template of a list of characters. -/
def Template.ofChars? (s : List Char) : Option Template :=
  (Json.ofChars? s).bind Template.ofJson?

/-- The text of a template. -/
def Template.encode (t : Template) : String :=
  String.ofList t.toChars

/-- Read a template from a JSON text. -/
def Template.decode? (s : String) : Option Template :=
  Template.ofChars? s.toList

end PartitionedRollout
