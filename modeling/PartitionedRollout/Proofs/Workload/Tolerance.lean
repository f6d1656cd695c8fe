/-
# PartitionedRollout.Proofs.Workload.Tolerance -- documents of other writers

A workload set reads back not only from what a store writes for it. Another writer may order the
members of every object differently, lay the text out differently, add members that no reader here
knows, and leave out what stands at its default. `WorkloadSet.form` collects all these documents,
record by record, and each reader is tied to the form of its record once. A document that lacks any
other member is refused, wherever it is missing.
-/

import PartitionedRollout.Proofs.Json.Forms
import PartitionedRollout.Proofs.Workload.RoundTrip
import PartitionedRollout.Store.Basic

namespace PartitionedRollout

open Json

/-! ## Forms -/

/-- The forms of a template. Only the image has to be there. -/
def Template.form (t : Template) : Form :=
  .record [
    .required "image" (.exactly (.text t.image)),
    .optional "args" (.exactly (.array (t.args.map .text))) (t.args = []),
    .optional "env" (.texts t.env) (t.env = .empty)]

/-- The forms of the part of a specification that holds the partition. -/
def partitionForm (p : Option UInt32) : Form :=
  .record [
    .optional "partition" (.exactly (optionJson (fun p => .natural p.toNat) p)) (p = none)]

/-- The forms of a specification. -/
def WorkloadSpec.form (s : WorkloadSpec) : Form :=
  .record [
    .required "replicas" (.exactly (.natural s.replicas.toNat)),
    .required "template" s.template.form,
    .optional "update_strategy" (partitionForm s.partition) (s.partition = none)]

/-- The forms of a report on a replica. Only the address need not be there. -/
def ReplicaStatus.form (r : ReplicaStatus) : Form :=
  .record [
    .required "ordinal" (.exactly (.natural r.ordinal.toNat)),
    .required "revision" (.exactly (.text r.revision)),
    .required "ready" (.exactly (.bool r.ready)),
    .optional "address" (.exactly (optionJson .text r.address)) (r.address = none)]

/-- The forms of a status. A status that is there has all its members. -/
def WorkloadStatus.form (s : WorkloadStatus) : Form :=
  .record [
    .required "observed_generation" (.exactly (.natural s.observedGeneration.toNat)),
    .required "replicas" (.array (s.replicas.map ReplicaStatus.form))]

/-- The forms of the bookkeeping part. -/
def ObjectMeta.form (m : ObjectMeta) : Form :=
  .record [
    .required "namespace" (.exactly (.text m.id.namespaceName)),
    .required "name" (.exactly (.text m.id.name)),
    .optional "resource_version" (.exactly (.natural m.resourceVersion.toNat))
      (m.resourceVersion = 0),
    .optional "generation" (.exactly (.natural m.generation.toNat)) (m.generation = 0)]

/-- The forms of a workload set. -/
def WorkloadSet.form (w : WorkloadSet) : Form :=
  .record [
    .required "metadata" (ObjectMeta.form ⟨w.id, w.resourceVersion, w.generation⟩),
    .required "spec" w.spec.form,
    .optional "status" w.status.form (w.status = .empty)]

/-! ## Readers -/

theorem Template.recovers (t : Template) : Recovers Template.ofJson? t.form t := by
  intro c j h
  refine bind_fields? h rfl (by decide) fun r _ hr => ?_
  refine hr.bind_required (recovers_exactly (string?_text _)) fun _ hr => ?_
  refine hr.bind_defaulted (recovers_exactly (list?_map string?_text _)) fun _ hr => ?_
  refine hr.bind_defaulted (recovers_texts _) fun _ hr => ?_
  exact hr.whole_nil

theorem recovers_partition (p : Option UInt32) :
    Recovers partitionOfJson? (partitionForm p) p := by
  intro c j h
  have hvalue : Recovers (nullable? uint32?)
      (.exactly (optionJson (fun p => .natural p.toNat) p)) p := by
    cases p with
    | none => exact recovers_null
    | some p => exact recovers_some (uint32?_natural p) nofun
  refine bind_fields? h rfl (by decide) fun r hpositional hr => ?_
  rw [optional_eq_defaulted hpositional]
  refine (Option.bind_fun_some _).symm.trans ?_
  refine hr.bind_defaulted hvalue fun _ hr => ?_
  exact hr.whole_nil

theorem WorkloadSpec.recovers (s : WorkloadSpec) : Recovers WorkloadSpec.ofJson? s.form s := by
  intro c j h
  refine bind_fields? h rfl (by decide) fun r _ hr => ?_
  refine hr.bind_required (recovers_exactly (uint32?_natural _)) fun _ hr => ?_
  refine hr.bind_required s.template.recovers fun _ hr => ?_
  refine hr.bind_defaulted (recovers_partition _) fun _ hr => ?_
  exact hr.whole_nil

theorem ReplicaStatus.recovers (r : ReplicaStatus) :
    Recovers ReplicaStatus.ofJson? r.form r := by
  intro c j h
  have haddress : Recovers (nullable? string?) (.exactly (optionJson .text r.address))
      r.address := by
    cases r.address with
    | none => exact recovers_null
    | some a => exact recovers_some (string?_text a) nofun
  refine bind_fields? h rfl (by decide) fun f _ hf => ?_
  refine hf.bind_required (recovers_exactly (uint32?_natural _)) fun _ hf => ?_
  refine hf.bind_required (recovers_exactly (string?_text _)) fun _ hf => ?_
  refine hf.bind_required (recovers_exactly (bool?_bool _)) fun _ hf => ?_
  rw [omittable_eq_defaulted]
  refine hf.bind_defaulted haddress fun _ hf => ?_
  exact hf.whole_nil

theorem WorkloadStatus.recovers (s : WorkloadStatus) :
    Recovers WorkloadStatus.ofJson? s.form s := by
  intro c j h
  refine bind_fields? h rfl (by decide) fun r _ hr => ?_
  refine hr.bind_required (recovers_exactly (uint64?_natural _)) fun _ hr => ?_
  refine hr.bind_required (recovers_array ReplicaStatus.recovers _) fun _ hr => ?_
  exact hr.whole_nil

theorem ObjectMeta.recovers (m : ObjectMeta) : Recovers ObjectMeta.ofJson? m.form m := by
  intro c j h
  refine bind_fields? h rfl (by decide) fun r _ hr => ?_
  refine hr.bind_required (recovers_exactly (string?_text _)) fun _ hr => ?_
  refine hr.bind_required (recovers_exactly (string?_text _)) fun _ hr => ?_
  refine hr.bind_defaulted (recovers_exactly (uint64?_natural _)) fun _ hr => ?_
  refine hr.bind_defaulted (recovers_exactly (uint64?_natural _)) fun _ hr => ?_
  exact hr.whole_nil

theorem WorkloadSet.recovers (w : WorkloadSet) : Recovers WorkloadSet.ofJson? w.form w := by
  intro c j h
  refine bind_fields? h rfl (by decide) fun r _ hr => ?_
  refine hr.bind_required (ObjectMeta.recovers _) fun _ hr => ?_
  refine hr.bind_required w.spec.recovers fun _ hr => ?_
  refine hr.bind_defaulted w.status.recovers fun _ hr => ?_
  exact hr.whole_nil

/-! ## Documents -/

theorem Template.form_toJson (t : Template) : t.form true t.toJson := by
  have henv : Form.texts t.env true (.record (t.env.entries.map fun e => (e.1, .text e.2))) :=
    ⟨rfl, t.env.entries, .refl _, rfl⟩
  exact record_of_written (.complete (exactly_self _) (.complete (exactly_self _)
    (.complete henv .nil)))

theorem WorkloadSpec.form_toJson (s : WorkloadSpec) : s.form true s.toJson := by
  have hpartition : partitionForm s.partition true
      (.record [("partition", optionJson (fun p => .natural p.toNat) s.partition)]) :=
    record_of_written (.complete (exactly_self _) .nil)
  exact record_of_written (.complete (exactly_self _) (.complete s.template.form_toJson
    (.complete hpartition .nil)))

theorem ReplicaStatus.form_toJson (r : ReplicaStatus) : r.form true r.toJson :=
  record_of_written (.complete (exactly_self _) (.complete (exactly_self _)
    (.complete (exactly_self _) (.complete (exactly_self _) .nil))))

theorem WorkloadStatus.form_toJson (s : WorkloadStatus) : s.form true s.toJson := by
  have hreplicas : Form.array (s.replicas.map ReplicaStatus.form) true
      (.array (s.replicas.map ReplicaStatus.toJson)) :=
    ⟨_, items_map ReplicaStatus.form_toJson s.replicas, rfl⟩
  exact record_of_written (.complete (exactly_self _) (.complete hreplicas .nil))

/-- What is written for a workload set is one of its forms. -/
theorem WorkloadSet.form_toJson (w : WorkloadSet) : w.form true w.toJson := by
  have hmeta : ObjectMeta.form ⟨w.id, w.resourceVersion, w.generation⟩ true (.record [
      ("namespace", .text w.id.namespaceName), ("name", .text w.id.name),
      ("resource_version", .natural w.resourceVersion.toNat),
      ("generation", .natural w.generation.toNat)]) :=
    record_of_written (.complete (exactly_self _) (.complete (exactly_self _)
      (.complete (exactly_self _) (.complete (exactly_self _) .nil))))
  exact record_of_written (.complete hmeta (.complete w.spec.form_toJson
    (.complete w.status.form_toJson .nil)))

/-- **Tolerance.** What is written for a workload set is one of its complete forms, and every
text that spells a complete form is decoded as the set, be it a document or the entry of a store:
with the members of its objects in any order, with white space anywhere between tokens, with
unknown members of any values in its records, and without any of the members that stand at their
defaults. A text that spells a form that lacks any other member is refused. -/
theorem WorkloadSet.decode?_tolerant (w : WorkloadSet) :
    w.form true w.toJson ∧
    ∀ (j : Json) (text : String), Spells (tokensOf j) text.toList →
      (w.form true j → WorkloadSet.decode? text = some w ∧ Store.decode text.toList = .ok w) ∧
      (w.form false j → WorkloadSet.decode? text = none ∧
        ∃ error, Store.decode text.toList = .error error) := by
  refine ⟨w.form_toJson, ?_⟩
  intro j text htext
  have hread (c : Bool) (h : w.form c j) : WorkloadSet.ofChars? text.toList = whole c w := by
    rw [WorkloadSet.ofChars?, ofChars?_of_spells htext, Option.bind_some]
    exact w.recovers c j h
  constructor
  · intro h
    have hchars : WorkloadSet.ofChars? text.toList = some w := hread true h
    exact ⟨hchars, by rw [Store.decode, hchars]⟩
  · intro h
    have hchars : WorkloadSet.ofChars? text.toList = none := hread false h
    exact ⟨hchars, _, by rw [Store.decode, hchars]⟩

/-- A document with the given bookkeeping part, in an unusual order and with an unknown member. -/
def sparseDocument (bookkeeping : List (String × Json)) : Json :=
  .record [
    ("spec", .record [("template", .record [("image", .text "web:2")]), ("replicas", .natural 1)]),
    ("metadata", .record bookkeeping),
    ("zone", .array [.bool true, .null])]

theorem spells_sparseDocument (bookkeeping : List (String × Json))
    (h : ∀ m ∈ bookkeeping, Plain m.2) :
    Spells (tokensOf (sparseDocument bookkeeping)) (sparseDocument bookkeeping).pretty.toList := by
  have htemplate : Plain (.record [("image", .text "web:2")]) :=
    plain_record (by simpa using plain_text "web:2")
  have hspec : Plain (.record
      [("template", .record [("image", .text "web:2")]), ("replicas", .natural 1)]) :=
    plain_record (by simpa using ⟨htemplate, Plain.natural 1⟩)
  have hzone : Plain (.array [.bool true, .null]) :=
    .array (by simpa using ⟨Plain.bool true, Plain.null⟩)
  have hplain : Plain (sparseDocument bookkeeping) :=
    plain_record (by simpa using ⟨hspec, plain_record h, hzone⟩)
  rw [pretty, String.toList_ofList]
  exact spells_prettyChars hplain 0

theorem form_sparseDocument {c : Bool} {bookkeeping : List (String × Json)}
    (h : ObjectMeta.form ⟨⟨"prod", "web"⟩, 0, 0⟩ c (.record bookkeeping)) :
    (WorkloadSet.ofSpec ⟨"prod", "web"⟩ 1 (.ofImage "web:2")).form c
      (sparseDocument bookkeeping) := by
  have htemplate : (Template.ofImage "web:2").form true (.record [("image", .text "web:2")]) :=
    record_of_written (.complete (exactly_self _) (.omitted rfl (.omitted rfl .nil)))
  have hspec : (WorkloadSpec.mk 1 (.ofImage "web:2") none).form true
      (.record [("template", .record [("image", .text "web:2")]), ("replicas", .natural 1)]) :=
    ⟨_, [], _, .complete (exactly_self _) (.complete htemplate (.omitted rfl .nil)), nofun,
      .swap _ _ _, rfl⟩
  have hwritten : Written [
      .required "metadata" (ObjectMeta.form ⟨⟨"prod", "web"⟩, 0, 0⟩),
      .required "spec" (WorkloadSpec.form ⟨1, .ofImage "web:2", none⟩),
      .optional "status" (WorkloadStatus.form .empty) (WorkloadStatus.empty = .empty)] (c && true)
      [("metadata", .record bookkeeping), ("spec", .record [
        ("template", .record [("image", .text "web:2")]), ("replicas", .natural 1)])] :=
    .present h (.complete hspec (.omitted rfl .nil))
  rw [Bool.and_true] at hwritten
  exact ⟨_, [("zone", .array [.bool true, .null])], _, hwritten, by simp, .swap _ _ _, rfl⟩

/-- Written over several lines and with all defaults left out such a document is decoded, and
without the name it is refused. -/
theorem WorkloadSet.decode?_tolerant_sparse :
    WorkloadSet.decode?
        (sparseDocument [("name", .text "web"), ("namespace", .text "prod")]).pretty =
        some (.ofSpec ⟨"prod", "web"⟩ 1 (.ofImage "web:2")) ∧
      WorkloadSet.decode? (sparseDocument [("namespace", .text "prod")]).pretty = none := by
  constructor
  · have hbookkeeping : ObjectMeta.form ⟨⟨"prod", "web"⟩, 0, 0⟩ true
        (.record [("name", .text "web"), ("namespace", .text "prod")]) :=
      ⟨_, [], _, .complete (exactly_self _) (.complete (exactly_self _)
        (.omitted rfl (.omitted rfl .nil))), nofun, .swap _ _ _, rfl⟩
    have hspells := spells_sparseDocument [("name", .text "web"), ("namespace", .text "prod")]
      (by simpa using ⟨plain_text "web", plain_text "prod"⟩)
    exact (((decode?_tolerant _).2 _ _ hspells).1 (form_sparseDocument hbookkeeping)).1
  · have hbookkeeping : ObjectMeta.form ⟨⟨"prod", "web"⟩, 0, 0⟩ false
        (.record [("namespace", .text "prod")]) :=
      record_of_written (.complete (exactly_self _) (.lacking (.omitted rfl (.omitted rfl .nil))))
    have hspells := spells_sparseDocument [("namespace", .text "prod")]
      (by simpa using plain_text "prod")
    exact (((decode?_tolerant _).2 _ _ hspells).2 (form_sparseDocument hbookkeeping)).1

end PartitionedRollout
