/-
# PartitionedRollout.Workload.Basic -- workload sets

A workload set is an ordered set of replicas numbered from zero, all made from one template.
Its partition says which of them may run the current template: the ones at or above it. The
status is what the machinery behind the replicas reports; it may list them in any order and
more than once, and then the first entry for an ordinal counts.
-/

import PartitionedRollout.Text.Blank
import PartitionedRollout.TextMap

namespace PartitionedRollout

/-- The name of a workload set within its namespace. -/
structure WorkloadId where
  /-- The namespace. -/
  namespaceName : String
  /-- The name. -/
  name : String
  deriving DecidableEq, Repr, Inhabited

namespace WorkloadId

/-- The key under which a set is stored: namespace and name with a slash between them. -/
def key (id : WorkloadId) : String :=
  id.namespaceName ++ "/" ++ id.name

instance : ToString WorkloadId :=
  ⟨key⟩

end WorkloadId

/-- What every replica runs. -/
structure Template where
  /-- The image. -/
  image : String
  /-- The arguments, in order. -/
  args : List String
  /-- The environment. -/
  env : TextMap String
  deriving DecidableEq, Repr, Inhabited

/-- The template that is an image and nothing more. -/
def Template.ofImage (image : String) : Template :=
  ⟨image, [], TextMap.empty⟩

/-- The desired state of a workload set. -/
structure WorkloadSpec where
  /-- The number of replicas. -/
  replicas : UInt32
  /-- The current template. -/
  template : Template
  /-- The ordinal from which on replicas may run the current template; without it all may. -/
  partition : Option UInt32
  deriving DecidableEq, Repr, Inhabited

/-- What is reported of one replica. -/
structure ReplicaStatus where
  /-- The number of the replica. -/
  ordinal : UInt32
  /-- The revision of the template that it runs. -/
  revision : String
  /-- Whether it serves. -/
  ready : Bool
  /-- Where it answers health checks: host and port. -/
  address : Option String
  deriving DecidableEq, Repr, Inhabited

/-- What is reported of all replicas. -/
structure WorkloadStatus where
  /-- The generation of the specification that the report is about. -/
  observedGeneration : UInt64
  /-- The reports on single replicas. -/
  replicas : List ReplicaStatus
  deriving DecidableEq, Repr

namespace WorkloadStatus

/-- The status of a set of which nothing has been reported. -/
def empty : WorkloadStatus :=
  ⟨0, []⟩

instance : Inhabited WorkloadStatus :=
  ⟨empty⟩

/-- The report on a replica: the first entry with its ordinal. -/
def replica? (s : WorkloadStatus) (ordinal : UInt32) : Option ReplicaStatus :=
  s.replicas.find? fun r => r.ordinal == ordinal

/-- Change the first entry with an ordinal. -/
def modifyFirst (ordinal : UInt32) (f : ReplicaStatus → ReplicaStatus) :
    List ReplicaStatus → List ReplicaStatus
  | [] => []
  | r :: rest => if r.ordinal = ordinal then f r :: rest else r :: modifyFirst ordinal f rest

/-- Change the report on a replica, if there is one. -/
def modifyReplica (s : WorkloadStatus) (ordinal : UInt32) (f : ReplicaStatus → ReplicaStatus) :
    WorkloadStatus :=
  ⟨s.observedGeneration, modifyFirst ordinal f s.replicas⟩

/-- The number of entries that report a serving replica, counted in a machine word. -/
def readyCount (s : WorkloadStatus) : UInt32 :=
  .ofNat (s.replicas.countP fun r => r.ready)

end WorkloadStatus

/-- A workload set as it is stored. -/
structure WorkloadSet where
  /-- The identity. -/
  id : WorkloadId
  /-- The number of writes, as the store counts them. -/
  resourceVersion : UInt64
  /-- The number of changes to the specification, as the store counts them. -/
  generation : UInt64
  /-- The desired state. -/
  spec : WorkloadSpec
  /-- The reported state. -/
  status : WorkloadStatus
  deriving DecidableEq, Repr, Inhabited

/-- Why a store must not accept a specification. -/
inductive SpecFault where
  /-- The image is blank. -/
  | blankImage
  /-- A partition is set on a set without replicas. -/
  | partitionWithoutReplicas (partition : UInt32)
  /-- The partition is above the number of replicas. -/
  | partitionBeyondReplicas (partition replicas : UInt32)
  deriving DecidableEq, Repr

/-- The text of a fault. -/
def SpecFault.message : SpecFault → String
  | .blankImage => "template.image must not be empty"
  | .partitionWithoutReplicas p => s!"partition {p} set on a workload set with no replicas"
  | .partitionBeyondReplicas p n => s!"partition {p} exceeds replicas {n}"

/-- The first fault of a specification: a blank image comes before a bad partition. -/
def WorkloadSpec.fault? (s : WorkloadSpec) : Option SpecFault :=
  if Text.isBlankText s.template.image then some .blankImage
  else
    match s.partition with
    | none => none
    | some p =>
      if s.replicas = 0 then some (.partitionWithoutReplicas p)
      else if s.replicas < p then some (.partitionBeyondReplicas p s.replicas)
      else none

namespace WorkloadSet

/-- A set of which nothing has been stored or reported. -/
def ofSpec (id : WorkloadId) (replicas : UInt32) (template : Template) : WorkloadSet :=
  ⟨id, 0, 0, ⟨replicas, template, none⟩, .empty⟩

/-- The set with another template. -/
def withTemplate (w : WorkloadSet) (t : Template) : WorkloadSet :=
  { w with spec := { w.spec with template := t } }

/-- The set with the partition set. -/
def withPartition (w : WorkloadSet) (p : UInt32) : WorkloadSet :=
  { w with spec := { w.spec with partition := some p } }

/-- Replica `ordinal` has reported and serves. -/
def isReady (w : WorkloadSet) (ordinal : UInt32) : Bool :=
  (w.status.replica? ordinal).any fun r => r.ready

/-- Every replica has reported and serves. -/
def allReady (w : WorkloadSet) : Bool :=
  w.spec.replicas.toNat.all fun i _ => w.isReady (UInt32.ofNat i)

end WorkloadSet

end PartitionedRollout
