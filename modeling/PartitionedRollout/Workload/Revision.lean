/-
# PartitionedRollout.Workload.Revision -- revisions of templates

A revision is a short digest of the written form of a template. The written form is the same
for equal templates, so replicas that report one revision run interchangeable templates.
-/

import PartitionedRollout.Digest.Sha256
import PartitionedRollout.Workload.Record

namespace PartitionedRollout

/-- The number of hexadecimal digits in a revision. -/
def revisionLength : Nat := 10

/-- The first ten hexadecimal digits of the digest of the written template. -/
def Template.revision (t : Template) : String :=
  String.ofList ((Sha256.hexDigest t.toChars).take revisionLength)

/-- The revision that replicas at or above the partition should run. -/
def WorkloadSet.updateRevision (w : WorkloadSet) : String :=
  w.spec.template.revision

end PartitionedRollout
