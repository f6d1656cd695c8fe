/-
# PartitionedRollout.Rollout.Transform -- the desired set from the current one

A transform computes the workload set to roll out. It writes nothing; what it returns reaches
the store only through the strategy.
-/

import PartitionedRollout.Rollout.Failure
import PartitionedRollout.Workload.Basic

namespace PartitionedRollout

/-- Point the template at an image, which must not be blank. -/
def setImage (image : String) (w : WorkloadSet) : Except Failure WorkloadSet :=
  if Text.isBlankText image then .error (.plain "refusing to set an empty image")
  else .ok (w.withTemplate { w.spec.template with image := image })

end PartitionedRollout
