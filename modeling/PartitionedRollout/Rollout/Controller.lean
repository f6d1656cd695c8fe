/-
# PartitionedRollout.Rollout.Controller -- fetch, transform, roll out

The controller reads the current set, computes the desired one, and hands it to the strategy.
Nothing is written if the set cannot be read or the transform fails. What the strategy reports
is passed on, an error with the set that was being rolled out.
-/

import PartitionedRollout.Rollout.Strategy
import PartitionedRollout.Rollout.Transform

namespace PartitionedRollout

/-- What to roll out and how. -/
structure Suite where
  /-- Computes the desired set. -/
  transform : WorkloadSet → Program (Except Failure WorkloadSet)
  /-- Rolls it out. -/
  strategy : Strategy

/-- A transform outside this library. -/
def externalTransform (w : WorkloadSet) : Program (Except Failure WorkloadSet) :=
  .call (.transform w)

/-- The transform that sets an image. -/
def imageTransform (image : String) (w : WorkloadSet) : Program (Except Failure WorkloadSet) :=
  return setImage image w

/-- Roll a suite out to a workload set. -/
def rollOutSuite (g : Gates) (suite : Suite) (id : WorkloadId) : Program Outcome := do
  match ← .call (.get id) with
  | .error e => return .failed false (.ofStore id e)
  | .ok current =>
    match ← suite.transform current with
    | .error cause => return .failed false (.transform id cause)
    | .ok desired =>
      let (_, outcome) ← suite.strategy.rollOut g id desired
      match outcome.result with
      | .ok () => return .completed outcome.skipSleep
      | .error e => return .failed outcome.skipSleep (e.inStrategy id)

end PartitionedRollout
