/-
# PartitionedRollout.Health.Tracker -- a verdict from a stream of results

The tracker counts the results of one kind in a row. Enough healthy ones make the verdict
healthy, enough others make it unhealthy, and it stays until the other count is reached. Every
result that is not healthy doubles the wait before the next round, up to a minute; a healthy
one resets it.
-/

import PartitionedRollout.Health.Endpoint
import PartitionedRollout.Health.Settings

namespace PartitionedRollout

/-- The verdict on a cluster. -/
inductive HealthStatus where
  /-- Neither threshold has been reached. -/
  | unknown
  /-- The healthy threshold was reached last. -/
  | healthy
  /-- The unhealthy threshold was reached last. -/
  | unhealthy
  deriving DecidableEq, Repr

/-- The state of a count at one checkpoint. -/
structure HealthTracker where
  /-- The verdict. -/
  status : HealthStatus
  /-- The healthy results in a row. -/
  successes : UInt32
  /-- The other results in a row. -/
  failures : UInt32
  /-- The healthy results in a row that make the verdict healthy. -/
  healthyThreshold : UInt32
  /-- The other results in a row that make the verdict unhealthy. -/
  unhealthyThreshold : UInt32
  /-- The wait after a healthy result. -/
  interval : TimeSpan
  /-- The wait before the next round. -/
  nextInterval : TimeSpan
  deriving DecidableEq, Repr

namespace HealthTracker

/-- The longest wait that doubling leads to. -/
def maxInterval : TimeSpan :=
  .ofSecs 60

/-- A tracker without results; a threshold of zero counts as one. -/
def start (unhealthyThreshold healthyThreshold : UInt32) (interval : TimeSpan) : HealthTracker :=
  ⟨.unknown, 0, 0, max healthyThreshold 1, max unhealthyThreshold 1, interval, interval⟩

/-- A tracker for given settings. -/
def ofSettings (s : HealthSettings) : HealthTracker :=
  start s.unhealthyThreshold s.healthyThreshold s.interval

/-- Count a healthy result. -/
def recordSuccess (t : HealthTracker) : HealthTracker :=
  let successes := t.successes + 1
  { t with
    failures := 0
    successes := successes
    nextInterval := t.interval
    status := if t.healthyThreshold ≤ successes then .healthy else t.status }

/-- Count any other result. Without a value if twice the wait is too long for a time span. -/
def recordFailure? (t : HealthTracker) : Option HealthTracker :=
  t.nextInterval.double?.map fun d =>
    let failures := t.failures + 1
    { t with
      successes := 0
      failures := failures
      nextInterval := min d maxInterval
      status := if t.unhealthyThreshold ≤ failures then .unhealthy else t.status }

/-- Count a result. -/
def record? (t : HealthTracker) : ProbeResult → Option HealthTracker
  | .healthy => some t.recordSuccess
  | .unhealthy => t.recordFailure?
  | .failed => t.recordFailure?

end HealthTracker

end PartitionedRollout
