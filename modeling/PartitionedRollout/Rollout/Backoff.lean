/-
# PartitionedRollout.Rollout.Backoff -- growing intervals between attempts

Attempts are spaced by an interval that starts small, grows by a factor, and never exceeds a
maximum. Each wait may be drawn at random around the current interval. The maximum also bounds
the drawn wait, and a time budget bounds all attempts together.
-/

import PartitionedRollout.Rollout.Program
import PartitionedRollout.TimeSpan.Scaling

namespace PartitionedRollout

/-- How long one replica may take and how often it is looked at. -/
structure Timing where
  /-- The budget for one replica to verify after its partition step. -/
  updateTimeout : TimeSpan
  /-- The longest interval between two looks. -/
  maxPollingInterval : TimeSpan
  deriving DecidableEq, Repr

/-- Ten minutes for a replica, looked at every thirty seconds at least. -/
def Timing.standard : Timing :=
  ⟨.ofSecs 600, .ofSecs 30⟩

/-- The spacing of attempts. -/
structure Backoff where
  /-- The first interval, unless the maximum is smaller. -/
  initialInterval : TimeSpan
  /-- The factor by which the interval grows; less than one counts as one. -/
  multiplier : Binary64
  /-- The part of the interval by which a wait may differ from it. -/
  randomizationFactor : Binary64
  /-- The longest interval. -/
  maxInterval : TimeSpan
  /-- The budget of all attempts together. -/
  maxElapsed : TimeSpan
  deriving DecidableEq, Repr

namespace Backoff

/-- Half a second, growing by a half, give or take a half, up to a minute, for a quarter of an
hour. -/
def standard : Backoff :=
  ⟨.ofMillis 500, .threeHalves, .half, .ofSecs 60, .ofSecs 900⟩

/-- The standard growth within the budget of one replica. -/
def ofTiming (t : Timing) : Backoff :=
  { standard with maxInterval := t.maxPollingInterval, maxElapsed := t.updateTimeout }

/-- The same spacing without random draws. -/
def withoutJitter (b : Backoff) : Backoff :=
  { b with randomizationFactor := .zero }

/-- The first interval. -/
def firstInterval (b : Backoff) : TimeSpan :=
  min b.initialInterval b.maxInterval

/-- The interval after the given one, if the multiple fits in a time span before it is capped. -/
def grow? (b : Backoff) (current : TimeSpan) : Option TimeSpan :=
  (b.multiplier.atLeastOne?.bind fun f => current.scale? f).map fun d => min d b.maxInterval

/-- The wait for an interval. Without jitter, or with nothing to differ from, it is the interval; a
factor that is not a number leaves nothing to draw from. -/
def wait (b : Backoff) (interval : TimeSpan) : Program TimeSpan :=
  if interval.isZero then .done interval
  else if b.randomizationFactor.isNaN then .halt .overflow
  else if b.randomizationFactor.isPositive then do
    let d ← .ofOption (← .call (.draw interval b.randomizationFactor))
    return min d b.maxInterval
  else .done interval

end Backoff

end PartitionedRollout
