/-
# PartitionedRollout.Health.Settings -- settings of the gates

The settings of the health gate and of the readiness gate, resolved from a configuration.
Resolving asks for the thresholds before the time spans, so with several unusable settings the
thresholds are reported.
-/

import PartitionedRollout.Config.Basic

namespace PartitionedRollout

/-- How the health of the cluster is probed. -/
structure HealthSettings where
  /-- The path that is requested of every replica. -/
  endpoint : String
  /-- The budget of one request. -/
  timeout : TimeSpan
  /-- The wait between rounds, before any failed. -/
  interval : TimeSpan
  /-- The healthy rounds in a row that pass the gate. -/
  healthyThreshold : UInt32
  /-- The failed rounds in a row that fail the gate. -/
  unhealthyThreshold : UInt32
  deriving DecidableEq, Repr

/-- The settings of an empty configuration. -/
def HealthSettings.standard : HealthSettings :=
  ⟨"/health", .ofSecs 2, .ofSecs 1, 2, 3⟩

/-- Resolve the settings of the health gate. -/
def HealthSettings.ofConfig (c : Config) : Except ConfigError HealthSettings := do
  let (healthy, unhealthy) ← c.healthThresholds
  let timeout ← c.healthTimeout
  let interval ← c.healthInterval
  return ⟨c.healthEndpoint, timeout, interval, healthy, unhealthy⟩

/-- How the readiness of all replicas is awaited. -/
structure ReadinessSettings where
  /-- The wait between two looks. -/
  pollInterval : TimeSpan
  /-- The budget of the whole wait. -/
  timeout : TimeSpan
  deriving DecidableEq, Repr

/-- The settings of an empty configuration. -/
def ReadinessSettings.standard : ReadinessSettings :=
  ⟨.ofSecs 2, .ofSecs 300⟩

/-- Resolve the settings of the readiness gate. -/
def ReadinessSettings.ofConfig (c : Config) : Except ConfigError ReadinessSettings := do
  let pollInterval ← c.readinessPollInterval
  let timeout ← c.readinessTimeout
  return ⟨pollInterval, timeout⟩

end PartitionedRollout
