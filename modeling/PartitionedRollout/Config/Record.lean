/-
# PartitionedRollout.Config.Record -- configurations out of structured values

A configuration is a record of five sections, each a record of its settings. Sections and
settings may be absent, and unknown names are passed over. Whether an array that stands for a
record may hold more values than the record has fields depends on the format that the value
comes from.
-/

import PartitionedRollout.Config.Basic
import PartitionedRollout.Json.Record

namespace PartitionedRollout

open Json

/-- Read where the state is kept. -/
def StoreSection.ofJson? (surplus : Bool) (j : Json) : Option StoreSection := do
  let r ← fields? ["path"] surplus j
  return ⟨← r.optional "path" string?⟩

/-- Read the pacing of updates. -/
def TimingSection.ofJson? (surplus : Bool) (j : Json) : Option TimingSection := do
  let r ← fields? ["pod_update_timeout", "pod_max_polling_interval"] surplus j
  let podUpdateTimeout ← r.optional "pod_update_timeout" string?
  let podMaxPollingInterval ← r.optional "pod_max_polling_interval" string?
  return ⟨podUpdateTimeout, podMaxPollingInterval⟩

/-- Read the budget for conflicts. -/
def RetrySection.ofJson? (surplus : Bool) (j : Json) : Option RetrySection := do
  let r ← fields? ["max_attempts", "interval"] surplus j
  let maxAttempts ← r.optional "max_attempts" uint32?
  let interval ← r.optional "interval" string?
  return ⟨maxAttempts, interval⟩

/-- Read the settings of the readiness gate. -/
def ReadinessSection.ofJson? (surplus : Bool) (j : Json) : Option ReadinessSection := do
  let r ← fields? ["poll_interval", "timeout"] surplus j
  let pollInterval ← r.optional "poll_interval" string?
  let timeout ← r.optional "timeout" string?
  return ⟨pollInterval, timeout⟩

/-- Read the settings of the health gate. -/
def HealthSection.ofJson? (surplus : Bool) (j : Json) : Option HealthSection := do
  let r ← fields?
    ["endpoint", "timeout", "interval", "healthy_threshold", "unhealthy_threshold"] surplus j
  let endpoint ← r.optional "endpoint" string?
  let timeout ← r.optional "timeout" string?
  let interval ← r.optional "interval" string?
  let healthyThreshold ← r.optional "healthy_threshold" uint32?
  let unhealthyThreshold ← r.optional "unhealthy_threshold" uint32?
  return ⟨endpoint, timeout, interval, healthyThreshold, unhealthyThreshold⟩

/-- Read a configuration. -/
def Config.ofJson? (surplus : Bool) (j : Json) : Option Config := do
  let r ← fields? ["store", "timing", "retry", "readiness", "health"] surplus j
  let store ← r.optional "store" (StoreSection.ofJson? surplus)
  let timing ← r.optional "timing" (TimingSection.ofJson? surplus)
  let retry ← r.optional "retry" (RetrySection.ofJson? surplus)
  let readiness ← r.optional "readiness" (ReadinessSection.ofJson? surplus)
  let health ← r.optional "health" (HealthSection.ofJson? surplus)
  return ⟨store, timing, retry, readiness, health⟩

end PartitionedRollout
