/-
# PartitionedRollout.Config.Written -- configurations as TOML texts

A configuration is written with one section for each of its own sections that is there, in
their order, and one line for each setting that is there. It is read from any TOML text that
holds its record; what is read has to pass validation.
-/

import PartitionedRollout.Config.Record
import PartitionedRollout.Toml.Document
import PartitionedRollout.Toml.Printer

namespace PartitionedRollout

open Toml

/-! ## Writing -/

/-- The settings that are there, in order. -/
def presentSettings (settings : List (String × Option Setting)) : List (String × Setting) :=
  settings.filterMap fun e => e.2.map fun v => (e.1, v)

/-- A setting with a number. -/
def numberSetting (n : UInt32) : Setting :=
  .natural n.toNat

/-- Where the state is kept. -/
def StoreSection.toSection (s : StoreSection) : Section :=
  ⟨"store", presentSettings [("path", s.path.map .text)]⟩

/-- The pacing of updates. -/
def TimingSection.toSection (s : TimingSection) : Section :=
  ⟨"timing", presentSettings [
    ("pod_update_timeout", s.podUpdateTimeout.map .text),
    ("pod_max_polling_interval", s.podMaxPollingInterval.map .text)]⟩

/-- The budget for conflicts. -/
def RetrySection.toSection (s : RetrySection) : Section :=
  ⟨"retry", presentSettings [
    ("max_attempts", s.maxAttempts.map numberSetting),
    ("interval", s.interval.map .text)]⟩

/-- The readiness gate. -/
def ReadinessSection.toSection (s : ReadinessSection) : Section :=
  ⟨"readiness", presentSettings [
    ("poll_interval", s.pollInterval.map .text),
    ("timeout", s.timeout.map .text)]⟩

/-- The health gate. -/
def HealthSection.toSection (s : HealthSection) : Section :=
  ⟨"health", presentSettings [
    ("endpoint", s.endpoint.map .text),
    ("timeout", s.timeout.map .text),
    ("interval", s.interval.map .text),
    ("healthy_threshold", s.healthyThreshold.map numberSetting),
    ("unhealthy_threshold", s.unhealthyThreshold.map numberSetting)]⟩

namespace Config

/-- The sections that are there, in order. -/
def sections (c : Config) : List Section :=
  [c.store.map (·.toSection), c.timing.map (·.toSection), c.retry.map (·.toSection),
    c.readiness.map (·.toSection), c.health.map (·.toSection)].filterMap id

/-- The text of a configuration. -/
def encode (c : Config) : String :=
  String.ofList (sectionsChars c.sections)

/-! ## Reading -/

/-- Read a configuration without a look at what its settings hold. -/
def parse? (text : String) : Option Config :=
  (Toml.read? text).bind fun v => Config.ofJson? true v.toJson

/-- Why a text is no usable configuration. -/
inductive LoadError where
  /-- The text is no TOML text, or not that of a configuration. -/
  | malformed
  /-- A setting cannot be used. -/
  | invalid (error : ConfigError)
  deriving DecidableEq, Repr

/-- Read a usable configuration. -/
def decode (text : String) : Except LoadError Config :=
  match parse? text with
  | none => .error .malformed
  | some c =>
    match c.validate with
    | .error e => .error (.invalid e)
    | .ok () => .ok c

end Config

end PartitionedRollout
