/-
# PartitionedRollout.Config.Basic -- settings and their defaults

A configuration has five sections, and everything in it may be left out. A setting is looked
at when it is asked for: an absent one stands for its default, and a present one may turn out
to be unusable. `validate` asks for every setting in a fixed order and reports the first one
that cannot be used.
-/

import PartitionedRollout.Text.Quoted
import PartitionedRollout.TimeSpan.Reader

namespace PartitionedRollout

/-- Where the state is kept. -/
structure StoreSection where
  /-- The path of the store. -/
  path : Option String
  deriving DecidableEq, Repr, Inhabited

/-- The pacing of updates. -/
structure TimingSection where
  /-- How long one replica may take to converge. -/
  podUpdateTimeout : Option String
  /-- The longest interval between two looks at a replica. -/
  podMaxPollingInterval : Option String
  deriving DecidableEq, Repr, Inhabited

/-- The budget for conflicts. -/
structure RetrySection where
  /-- The attempts in all. -/
  maxAttempts : Option UInt32
  /-- The wait between attempts. -/
  interval : Option String
  deriving DecidableEq, Repr, Inhabited

/-- The readiness gate. -/
structure ReadinessSection where
  /-- The wait between two looks. -/
  pollInterval : Option String
  /-- The budget for all replicas to become ready. -/
  timeout : Option String
  deriving DecidableEq, Repr, Inhabited

/-- The health gate. -/
structure HealthSection where
  /-- The path that is requested of every replica. -/
  endpoint : Option String
  /-- The budget of one request. -/
  timeout : Option String
  /-- The wait between two rounds. -/
  interval : Option String
  /-- The healthy rounds in a row that pass the gate. -/
  healthyThreshold : Option UInt32
  /-- The failed rounds in a row that fail the gate. -/
  unhealthyThreshold : Option UInt32
  deriving DecidableEq, Repr, Inhabited

/-- A configuration. -/
structure Config where
  /-- Where the state is kept. -/
  store : Option StoreSection
  /-- The pacing of updates. -/
  timing : Option TimingSection
  /-- The budget for conflicts. -/
  retry : Option RetrySection
  /-- The readiness gate. -/
  readiness : Option ReadinessSection
  /-- The health gate. -/
  health : Option HealthSection
  deriving DecidableEq, Repr, Inhabited

/-- Why a setting cannot be used. -/
inductive ConfigError where
  /-- The text is no time span. -/
  | invalidDuration (field value : String)
  /-- The value has to be greater than zero. -/
  | zero (field : String)
  deriving DecidableEq, Repr

/-- The text of an error. -/
def ConfigError.message : ConfigError → String
  | .invalidDuration field value => s!"invalid duration for `{field}`: {Text.quote value}"
  | .zero field => s!"`{field}` must be greater than zero"

namespace Config

/-- The configuration in which everything is left out. -/
def empty : Config :=
  ⟨none, none, none, none, none⟩

/-- The path of the store when none is given. -/
def defaultStorePath : String := "/var/lib/ordinal/state.redb"

/-- A time span that is given as a text, or its default. -/
def spanOr (field : String) (default : TimeSpan) : Option String → Except ConfigError TimeSpan
  | none => .ok default
  | some text =>
    match TimeSpan.read? text with
    | some d => .ok d
    | none => .error (.invalidDuration field text)

/-- A time span that has to be greater than zero. -/
def positiveSpanOr (field : String) (default : TimeSpan) (value : Option String) :
    Except ConfigError TimeSpan := do
  let d ← spanOr field default value
  if d.isZero then throw (.zero field)
  return d

/-- A number that has to be greater than zero, or its default. -/
def positiveOr (field : String) (default : UInt32) (value : Option UInt32) :
    Except ConfigError UInt32 :=
  let n := value.getD default
  if n = 0 then .error (.zero field) else .ok n

/-! ## The settings -/

/-- The path of the store. -/
def storePath (c : Config) : String :=
  (c.store.bind (·.path)).getD defaultStorePath

/-- How long one replica may take to converge. -/
def podUpdateTimeout (c : Config) : Except ConfigError TimeSpan :=
  positiveSpanOr "timing.pod_update_timeout" (.ofSecs 600) (c.timing.bind (·.podUpdateTimeout))

/-- The longest interval between two looks at a replica. -/
def podMaxPollingInterval (c : Config) : Except ConfigError TimeSpan :=
  positiveSpanOr "timing.pod_max_polling_interval" (.ofSecs 30)
    (c.timing.bind (·.podMaxPollingInterval))

/-- The attempts for an update that meets conflicts. -/
def retryAttempts (c : Config) : Except ConfigError UInt32 :=
  positiveOr "retry.max_attempts" 6 (c.retry.bind (·.maxAttempts))

/-- The wait between such attempts; it may be zero. -/
def retryInterval (c : Config) : Except ConfigError TimeSpan :=
  spanOr "retry.interval" (.ofMillis 10) (c.retry.bind (·.interval))

/-- The wait between two looks of the readiness gate. -/
def readinessPollInterval (c : Config) : Except ConfigError TimeSpan :=
  positiveSpanOr "readiness.poll_interval" (.ofSecs 2) (c.readiness.bind (·.pollInterval))

/-- The budget of the readiness gate. -/
def readinessTimeout (c : Config) : Except ConfigError TimeSpan :=
  positiveSpanOr "readiness.timeout" (.ofSecs 300) (c.readiness.bind (·.timeout))

/-- The path that is requested of every replica. -/
def healthEndpoint (c : Config) : String :=
  (c.health.bind (·.endpoint)).getD "/health"

/-- The budget of one health request. -/
def healthTimeout (c : Config) : Except ConfigError TimeSpan :=
  positiveSpanOr "health.timeout" (.ofSecs 2) (c.health.bind (·.timeout))

/-- The wait between two health rounds. -/
def healthInterval (c : Config) : Except ConfigError TimeSpan :=
  positiveSpanOr "health.interval" (.ofSecs 1) (c.health.bind (·.interval))

/-- The numbers of rounds in a row that pass and that fail the health gate. -/
def healthThresholds (c : Config) : Except ConfigError (UInt32 × UInt32) := do
  let healthy ← positiveOr "health.healthy_threshold" 2 (c.health.bind (·.healthyThreshold))
  let unhealthy ← positiveOr "health.unhealthy_threshold" 3 (c.health.bind (·.unhealthyThreshold))
  return (healthy, unhealthy)

/-- Ask for every setting that may be unusable. -/
def validate (c : Config) : Except ConfigError Unit := do
  let _ ← c.podUpdateTimeout
  let _ ← c.podMaxPollingInterval
  let _ ← c.retryAttempts
  let _ ← c.retryInterval
  let _ ← c.readinessPollInterval
  let _ ← c.readinessTimeout
  let _ ← c.healthTimeout
  let _ ← c.healthInterval
  let _ ← c.healthThresholds
  return ()

/-- A configuration with every default spelled out, for a given path of the store. -/
def scaffold (path : String) : Config where
  store := some ⟨some path⟩
  timing := some ⟨some "10m", some "30s"⟩
  retry := some ⟨some 6, some "10ms"⟩
  readiness := some ⟨some "2s", some "5m"⟩
  health := some ⟨some "/health", some "2s", some "1s", some 2, some 3⟩

end Config

end PartitionedRollout
