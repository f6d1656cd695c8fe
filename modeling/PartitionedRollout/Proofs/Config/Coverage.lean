/-
# PartitionedRollout.Proofs.Config.Coverage -- validation looks at what is used later

Whoever uses a configuration asks for some of its settings, in an order of its own, and goes no
further once a setting cannot be used. Validation asks for all that can be unusable, so after it
nobody meets an unusable one: `outcomes` are what validation meets, in its order, and `Settings` are
the values that every user then works with.

Validation is a row of steps that can fail. Such a row succeeds if every step does, and otherwise it
fails as the first one that fails; both laws are about any row.
-/

import PartitionedRollout.Command.Host
import PartitionedRollout.Proofs.Config.RoundTrip
import PartitionedRollout.Proofs.Health.Waits

namespace PartitionedRollout

/-! ## Rows of steps -/

/-- Make steps in a row, up to the first one that fails. -/
def inOrder {ε : Type} (steps : List (Except ε Unit)) : Except ε Unit :=
  steps.forM id

section

variable {ε α : Type} {steps : List (Except ε Unit)} {e : ε}

@[simp]
theorem inOrder_nil : inOrder ([] : List (Except ε Unit)) = .ok () :=
  rfl

@[simp]
theorem inOrder_cons (step : Except ε Unit) :
    inOrder (step :: steps) = step.bind fun _ => inOrder steps :=
  rfl

theorem inOrder_eq_ok_iff : inOrder steps = .ok () ↔ ∀ step ∈ steps, step = .ok () := by
  induction steps with
  | nil => simp
  | cons step steps ih =>
    obtain e | ⟨⟩ := step
    · simp [Except.bind]
    · simpa [Except.bind] using ih

/-- A row fails as the first step that fails. -/
theorem inOrder_eq_error_iff :
    inOrder steps = .error e ↔
      ∃ before after, steps = before ++ .error e :: after ∧ ∀ step ∈ before, step = .ok () := by
  induction steps with
  | nil => simp
  | cons step steps ih =>
    obtain e' | ⟨⟩ := step
    · constructor
      · intro h
        obtain rfl : e' = e := Except.error.inj h
        exact ⟨[], steps, rfl, by simp⟩
      · rintro ⟨_ | ⟨first, before⟩, after, hsteps, hbefore⟩
        · rw [(List.cons.inj hsteps).1]
          rfl
        · obtain ⟨rfl, -⟩ := List.cons.inj hsteps
          cases hbefore _ List.mem_cons_self
    · rw [inOrder_cons]
      refine ih.trans ?_
      constructor
      · rintro ⟨before, after, rfl, hbefore⟩
        exact ⟨.ok () :: before, after, rfl, by simpa using hbefore⟩
      · rintro ⟨_ | ⟨first, before⟩, after, hsteps, hbefore⟩
        · cases hsteps
        · obtain ⟨rfl, rfl⟩ := List.cons.inj hsteps
          exact ⟨before, after, rfl, fun step h => hbefore step (List.mem_cons_of_mem _ h)⟩

/-- Whether a value is there, and if not why. -/
def outcome (x : Except ε α) : Except ε Unit :=
  x.map fun _ => ()

theorem outcome_eq_ok_iff {x : Except ε α} : outcome x = .ok () ↔ ∃ a, x = .ok a := by
  cases x <;> simp [outcome, Except.map]

end

namespace Config

/-! ## What validation meets -/

/-- Whether the settings can be used, in the order in which validation asks for them. -/
def outcomes (c : Config) : List (Except ConfigError Unit) :=
  [outcome c.podUpdateTimeout, outcome c.podMaxPollingInterval, outcome c.retryAttempts,
    outcome c.retryInterval, outcome c.readinessPollInterval, outcome c.readinessTimeout,
    outcome c.healthTimeout, outcome c.healthInterval, outcome c.healthThresholds]

/-- Asking for a value and not using it is asking whether it is there. -/
theorem bind_const_eq_outcome {ε α β : Type} (x : Except ε α) (y : Except ε β) :
    (x >>= fun _ => y) = (outcome x).bind fun _ => y := by
  cases x <;> rfl

theorem validate_eq_inOrder (c : Config) : c.validate = inOrder c.outcomes := by
  rw [validate, outcomes]
  simp only [bind_const_eq_outcome, inOrder_cons, inOrder_nil]
  rfl

/-! ## What can be used afterwards -/

/-- The values of the settings that may be unusable. -/
structure Settings where
  /-- How long one replica may take to converge. -/
  podUpdateTimeout : TimeSpan
  /-- The longest interval between two looks at a replica. -/
  podMaxPollingInterval : TimeSpan
  /-- The attempts for an update that meets conflicts. -/
  retryAttempts : UInt32
  /-- The wait between such attempts. -/
  retryInterval : TimeSpan
  /-- The wait between two looks of the readiness gate. -/
  readinessPollInterval : TimeSpan
  /-- The budget of the readiness gate. -/
  readinessTimeout : TimeSpan
  /-- The budget of one health request. -/
  healthTimeout : TimeSpan
  /-- The wait between two health rounds. -/
  healthInterval : TimeSpan
  /-- The healthy rounds in a row that pass the health gate. -/
  healthyThreshold : UInt32
  /-- The failed rounds in a row that fail the health gate. -/
  unhealthyThreshold : UInt32

namespace Settings

/-- The pacing of a rollout. -/
def timing (s : Settings) : Timing :=
  ⟨s.podUpdateTimeout, s.podMaxPollingInterval⟩

/-- Every length of time is there but the one that may be zero, every number is one at least, and
the looks at a replica begin within their longest interval. -/
structure InRange (s : Settings) : Prop where
  podUpdateTimeout : 0 < s.podUpdateTimeout.nanos
  podMaxPollingInterval : 0 < s.podMaxPollingInterval.nanos
  retryAttempts : 1 ≤ s.retryAttempts
  readinessPollInterval : 0 < s.readinessPollInterval.nanos
  readinessTimeout : 0 < s.readinessTimeout.nanos
  healthTimeout : 0 < s.healthTimeout.nanos
  healthInterval : 0 < s.healthInterval.nanos
  healthyThreshold : 1 ≤ s.healthyThreshold
  unhealthyThreshold : 1 ≤ s.unhealthyThreshold
  firstInterval : 0 < (Backoff.ofTiming s.timing).firstInterval.nanos
  firstInterval_le : (Backoff.ofTiming s.timing).firstInterval ≤ s.podMaxPollingInterval

end Settings

/-- Whoever asks a configuration for settings gets these values. -/
structure Resolves (c : Config) (s : Settings) : Prop where
  podUpdateTimeout : c.podUpdateTimeout = .ok s.podUpdateTimeout
  podMaxPollingInterval : c.podMaxPollingInterval = .ok s.podMaxPollingInterval
  retryAttempts : c.retryAttempts = .ok s.retryAttempts
  retryInterval : c.retryInterval = .ok s.retryInterval
  readinessPollInterval : c.readinessPollInterval = .ok s.readinessPollInterval
  readinessTimeout : c.readinessTimeout = .ok s.readinessTimeout
  healthTimeout : c.healthTimeout = .ok s.healthTimeout
  healthInterval : c.healthInterval = .ok s.healthInterval
  healthThresholds : c.healthThresholds = .ok (s.healthyThreshold, s.unhealthyThreshold)

variable {c : Config} {s : Settings}

/-- A configuration that passes validation has all values. -/
theorem validate_eq_ok_iff : c.validate = .ok () ↔ ∃ s, c.Resolves s := by
  rw [validate_eq_inOrder, inOrder_eq_ok_iff, outcomes]
  simp only [List.forall_mem_cons, List.not_mem_nil, false_implies, implies_true, and_true,
    outcome_eq_ok_iff]
  constructor
  · rintro ⟨⟨a, ha⟩, ⟨b, hb⟩, ⟨n, hn⟩, ⟨i, hi⟩, ⟨p, hp⟩, ⟨t, ht⟩, ⟨d, hd⟩, ⟨e, he⟩, ⟨⟨k, l⟩, hk⟩⟩
    exact ⟨⟨a, b, n, i, p, t, d, e, k, l⟩, ha, hb, hn, hi, hp, ht, hd, he, hk⟩
  · rintro ⟨s, h⟩
    exact ⟨⟨_, h.podUpdateTimeout⟩, ⟨_, h.podMaxPollingInterval⟩, ⟨_, h.retryAttempts⟩,
      ⟨_, h.retryInterval⟩, ⟨_, h.readinessPollInterval⟩, ⟨_, h.readinessTimeout⟩,
      ⟨_, h.healthTimeout⟩, ⟨_, h.healthInterval⟩, ⟨_, h.healthThresholds⟩⟩

theorem one_le_of_positiveOr {field : String} {default n : UInt32} {value : Option UInt32}
    (h : positiveOr field default value = .ok n) : 1 ≤ n := by
  simp only [positiveOr] at h
  split at h
  next => cases h
  next hne =>
    cases h
    rw [UInt32.le_iff_toNat_le]
    exact Nat.pos_of_ne_zero fun hzero => hne (UInt32.toNat_inj.1 hzero)

theorem one_le_of_healthThresholds {k l : UInt32} (h : c.healthThresholds = .ok (k, l)) :
    1 ≤ k ∧ 1 ≤ l := by
  simp only [healthThresholds, Store.bind_eq_ok_iff] at h
  obtain ⟨_, hk, _, hl, hvalues⟩ := h
  obtain ⟨rfl, rfl⟩ := Prod.mk.inj (Except.ok.inj hvalues)
  exact ⟨one_le_of_positiveOr hk, one_le_of_positiveOr hl⟩

theorem Resolves.inRange (h : c.Resolves s) : s.InRange where
  podUpdateTimeout := pos_of_positiveSpanOr h.podUpdateTimeout
  podMaxPollingInterval := pos_of_positiveSpanOr h.podMaxPollingInterval
  retryAttempts := one_le_of_positiveOr h.retryAttempts
  readinessPollInterval := pos_of_positiveSpanOr h.readinessPollInterval
  readinessTimeout := pos_of_positiveSpanOr h.readinessTimeout
  healthTimeout := pos_of_positiveSpanOr h.healthTimeout
  healthInterval := pos_of_positiveSpanOr h.healthInterval
  healthyThreshold := (one_le_of_healthThresholds h.healthThresholds).1
  unhealthyThreshold := (one_le_of_healthThresholds h.healthThresholds).2
  firstInterval := by
    rw [Backoff.firstInterval, TimeSpan.nanos_min]
    have hinitial : 0 < (TimeSpan.ofMillis 500).nanos := by decide
    exact Nat.lt_min.2 ⟨hinitial, pos_of_positiveSpanOr h.podMaxPollingInterval⟩
  firstInterval_le := by
    rw [TimeSpan.le_def, Backoff.firstInterval, TimeSpan.nanos_min]
    exact Nat.min_le_right _ _

/-! ## Users -/

namespace Settings

/-- The settings of the readiness gate. -/
def readiness (s : Settings) : ReadinessSettings :=
  ⟨s.readinessPollInterval, s.readinessTimeout⟩

/-- The settings of the health gate, which requests a path. -/
def health (s : Settings) (endpoint : String) : HealthSettings :=
  ⟨endpoint, s.healthTimeout, s.healthInterval, s.healthyThreshold, s.unhealthyThreshold⟩

/-- The rollout of an image with these settings. -/
def rollout (s : Settings) (endpoint : String) (id : WorkloadId) (image : String) :
    Program Outcome :=
  rollOutSuite
    { timing := s.timing
      awaitReady := awaitReady Command.maxRounds s.readiness id
      probeHealth := fun checkpoint _ =>
        probeCluster Command.maxRounds (s.health endpoint) id checkpoint }
    ⟨imageTransform image,
      ⟨.revision, ⟨s.retryAttempts, s.retryInterval⟩, true, Command.maxRounds⟩⟩ id

end Settings

theorem Resolves.readiness (h : c.Resolves s) : ReadinessSettings.ofConfig c = .ok s.readiness := by
  rw [ReadinessSettings.ofConfig, h.readinessPollInterval, h.readinessTimeout]
  rfl

theorem Resolves.health (h : c.Resolves s) :
    HealthSettings.ofConfig c = .ok (s.health c.healthEndpoint) := by
  rw [HealthSettings.ofConfig, h.healthThresholds, h.healthTimeout, h.healthInterval]
  rfl

theorem Resolves.rolloutProgram (h : c.Resolves s) (id : WorkloadId) (image : String) :
    Command.rolloutProgram c id image = .ok (s.rollout c.healthEndpoint id image) := by
  rw [Command.rolloutProgram, h.podUpdateTimeout, h.podMaxPollingInterval, h.readiness, h.health,
    h.retryAttempts, h.retryInterval]
  rfl

/-- A rollout asks for every setting that may be unusable. -/
theorem exists_resolves_of_rolloutProgram {id : WorkloadId} {image : String}
    {program : Program Outcome} (h : Command.rolloutProgram c id image = .ok program) :
    ∃ s, c.Resolves s := by
  simp only [Command.rolloutProgram, ReadinessSettings.ofConfig, HealthSettings.ofConfig,
    Store.bind_eq_ok_iff] at h
  obtain ⟨updateTimeout, hupdateTimeout, maxPollingInterval, hmaxPollingInterval, _,
    ⟨pollInterval, hpollInterval, timeout, htimeout, -⟩, _,
    ⟨⟨healthy, unhealthy⟩, hthresholds, request, hrequest, round, hround, -⟩,
    attempts, hattempts, interval, hinterval, -⟩ := h
  exact ⟨⟨updateTimeout, maxPollingInterval, attempts, interval, pollInterval, timeout, request,
    round, healthy, unhealthy⟩, hupdateTimeout, hmaxPollingInterval, hattempts, hinterval,
    hpollInterval, htimeout, hrequest, hround, hthresholds⟩

theorem validate_of_decode {text : String} (h : decode text = .ok c) : c.validate = .ok () := by
  unfold decode at h
  split at h
  · cases h
  next c' _ =>
    split at h
    · cases h
    next hvalid =>
      obtain rfl : c' = c := Except.ok.inj h
      exact hvalid

/-- **Validation covers every user.** A configuration passes exactly if every setting that may be
unusable can be used, and both gates can be set up; otherwise it fails as the first such setting in
the order of `outcomes`. After it has passed, the gates and the rollout work with values in range.
A rollout can be set up exactly if validation passes, so a text that was accepted never fails
there. -/
theorem validate_covers (c : Config) :
    (c.validate = .ok () ↔ (∀ x ∈ c.outcomes, x = .ok ()) ∧
      (∃ health, HealthSettings.ofConfig c = .ok health) ∧
      ∃ readiness, ReadinessSettings.ofConfig c = .ok readiness) ∧
    (∀ e, c.validate = .error e ↔ ∃ before after,
      c.outcomes = before ++ .error e :: after ∧ ∀ x ∈ before, x = .ok ()) ∧
    (c.validate = .ok () → ∃ s, c.Resolves s ∧ s.InRange ∧
      HealthSettings.ofConfig c = .ok (s.health c.healthEndpoint) ∧
      ReadinessSettings.ofConfig c = .ok s.readiness) ∧
    ∀ id image,
      ((∃ program, Command.rolloutProgram c id image = .ok program) ↔ c.validate = .ok ()) ∧
      ∀ text, decode text = .ok c → ∃ program, Command.rolloutProgram c id image = .ok program := by
  refine ⟨?_, ?_, ?_, ?_⟩
  · constructor
    · intro h
      obtain ⟨s, hs⟩ := validate_eq_ok_iff.1 h
      rw [validate_eq_inOrder, inOrder_eq_ok_iff] at h
      exact ⟨h, ⟨_, hs.health⟩, ⟨_, hs.readiness⟩⟩
    · rintro ⟨h, -, -⟩
      rwa [validate_eq_inOrder, inOrder_eq_ok_iff]
  · intro e
    rw [validate_eq_inOrder, inOrder_eq_error_iff]
  · intro h
    obtain ⟨s, hs⟩ := validate_eq_ok_iff.1 h
    exact ⟨s, hs, hs.inRange, hs.health, hs.readiness⟩
  · intro id image
    have hprogram : c.validate = .ok () →
        ∃ program, Command.rolloutProgram c id image = .ok program := by
      intro h
      obtain ⟨s, hs⟩ := validate_eq_ok_iff.1 h
      exact ⟨_, hs.rolloutProgram id image⟩
    refine ⟨⟨?_, hprogram⟩, fun text htext => hprogram (validate_of_decode htext)⟩
    rintro ⟨program, h⟩
    exact validate_eq_ok_iff.2 (exists_resolves_of_rolloutProgram h)

/-- A configuration at the edge: one attempt with no wait between attempts, a first look at a
replica that the longest interval cuts short, sections that are empty or absent. -/
def frugal : Config where
  store := none
  timing := some ⟨none, some " 1 ms"⟩
  retry := some ⟨some 1, some "0s"⟩
  readiness := some ⟨none, none⟩
  health := some ⟨none, none, some "1", some 1, none⟩

/-- Several settings cannot be used; the gates would meet the threshold first. -/
def faulty : Config where
  store := none
  timing := none
  retry := none
  readiness := some ⟨some "soon", some "0s"⟩
  health := some ⟨none, some "0m", none, some 0, none⟩

theorem validate_covers_frugal :
    decode frugal.encode = .ok frugal ∧
      (∃ program, Command.rolloutProgram frugal ⟨"db", "a"⟩ "v2" = .ok program) ∧
      (∃ s, frugal.Resolves s ∧ s.InRange ∧ s.retryInterval.nanos = 0) ∧
      faulty.validate = .error (.invalidDuration "readiness.poll_interval" "soon") ∧
      HealthSettings.ofConfig faulty = .error (.zero "health.healthy_threshold") := by
  have hvalid : frugal.validate = .ok () := rfl
  have hdecode := decode_encode_of_validate hvalid
  obtain ⟨-, -, hvalues, husers⟩ := validate_covers frugal
  refine ⟨hdecode, (husers _ _).2 _ hdecode, ?_, ?_, rfl⟩
  · obtain ⟨s, hs, hrange, -⟩ := hvalues hvalid
    refine ⟨s, hs, hrange, ?_⟩
    have hinterval : frugal.retryInterval = .ok .zero := rfl
    rw [← Except.ok.inj (hinterval.symm.trans hs.retryInterval)]
    rfl
  · exact ((validate_covers faulty).2.1 _).2
      ⟨[.ok (), .ok (), .ok (), .ok ()], faulty.outcomes.drop 5, rfl, by simp⟩

end Config

end PartitionedRollout
