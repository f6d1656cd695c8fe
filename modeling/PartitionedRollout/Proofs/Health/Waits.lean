/-
# PartitionedRollout.Proofs.Health.Waits -- when a failed round shortens the wait

The wait between two rounds is a function of the history alone, whatever the thresholds are and
however often the counts have wrapped: `Waits` says so, for as long as results can be recorded at
all. So it can be seen what one more bad result does to the wait. The bound of a minute is applied
to twice the wait and not to the interval, so an interval beyond it is cut down by the first bad
result after a healthy one; and twice an interval may be too long for a time span.
-/

import PartitionedRollout.Proofs.Health.History
import PartitionedRollout.Proofs.Store.Entry

namespace PartitionedRollout

open HealthTracker

/-! ## Accepted intervals -/

namespace Config

variable {c : Config} {field : String} {default d : TimeSpan} {value : Option String}

theorem pos_of_positiveSpanOr (h : positiveSpanOr field default value = .ok d) : 0 < d.nanos := by
  obtain ⟨span, -, h⟩ := Store.bind_eq_ok_iff.1 h
  split at h
  next => cases h
  next hzero =>
    cases h
    exact Nat.pos_of_ne_zero (by simpa [TimeSpan.isZero] using hzero)

/-- A configuration that is accepted has an interval between health rounds, and it is not zero. -/
theorem exists_healthInterval (h : c.validate = .ok ()) :
    ∃ interval, c.healthInterval = .ok interval ∧ 0 < interval.nanos := by
  simp only [validate, Store.bind_eq_ok_iff] at h
  obtain ⟨-, -, -, -, -, -, -, -, -, -, -, -, -, -, interval, hinterval, -⟩ := h
  exact ⟨interval, hinterval, pos_of_positiveSpanOr hinterval⟩

end Config

namespace HealthTracker

/-! ## The wait after a history -/

section

variable {interval : TimeSpan} {history : List ProbeResult} {t t' : HealthTracker}
  {r : ProbeResult} {k : Nat}

/-- The wait does not get shorter with a bad result, unless it is an interval beyond a minute. -/
theorem waitAfter_le_succ_iff :
    waitAfter interval k ≤ waitAfter interval (k + 1) ↔
      0 < k ∨ interval.nanos ≤ maxInterval.nanos := by
  rw [waitAfter_succ]
  cases k with
  | zero =>
    simp only [waitAfter]
    omega
  | succ k =>
    have hle : waitAfter interval (k + 1) ≤ maxInterval.nanos := Nat.min_le_left _ _
    exact iff_of_true (by omega) (.inl (Nat.succ_pos k))

/-- The wait of a tracker is the one after a history. -/
structure Waits (interval : TimeSpan) (history : List ProbeResult) (t : HealthTracker) : Prop where
  /-- The interval is the given one. -/
  unchanged : t.interval = interval
  /-- The wait has doubled with every bad result at the end. -/
  nextInterval : t.nextInterval.nanos =
    waitAfter interval (endingRow ProbeResult.isBad history)

/-- One more result. -/
theorem Waits.record? (h : Waits interval history t) (ht : t.record? r = some t') :
    Waits interval (history ++ [r]) t' := by
  cases hr : r.isHealthy with
  | true =>
    obtain rfl := ProbeResult.isHealthy_iff.1 hr
    cases ht
    refine ⟨h.unchanged, ?_⟩
    rw [endingRow_concat]
    exact congrArg TimeSpan.nanos h.unchanged
  | false =>
    rw [record?_bad hr] at ht
    obtain ⟨hinterval, hnext⟩ := nextInterval_of_recordFailure? ht
    refine ⟨hinterval.trans h.unchanged, ?_⟩
    rw [endingRow_concat, if_pos (by simp [ProbeResult.isBad, hr]), waitAfter_succ, hnext,
      h.nextInterval]

theorem Waits.record?_eq_none_iff (h : Waits interval history t) (hr : r.isHealthy = false) :
    t.record? r = none ↔
      UInt64.size * nanosPerSecond ≤ 2 * interval.nanos ∧
        endingRow ProbeResult.isBad history = 0 := by
  rw [record?_bad hr, recordFailure?_eq_none_iff, h.nextInterval, ← Nat.not_lt,
    double_waitAfter_lt_iff]
  omega

/-- A bad result that can be recorded does not shorten the wait, unless the wait is an interval
beyond a minute. -/
theorem Waits.le_iff (h : Waits interval history t) (hr : r.isHealthy = false)
    (ht : t.record? r = some t') :
    t.nextInterval ≤ t'.nextInterval ↔
      0 < endingRow ProbeResult.isBad history ∨ interval.nanos ≤ maxInterval.nanos := by
  have hnext := (h.record? ht).nextInterval
  rw [endingRow_concat, if_pos (by simp [ProbeResult.isBad, hr])] at hnext
  rw [TimeSpan.le_def, h.nextInterval, hnext, waitAfter_le_succ_iff]

/-! ## Recording a history -/

variable {unhealthy healthy : UInt32}

theorem recordAll?_concat_eq_some_iff :
    t.recordAll? (history ++ [r]) = some t' ↔
      ∃ u, t.recordAll? history = some u ∧ u.record? r = some t' := by
  rw [recordAll?, List.foldlM_append]
  exact Option.bind_eq_some_iff.trans (by simp [recordAll?])

/-- However long a history is, if it can be recorded, the wait is the one after it. -/
theorem waits_of_recordAll? (h : (start unhealthy healthy interval).recordAll? history = some t) :
    Waits interval history t := by
  induction history using List.reverseRecOn generalizing t with
  | nil =>
    cases h
    exact ⟨rfl, rfl⟩
  | append_singleton history r ih =>
    obtain ⟨u, hu, ht⟩ := recordAll?_concat_eq_some_iff.1 h
    exact (ih hu).record? ht

/-- Without bad results there is no row of them. -/
theorem endingRow_bad_eq_zero (h : ∀ r ∈ history, r.isHealthy = true) :
    endingRow ProbeResult.isBad history = 0 := by
  rw [endingRow, List.length_eq_zero_iff, List.rtakeWhile_eq_nil_iff]
  intro hne
  simp [ProbeResult.isBad, h _ (List.getLast_mem hne)]

/-- A history can be recorded if twice the interval is in range, or if no result is bad. -/
theorem exists_recordAll?_iff :
    (∃ t, (start unhealthy healthy interval).recordAll? history = some t) ↔
      2 * interval.nanos < UInt64.size * nanosPerSecond ∨ ∀ r ∈ history, r.isHealthy = true := by
  induction history using List.reverseRecOn with
  | nil => exact iff_of_true ⟨_, rfl⟩ (.inr nofun)
  | append_singleton history r ih =>
    simp only [recordAll?_concat_eq_some_iff, List.forall_mem_append, List.forall_mem_singleton]
    cases hr : r.isHealthy with
    | true =>
      obtain rfl := ProbeResult.isHealthy_iff.1 hr
      simpa [HealthTracker.record?] using ih
    | false =>
      constructor
      · rintro ⟨t, u, hu, ht⟩
        by_contra hlong
        simp only [Bool.false_eq_true, and_false, or_false, Nat.not_lt] at hlong
        -- So far no result was bad, and twice the interval is what the next wait would come from.
        have hgood : ∀ r ∈ history, r.isHealthy = true :=
          (ih.1 ⟨u, hu⟩).resolve_left (Nat.not_lt.2 hlong)
        have hnone := ((waits_of_recordAll? hu).record?_eq_none_iff hr).2
          ⟨hlong, endingRow_bad_eq_zero hgood⟩
        exact nomatch hnone.symm.trans ht
      · rintro (hfits | ⟨-, hgood⟩)
        · obtain ⟨u, hu⟩ := ih.2 (.inl hfits)
          have hsome : u.record? r ≠ none := fun hnone =>
            Nat.not_le.2 hfits (((waits_of_recordAll? hu).record?_eq_none_iff hr).1 hnone).1
          obtain ⟨t, ht⟩ := Option.ne_none_iff_exists'.1 hsome
          exact ⟨t, u, hu, ht⟩
        · cases hgood

end

/-! ## Failed rounds -/

/-- **When a failed round backs off.** For every accepted configuration, any thresholds and any
history of results, however long: another bad result can be recorded exactly if twice the interval
is in range, and it does not shorten the wait exactly if the result before it was bad as well or the
interval is at most a minute. The history itself can be recorded if twice the interval is in range
or if it is free of bad results. -/
theorem failed_round_backs_off_iff {c : Config} (hc : c.validate = .ok ())
    (unhealthy healthy : UInt32) (history : List ProbeResult) {r : ProbeResult}
    (hr : r.isHealthy = false) :
    ∃ interval, c.healthInterval = .ok interval ∧ 0 < interval.nanos ∧
      ((∃ t, (start unhealthy healthy interval).recordAll? history = some t) ↔
        2 * interval.nanos < UInt64.size * nanosPerSecond ∨
          ∀ x ∈ history, x.isHealthy = true) ∧
      ∀ t, (start unhealthy healthy interval).recordAll? history = some t →
        (t.record? r = none ↔ UInt64.size * nanosPerSecond ≤ 2 * interval.nanos) ∧
        ((∃ t', t.record? r = some t' ∧ t.nextInterval ≤ t'.nextInterval) ↔
          0 < endingRow ProbeResult.isBad history ∨ interval.nanos ≤ 60 * nanosPerSecond) := by
  obtain ⟨interval, hinterval, hpos⟩ := Config.exists_healthInterval hc
  refine ⟨interval, hinterval, hpos, exists_recordAll?_iff, ?_⟩
  intro t ht
  have hwaits := waits_of_recordAll? ht
  have hrow (hlong : UInt64.size * nanosPerSecond ≤ 2 * interval.nanos) :
      endingRow ProbeResult.isBad history = 0 :=
    endingRow_bad_eq_zero ((exists_recordAll?_iff.1 ⟨t, ht⟩).resolve_left (Nat.not_lt.2 hlong))
  have hnone : t.record? r = none ↔ UInt64.size * nanosPerSecond ≤ 2 * interval.nanos := by
    rw [hwaits.record?_eq_none_iff hr]
    exact and_iff_left_of_imp hrow
  refine ⟨hnone, ?_⟩
  constructor
  · rintro ⟨t', ht', hle⟩
    exact (hwaits.le_iff hr ht').1 hle
  · intro h
    have hsome : t.record? r ≠ none := by
      intro hlong
      rw [hnone] at hlong
      have hzero := hrow hlong
      simp only [nanosPerSecond, UInt64.size] at hlong h
      omega
    obtain ⟨t', ht'⟩ := Option.ne_none_iff_exists'.1 hsome
    exact ⟨t', ht', (hwaits.le_iff hr ht').2 h⟩

/-- A configuration that sets nothing but the interval between health rounds. -/
def intervalOnly (text : String) : Config :=
  { Config.empty with health := some ⟨none, none, some text, none, none⟩ }

/-- With 45 seconds between rounds and a recovery behind it, a bad result lengthens the wait to a
minute. -/
theorem failed_round_backs_off_iff_recovered :
    (intervalOnly "45s").validate = .ok () ∧ ProbeResult.unhealthy.isHealthy = false ∧
      ∃ t t', (start 3 2 (.ofSecs 45)).recordAll? [.failed, .failed, .healthy] = some t ∧
        t.record? .unhealthy = some t' ∧ t.nextInterval ≤ t'.nextInterval ∧
        t'.nextInterval = .ofSecs 60 := by
  have hc : (intervalOnly "45s").validate = .ok () := rfl
  have hr : ProbeResult.unhealthy.isHealthy = false := rfl
  have hspan : (intervalOnly "45s").healthInterval = .ok (.ofSecs 45) := by decide +kernel
  obtain ⟨interval, hinterval, -, hrecorded, hnext⟩ :=
    failed_round_backs_off_iff hc 3 2 [.failed, .failed, .healthy] hr
  obtain rfl : TimeSpan.ofSecs 45 = interval := Except.ok.inj (hspan.symm.trans hinterval)
  obtain ⟨t, ht⟩ := hrecorded.2 (.inl (by decide))
  obtain ⟨t', ht', hle⟩ := (hnext t ht).2.2 (.inr (by decide))
  refine ⟨hc, hr, t, t', ht, ht', hle, ?_⟩
  obtain rfl := Option.some.inj ht
  obtain rfl := Option.some.inj ht'
  rfl

/-- An accepted interval of two minutes is cut to one by a bad result, and another accepted interval
is so long that a bad result cannot be recorded. -/
theorem failed_round_shortens_wait :
    (intervalOnly "2m").validate = .ok () ∧
    (intervalOnly "2m").healthInterval = .ok (.ofSecs 120) ∧
    (∃ t', (start 3 2 (.ofSecs 120)).record? .failed = some t' ∧
      ¬ (start 3 2 (.ofSecs 120)).nextInterval ≤ t'.nextInterval) ∧
    (intervalOnly "18446744073709551615s").validate = .ok () ∧
    (intervalOnly "18446744073709551615s").healthInterval = .ok (.ofSecs 18446744073709551615) ∧
    (start 3 2 (.ofSecs 18446744073709551615)).record? .failed = none := by
  refine ⟨by decide +kernel, by decide +kernel, ⟨_, rfl, by decide⟩, by decide +kernel,
    by decide +kernel, by decide +kernel⟩

end HealthTracker

end PartitionedRollout
