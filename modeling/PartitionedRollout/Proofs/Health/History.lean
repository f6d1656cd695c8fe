/-
# PartitionedRollout.Proofs.Health.History -- a tracker as a function of its history

A tracker is told one result after another and keeps two counts, a verdict and a wait. Here all four
are read off the whole history of results. The counts are the lengths of the two rows at its end,
and the wait doubles with the second of them. For the verdict, a row of enough results of a kind is
looked up anywhere in the history: the kind of which one was completed last decides.

`Reflects` says that a tracker is what its history calls for. One more result keeps that, and it
never makes the wait too long for a time span.
-/

import Mathlib.Algebra.Ring.Nat
import Mathlib.Data.List.DropRight
import PartitionedRollout.Health.Tracker

namespace PartitionedRollout

/-- The result is a healthy one. -/
def ProbeResult.isHealthy : ProbeResult → Bool
  | .healthy => true
  | .unhealthy => false
  | .failed => false

theorem ProbeResult.isHealthy_iff {r : ProbeResult} : r.isHealthy = true ↔ r = .healthy := by
  cases r <;> simp [isHealthy]

/-- The result is any other one: a bad answer, or none. -/
def ProbeResult.isBad (r : ProbeResult) : Bool :=
  !r.isHealthy

/-! ## Rows in a history -/

section

variable {p : ProbeResult → Bool} {history : List ProbeResult} {r : ProbeResult} {n k : Nat}

/-- The length of the row of results of a kind at the end of a history. -/
def endingRow (p : ProbeResult → Bool) (history : List ProbeResult) : Nat :=
  (history.rtakeWhile p).length

/-- The first `k` results of a history end with `n` results of a kind in a row. -/
def RowAt (p : ProbeResult → Bool) (n k : Nat) (history : List ProbeResult) : Prop :=
  ∃ before row after, history = before ++ row ++ after ∧ row.length = n ∧
    (∀ r ∈ row, p r = true) ∧ before.length + n = k

/-- One more result makes the row longer or ends it. -/
theorem endingRow_concat :
    endingRow p (history ++ [r]) = if p r then endingRow p history + 1 else 0 := by
  unfold endingRow
  rw [List.rtakeWhile_concat]
  split
  · rw [List.length_append, List.length_singleton]
  · rfl

theorem endingRow_le_length : endingRow p history ≤ history.length :=
  (List.rtakeWhile_suffix p history).length_le

/-- The row at the end is at least as long as any other row that stands there. -/
theorem le_endingRow_iff :
    n ≤ endingRow p history ↔
      ∃ before row, history = before ++ row ∧ row.length = n ∧ ∀ r ∈ row, p r = true := by
  constructor
  · intro hn
    let whole := history.rtakeWhile p
    refine ⟨history.rdropWhile p ++ whole.take (whole.length - n), whole.drop (whole.length - n),
      ?_, ?_, ?_⟩
    · rw [List.append_assoc, List.take_append_drop, List.rdropWhile_append_rtakeWhile]
    · rw [List.length_drop]
      exact Nat.sub_sub_self hn
    · intro r hr
      exact List.mem_rtakeWhile_imp (List.mem_of_mem_drop hr)
  · rintro ⟨before, row, rfl, rfl, hrow⟩
    induction row using List.reverseRecOn with
    | nil => exact Nat.zero_le _
    | append_singleton row r ih =>
      obtain ⟨hrow, hr⟩ := List.forall_mem_append.1 hrow
      rw [← List.append_assoc, endingRow_concat, if_pos (hr r (List.mem_singleton_self r)),
        List.length_append, List.length_singleton]
      exact Nat.succ_le_succ (ih hrow)

/-- A row is completed by one more result, or it was there before. -/
theorem rowAt_concat_iff :
    RowAt p n k (history ++ [r]) ↔
      RowAt p n k history ∨ k = history.length + 1 ∧ n ≤ endingRow p (history ++ [r]) := by
  constructor
  · rintro ⟨before, row, after, hsplit, hlength, hrow, rfl⟩
    rcases List.eq_nil_or_concat after with rfl | ⟨after, x, rfl⟩
    · rw [List.append_nil] at hsplit
      refine .inr ⟨?_, le_endingRow_iff.2 ⟨before, row, hsplit, hlength, hrow⟩⟩
      have hlengths := congrArg List.length hsplit
      simp only [List.length_append, List.length_singleton] at hlengths
      omega
    · rw [List.concat_eq_append, ← List.append_assoc] at hsplit
      obtain ⟨hhistory, -⟩ := List.append_inj' hsplit rfl
      exact .inl ⟨before, row, after, hhistory, hlength, hrow, rfl⟩
  · rintro (⟨before, row, after, rfl, hlength, hrow, rfl⟩ | ⟨rfl, hlast⟩)
    · exact ⟨before, row, after ++ [r], by simp, hlength, hrow, rfl⟩
    · obtain ⟨before, row, hsplit, hlength, hrow⟩ := le_endingRow_iff.1 hlast
      refine ⟨before, row, [], by rw [hsplit, List.append_nil], hlength, hrow, ?_⟩
      have hlengths := congrArg List.length hsplit
      simp only [List.length_append, List.length_singleton] at hlengths
      omega

/-- A row is part of the history. -/
theorem RowAt.le_length (h : RowAt p n k history) : k ≤ history.length := by
  obtain ⟨before, row, after, rfl, rfl, -, rfl⟩ := h
  simp

theorem not_rowAt_nil (hn : 0 < n) : ¬ RowAt p n k [] := by
  rintro ⟨before, row, after, hsplit, rfl, -, -⟩
  obtain ⟨hfront, -⟩ := List.append_eq_nil_iff.1 hsplit.symm
  obtain ⟨-, rfl⟩ := List.append_eq_nil_iff.1 hfront
  exact Nat.lt_irrefl 0 hn

/-- A result of another kind completes no row. -/
theorem rowAt_concat_of_not (hn : 0 < n) (hr : p r = false) :
    RowAt p n k (history ++ [r]) ↔ RowAt p n k history := by
  rw [rowAt_concat_iff, endingRow_concat, hr]
  constructor
  · rintro (h | ⟨-, hle⟩)
    · exact h
    · exact absurd (Nat.lt_of_lt_of_le hn hle) (Nat.lt_irrefl 0)
  · exact .inl

end

/-! ## The verdict -/

/-- The verdict that a history calls for, with the lengths of the rows that decide it: the kind of
which a row was completed last. -/
inductive CallsFor (healthy unhealthy : Nat) (history : List ProbeResult) :
    HealthStatus → Prop where
  /-- Neither kind had a row. -/
  | unknown (good : ∀ k, ¬ RowAt ProbeResult.isHealthy healthy k history)
      (bad : ∀ k, ¬ RowAt ProbeResult.isBad unhealthy k history) :
      CallsFor healthy unhealthy history .unknown
  /-- There was a row of healthy results, and every row of others was completed earlier. -/
  | healthy {k : Nat} (row : RowAt ProbeResult.isHealthy healthy k history)
      (last : ∀ j, RowAt ProbeResult.isBad unhealthy j history → j < k) :
      CallsFor healthy unhealthy history .healthy
  /-- There was a row of others, and every row of healthy results was completed earlier. -/
  | unhealthy {k : Nat} (row : RowAt ProbeResult.isBad unhealthy k history)
      (last : ∀ j, RowAt ProbeResult.isHealthy healthy j history → j < k) :
      CallsFor healthy unhealthy history .unhealthy

namespace CallsFor

variable {good bad : Nat} {history : List ProbeResult} {r : ProbeResult} {s s' : HealthStatus}

/-- A history calls for one verdict only. -/
theorem unique (h : CallsFor good bad history s) (h' : CallsFor good bad history s') : s = s' := by
  cases h with
  | unknown hgood hbad =>
    cases h' with
    | unknown => rfl
    | healthy row => exact absurd row (hgood _)
    | unhealthy row => exact absurd row (hbad _)
  | healthy row last =>
    cases h' with
    | unknown hgood => exact absurd row (hgood _)
    | healthy => rfl
    | unhealthy row' last' => exact absurd (last _ row') (Nat.lt_asymm (last' _ row))
  | unhealthy row last =>
    cases h' with
    | unknown _ hbad => exact absurd row (hbad _)
    | healthy row' last' => exact absurd (last _ row') (Nat.lt_asymm (last' _ row))
    | unhealthy => rfl

/-- A result that completes no row leaves the verdict as it is. -/
theorem concat_of_same (h : CallsFor good bad history s)
    (hgood : ∀ k, RowAt ProbeResult.isHealthy good k (history ++ [r]) ↔
      RowAt ProbeResult.isHealthy good k history)
    (hbad : ∀ k, RowAt ProbeResult.isBad bad k (history ++ [r]) ↔
      RowAt ProbeResult.isBad bad k history) :
    CallsFor good bad (history ++ [r]) s := by
  cases h with
  | unknown g b => exact .unknown (fun k hk => g k ((hgood k).1 hk)) fun k hk => b k ((hbad k).1 hk)
  | healthy row last => exact .healthy ((hgood _).2 row) fun j hj => last j ((hbad j).1 hj)
  | unhealthy row last => exact .unhealthy ((hbad _).2 row) fun j hj => last j ((hgood j).1 hj)

/-- A healthy result makes the verdict healthy if it completes a row. -/
theorem concat_healthy (hpos : 0 < bad) (hr : r.isHealthy = true)
    (h : CallsFor good bad history s) :
    CallsFor good bad (history ++ [r])
      (if good ≤ endingRow ProbeResult.isHealthy (history ++ [r]) then .healthy else s) := by
  have hbad (k : Nat) : RowAt ProbeResult.isBad bad k (history ++ [r]) ↔ _ :=
    rowAt_concat_of_not hpos (by simp [ProbeResult.isBad, hr])
  split
  next hrow =>
    refine .healthy (rowAt_concat_iff.2 (.inr ⟨rfl, hrow⟩)) ?_
    intro j hj
    exact Nat.lt_succ_of_le ((hbad j).1 hj).le_length
  next hshort =>
    refine h.concat_of_same ?_ hbad
    intro k
    rw [rowAt_concat_iff]
    simp [hshort]

/-- Any other result makes it unhealthy if it completes a row. -/
theorem concat_bad (hpos : 0 < good) (hr : r.isHealthy = false)
    (h : CallsFor good bad history s) :
    CallsFor good bad (history ++ [r])
      (if bad ≤ endingRow ProbeResult.isBad (history ++ [r]) then .unhealthy else s) := by
  have hgood (k : Nat) : RowAt ProbeResult.isHealthy good k (history ++ [r]) ↔ _ :=
    rowAt_concat_of_not hpos hr
  split
  next hrow =>
    refine .unhealthy (rowAt_concat_iff.2 (.inr ⟨rfl, hrow⟩)) ?_
    intro j hj
    exact Nat.lt_succ_of_le ((hgood j).1 hj).le_length
  next hshort =>
    refine h.concat_of_same hgood ?_
    intro k
    rw [rowAt_concat_iff]
    simp [hshort]

end CallsFor

/-! ## The wait -/

namespace HealthTracker

/-- The nanoseconds to wait after so many bad results in a row. -/
def waitAfter (interval : TimeSpan) : Nat → Nat
  | 0 => interval.nanos
  | k + 1 => min maxInterval.nanos (interval.nanos * 2 ^ (k + 1))

/-- A wait that has reached a minute stays there. -/
theorem waitAfter_succ (interval : TimeSpan) (k : Nat) :
    waitAfter interval (k + 1) = min maxInterval.nanos (2 * waitAfter interval k) := by
  cases k with
  | zero =>
    simp only [waitAfter]
    omega
  | succ k =>
    have hdouble : interval.nanos * 2 ^ (k + 2) = 2 * (interval.nanos * 2 ^ (k + 1)) := by
      rw [Nat.pow_succ 2 (k + 1), ← Nat.mul_assoc, Nat.mul_comm]
    rw [waitAfter, waitAfter, hdouble]
    omega

/-- Twice the wait is in range, unless the wait is an interval of which the double is not. -/
theorem double_waitAfter_lt_iff {interval : TimeSpan} {k : Nat} :
    2 * waitAfter interval k < UInt64.size * nanosPerSecond ↔
      0 < k ∨ 2 * interval.nanos < UInt64.size * nanosPerSecond := by
  cases k with
  | zero => simp [waitAfter]
  | succ k =>
    have hle : waitAfter interval (k + 1) ≤ maxInterval.nanos := Nat.min_le_left _ _
    have hminute : 2 * maxInterval.nanos < UInt64.size * nanosPerSecond := by decide
    exact iff_of_true (by omega) (.inl (Nat.succ_pos k))

/-- What a bad result does to the wait. It is lost only if the wait cannot be doubled. -/
theorem nextInterval_of_recordFailure? {t u : HealthTracker} (h : t.recordFailure? = some u) :
    u.interval = t.interval ∧
      u.nextInterval.nanos = min maxInterval.nanos (2 * t.nextInterval.nanos) := by
  obtain ⟨twice, htwice, rfl⟩ := Option.map_eq_some_iff.1 h
  refine ⟨rfl, ?_⟩
  rw [← TimeSpan.ofNanos?_eq_some_iff.1 htwice, Nat.min_comm]
  exact TimeSpan.nanos_min twice maxInterval

theorem recordFailure?_eq_none_iff {t : HealthTracker} :
    t.recordFailure? = none ↔ UInt64.size * nanosPerSecond ≤ 2 * t.nextInterval.nanos := by
  rw [recordFailure?, Option.map_eq_none_iff]
  exact TimeSpan.ofNanos?_eq_none_iff

/-- A bad answer and no answer at all are recorded alike. -/
theorem record?_bad {t : HealthTracker} {r : ProbeResult} (hr : r.isHealthy = false) :
    t.record? r = t.recordFailure? := by
  cases r with
  | healthy => cases hr
  | unhealthy | failed => rfl

/-! ## Trackers and histories -/

/-- Count results one by one. -/
def recordAll? (t : HealthTracker) (results : List ProbeResult) : Option HealthTracker :=
  results.foldlM record? t

/-- A tracker is what its history calls for. -/
structure Reflects (unhealthy healthy : UInt32) (interval : TimeSpan) (history : List ProbeResult)
    (t : HealthTracker) : Prop where
  /-- A threshold of zero counts as one. -/
  thresholds : t.unhealthyThreshold = max unhealthy 1 ∧ t.healthyThreshold = max healthy 1
  /-- The interval is the given one. -/
  unchanged : t.interval = interval
  /-- The healthy results in a row are those at the end. -/
  successes : t.successes.toNat = endingRow ProbeResult.isHealthy history
  /-- So are the others. -/
  failures : t.failures.toNat = endingRow ProbeResult.isBad history
  /-- The verdict is that of the kind of which a row was completed last. -/
  status : CallsFor (max 1 healthy.toNat) (max 1 unhealthy.toNat) history t.status
  /-- The wait has doubled with every bad result at the end. -/
  nextInterval : t.nextInterval.nanos =
    waitAfter interval (endingRow ProbeResult.isBad history)

section

variable {unhealthy healthy : UInt32} {interval : TimeSpan} {history : List ProbeResult}
  {t u : HealthTracker} {r : ProbeResult}

theorem toNat_max_one (n : UInt32) : (max n 1).toNat = max 1 n.toNat := by
  rw [UInt32.max_def]
  split
  next h =>
    rw [UInt32.le_iff_toNat_le, UInt32.toNat_one] at h
    rw [UInt32.toNat_one, Nat.max_eq_left h]
  next h =>
    rw [UInt32.le_iff_toNat_le, UInt32.toNat_one] at h
    exact (Nat.max_eq_right (by omega)).symm

theorem max_one_pos (n : UInt32) : 0 < max 1 n.toNat :=
  Nat.le_max_left 1 _

theorem reflects_start :
    Reflects unhealthy healthy interval [] (start unhealthy healthy interval) :=
  ⟨⟨rfl, rfl⟩, rfl, rfl, rfl, .unknown (fun _ => not_rowAt_nil (max_one_pos healthy))
    fun _ => not_rowAt_nil (max_one_pos unhealthy), rfl⟩

/-- A count of results does not wrap as long as the row at the end can be counted. -/
theorem toNat_count_succ {p : ProbeResult → Bool} {n : UInt32}
    (hn : n.toNat = endingRow p history) (hrow : endingRow p history + 1 < UInt32.size) :
    (n + 1).toNat = endingRow p history + 1 := by
  rw [UInt32.toNat_add, hn, UInt32.toNat_one]
  exact Nat.mod_eq_of_lt hrow

theorem Reflects.recordSuccess (h : Reflects unhealthy healthy interval history t)
    (hr : r.isHealthy = true) (hrow : endingRow ProbeResult.isHealthy history + 1 < UInt32.size) :
    Reflects unhealthy healthy interval (history ++ [r]) t.recordSuccess := by
  have hbad : r.isBad = false := by simp [ProbeResult.isBad, hr]
  have hsuccesses := toNat_count_succ h.successes hrow
  have hstatus := h.status.concat_healthy (max_one_pos unhealthy) hr
  rw [endingRow_concat, if_pos hr] at hstatus
  refine ⟨h.thresholds, h.unchanged, ?_, ?_, ?_, ?_⟩
  · rw [endingRow_concat, if_pos hr]
    exact hsuccesses
  · rw [endingRow_concat, hbad]
    rfl
  · rw [← hsuccesses] at hstatus
    simpa only [HealthTracker.recordSuccess, h.thresholds.2, UInt32.le_iff_toNat_le,
      toNat_max_one] using hstatus
  · rw [endingRow_concat, hbad]
    exact congrArg TimeSpan.nanos h.unchanged

theorem Reflects.recordFailure? (h : Reflects unhealthy healthy interval history t)
    (ht : t.recordFailure? = some u) (hr : r.isHealthy = false)
    (hrow : endingRow ProbeResult.isBad history + 1 < UInt32.size) :
    Reflects unhealthy healthy interval (history ++ [r]) u := by
  have hbad : r.isBad = true := by simp [ProbeResult.isBad, hr]
  have hfailures := toNat_count_succ h.failures hrow
  have hstatus := h.status.concat_bad (max_one_pos healthy) hr
  rw [endingRow_concat, if_pos hbad] at hstatus
  obtain ⟨-, hwait⟩ := nextInterval_of_recordFailure? ht
  rw [h.nextInterval, ← waitAfter_succ] at hwait
  obtain ⟨twice, -, rfl⟩ := Option.map_eq_some_iff.1 ht
  refine ⟨h.thresholds, h.unchanged, ?_, ?_, ?_, ?_⟩
  · rw [endingRow_concat, hr]
    rfl
  · rw [endingRow_concat, if_pos hbad]
    exact hfailures
  · rw [← hfailures] at hstatus
    simpa only [h.thresholds.1, UInt32.le_iff_toNat_le, toNat_max_one] using hstatus
  · rw [endingRow_concat, if_pos hbad]
    exact hwait

/-- One more result, for rows at the end that can be counted. -/
theorem Reflects.record? (h : Reflects unhealthy healthy interval history t)
    (ht : t.record? r = some u)
    (hgood : endingRow ProbeResult.isHealthy history + 1 < UInt32.size)
    (hbad : endingRow ProbeResult.isBad history + 1 < UInt32.size) :
    Reflects unhealthy healthy interval (history ++ [r]) u := by
  cases r with
  | healthy =>
    cases ht
    exact h.recordSuccess rfl hgood
  | unhealthy | failed => exact h.recordFailure? ht rfl hbad

/-- Any result can be recorded if twice the interval is in range. -/
theorem Reflects.exists_record? (h : Reflects unhealthy healthy interval history t)
    (hinterval : 2 * interval.nanos < UInt64.size * nanosPerSecond) (r : ProbeResult) :
    ∃ u, t.record? r = some u := by
  cases hr : r.isHealthy with
  | true =>
    obtain rfl := ProbeResult.isHealthy_iff.1 hr
    exact ⟨_, rfl⟩
  | false =>
    rw [record?_bad hr, ← Option.ne_none_iff_exists', ne_eq, recordFailure?_eq_none_iff,
      h.nextInterval, Nat.not_le]
    exact double_waitAfter_lt_iff.2 (.inr hinterval)

/-- Any number of further results. -/
theorem Reflects.recordAll? {results : List ProbeResult}
    (h : Reflects unhealthy healthy interval history t)
    (hinterval : 2 * interval.nanos < UInt64.size * nanosPerSecond)
    (hlength : history.length + results.length < UInt32.size) :
    ∃ t', t.recordAll? results = some t' ∧
      Reflects unhealthy healthy interval (history ++ results) t' := by
  induction results generalizing history t with
  | nil => exact ⟨t, rfl, by rwa [List.append_nil]⟩
  | cons r results ih =>
    rw [List.length_cons] at hlength
    have hrows (p : ProbeResult → Bool) : endingRow p history + 1 < UInt32.size :=
      Nat.lt_of_le_of_lt (Nat.succ_le_succ endingRow_le_length) (by omega)
    obtain ⟨u, hu⟩ := h.exists_record? hinterval r
    have hreflects := h.record? hu (hrows _) (hrows _)
    have hrest : (history ++ [r]).length + results.length < UInt32.size := by
      rw [List.length_append, List.length_singleton]
      omega
    obtain ⟨t', ht', hall⟩ := ih hreflects hrest
    refine ⟨t', ?_, ?_⟩
    · rw [HealthTracker.recordAll?, List.foldlM_cons, hu]
      exact ht'
    · rwa [List.append_assoc, List.singleton_append] at hall

end

/-- What is not healthy counts the same, whether it was a bad answer or none. -/
theorem record?_congr (t : HealthTracker) {r r' : ProbeResult} (h : r.isHealthy = r'.isHealthy) :
    t.record? r = t.record? r' := by
  cases r <;> cases r' <;> first | rfl | cases h

theorem recordAll?_congr {results results' : List ProbeResult}
    (h : results.map ProbeResult.isHealthy = results'.map ProbeResult.isHealthy)
    (t : HealthTracker) : t.recordAll? results = t.recordAll? results' := by
  induction results generalizing results' t with
  | nil =>
    obtain rfl : results' = [] := List.map_eq_nil_iff.1 h.symm
    rfl
  | cons r results ih =>
    cases results' with
    | nil => cases h
    | cons r' results' =>
      obtain ⟨hr, hrest⟩ := List.cons.inj h
      rw [recordAll?, recordAll?, List.foldlM_cons, List.foldlM_cons, record?_congr t hr]
      exact bind_congr fun u => ih hrest u

/-- **A tracker is its history.** As long as twice the interval fits in a time span and the results
can be counted in 32 bits, every result can be recorded. Afterwards the counts are the rows at the
end of the history, and the wait has doubled with every bad result in the second of them, up to a
minute. The verdict is that of the kind of which a row was completed last, and that one only. It
makes no difference whether a result that is not healthy was a bad answer or none. -/
theorem recordAll?_history (unhealthy healthy : UInt32) {interval : TimeSpan}
    {history : List ProbeResult}
    (hinterval : 2 * interval.nanos < UInt64.size * nanosPerSecond)
    (hlength : history.length < UInt32.size) :
    ∃ t, (start unhealthy healthy interval).recordAll? history = some t ∧
      t.successes.toNat = endingRow ProbeResult.isHealthy history ∧
      t.failures.toNat = endingRow ProbeResult.isBad history ∧
      (∀ s, t.status = s ↔
        CallsFor (max 1 healthy.toNat) (max 1 unhealthy.toNat) history s) ∧
      t.nextInterval.nanos = (
        if endingRow ProbeResult.isBad history = 0 then interval.nanos
        else min (60 * nanosPerSecond) (interval.nanos * 2 ^ endingRow ProbeResult.isBad history)) ∧
      ∀ history' : List ProbeResult,
        history'.map ProbeResult.isHealthy = history.map ProbeResult.isHealthy →
        (start unhealthy healthy interval).recordAll? history' = some t := by
  have hstart : Reflects unhealthy healthy interval [] (start unhealthy healthy interval) :=
    reflects_start
  obtain ⟨t, ht, h⟩ := hstart.recordAll? hinterval (by simpa using hlength)
  rw [List.nil_append] at h
  refine ⟨t, ht, h.successes, h.failures, ?_, ?_, ?_⟩
  · intro s
    constructor
    · rintro rfl
      exact h.status
    · exact h.status.unique
  · rw [h.nextInterval]
    generalize endingRow ProbeResult.isBad history = k
    cases k <;> rfl
  · intro history' hsame
    rw [recordAll?_congr hsame]
    exact ht

/-- With thresholds of three and two, two bad results before a recovery and one after it leave the
verdict healthy, and an interval of a second is doubled once. -/
theorem recordAll?_history_flapping :
    CallsFor 2 3 [.unhealthy, .failed, .healthy, .healthy, .failed] .healthy ∧
    ∃ t, (start 3 2 (.ofSecs 1)).recordAll?
        [.failed, .failed, .healthy, .healthy, .unhealthy] = some t ∧
      t.status = .healthy ∧ t.failures.toNat = 1 ∧ t.nextInterval.nanos = 2 * nanosPerSecond := by
  have hinterval : 2 * (TimeSpan.ofSecs 1).nanos < UInt64.size * nanosPerSecond := by decide
  have hlength : [ProbeResult.unhealthy, .failed, .healthy, .healthy, .failed].length <
    UInt32.size := by decide
  obtain ⟨t, ht, -, hfailures, hstatus, hwait, hsame⟩ := recordAll?_history 3 2 hinterval hlength
  have hhealthy : t.status = .healthy := by
    obtain rfl := Option.some.inj ht
    rfl
  exact ⟨(hstatus .healthy).1 hhealthy, t, hsame _ rfl, hhealthy, hfailures, hwait⟩

end HealthTracker

end PartitionedRollout
