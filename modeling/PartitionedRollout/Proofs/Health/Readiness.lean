/-
# PartitionedRollout.Proofs.Health.Readiness -- at which instants a set is awaited

A timeline is a world in which reading takes no time, nobody says stop, and a sleep ends when it is
over. What is stored may change from one millisecond to the next, in any way.

An instant at which the gate reads is either missed, and the gate sleeps on, or it is the last one.
It is missed if the set was read, is not ready, and the budget is not spent. Everything else is an
end, `GateEnd`: a ready set, a set that cannot be read, or one that is not ready when the budget is
spent. An instant past the budget is not missed, so among the multiples of the interval there is a
first end, and the gate reads at all multiples up to that one.
-/

import Mathlib.Data.Nat.Find
import PartitionedRollout.Health.Readiness
import PartitionedRollout.Proofs.Rollout.Fleet
import PartitionedRollout.Proofs.Workload.Entries

namespace PartitionedRollout

open Program

/-! ## Timelines -/

/-- What is stored at each millisecond, and what a clock shows. -/
structure Timeline where
  /-- The reply to a read, so many milliseconds after the beginning. -/
  contents : Nat → WorkloadId → Except StoreError WorkloadSet
  /-- What the clock shows at the beginning. -/
  origin : TimeSpan
  /-- The replies to requests of other kinds. -/
  other : (r : Request) → r.Reply

namespace Timeline

/-- How far a timeline has come. -/
structure Moment where
  /-- The milliseconds since the beginning. -/
  millis : Nat
  /-- What was read so far, and at which of them. -/
  reads : List (Nat × WorkloadId)
  deriving DecidableEq, Repr

variable (w : Timeline)

/-- What the clock shows. It stops at the longest time span. -/
def clock (millis : Nat) : TimeSpan :=
  ⟨min (w.origin.nanos + millis * nanosPerMilli) (UInt64.size * nanosPerSecond - 1),
    Nat.lt_of_le_of_lt (Nat.min_le_right _ _) (by decide)⟩

/-- Reads are noted, and only sleeping takes time. A started millisecond counts as a whole one. -/
def answer (m : Moment) : (r : Request) → r.Reply × Moment
  | .get id => (w.contents m.millis id, { m with reads := m.reads ++ [(m.millis, id)] })
  | .now => (w.clock m.millis, m)
  | .sleep d => (false, { m with millis := m.millis + d.ceilMillis })
  | r => (w.other r, m)

theorem clock_zero : w.clock 0 = w.origin := by
  have hbounded := w.origin.bounded
  apply TimeSpan.ext
  show min (w.origin.nanos + 0 * nanosPerMilli) _ = _
  omega

/-- A budget that the clock can show is spent when that time has passed. -/
theorem le_elapsed_iff {budget : TimeSpan} {t millis : Nat}
    (hbudget : budget.nanos = t * nanosPerMilli)
    (horigin : w.origin.nanos + budget.nanos < UInt64.size * nanosPerSecond) :
    budget ≤ w.clock millis - w.origin ↔ t ≤ millis := by
  have hmillis : t * nanosPerMilli ≤ millis * nanosPerMilli ↔ t ≤ millis :=
    Nat.mul_le_mul_right_iff (by decide)
  rw [← hmillis, ← hbudget, TimeSpan.le_def, TimeSpan.nanos_sub]
  show budget.nanos ≤ min _ _ - w.origin.nanos ↔ _
  omega

end Timeline

theorem TimeSpan.ceilMillis_eq {d : TimeSpan} {n : Nat} (h : d.nanos = n * nanosPerMilli) :
    d.ceilMillis = n := by
  rw [ceilMillis, h]
  simp only [nanosPerMilli]
  omega

/-! ## One instant -/

/-- The set was read and is not ready, and the budget of `t` milliseconds is not spent. -/
def Missed (w : Timeline) (id : WorkloadId) (t millis : Nat) : Prop :=
  millis < t ∧ ∃ set, w.contents millis id = .ok set ∧ ¬ set.Ready

/-- The gate ends with a read, and this is its result. -/
inductive GateEnd (w : Timeline) (id : WorkloadId) (t millis : Nat) :
    Except Failure Unit → Prop where
  /-- The set is ready. -/
  | ready {set : WorkloadSet} (hread : w.contents millis id = .ok set) (h : set.Ready) :
      GateEnd w id t millis (.ok ())
  /-- It cannot be read. -/
  | unread {e : StoreError} (hread : w.contents millis id = .error e) :
      GateEnd w id t millis
        (.error ⟨s!"reading {id} while waiting for readiness", [e.message]⟩)
  /-- It is not ready, and the budget is spent. -/
  | spent {set : WorkloadSet} (hread : w.contents millis id = .ok set) (h : ¬ set.Ready)
      (hlate : t ≤ millis) :
      GateEnd w id t millis (.error (notReady set id (w.clock millis - w.origin)))

section

variable {w : Timeline} {id : WorkloadId} {s : ReadinessSettings} {d t millis rounds : Nat}
  {reads : List (Nat × WorkloadId)} {result : Except Failure Unit}
  {post : Except Failure Unit → Timeline.Moment → Prop}

theorem missed_or_gateEnd (w : Timeline) (id : WorkloadId) (t millis : Nat) :
    Missed w id t millis ∨ ∃ result, GateEnd w id t millis result := by
  cases hread : w.contents millis id with
  | error e => exact .inr ⟨_, .unread hread⟩
  | ok set =>
    by_cases hready : set.Ready
    · exact .inr ⟨_, .ready hread hready⟩
    · rcases Nat.lt_or_ge millis t with hearly | hlate
      · exact .inl ⟨hearly, set, hread, hready⟩
      · exact .inr ⟨_, .spent hread hready hlate⟩

/-- A round with a read that ends the gate. -/
theorem reaches_of_gateEnd (hbudget : s.timeout.nanos = t * nanosPerMilli)
    (horigin : w.origin.nanos + s.timeout.nanos < UInt64.size * nanosPerSecond)
    (h : GateEnd w id t millis result) (hpost : post result ⟨millis, reads ++ [(millis, id)]⟩) :
    Reaches w.answer ⟨millis, reads⟩ (awaitReadyFrom s id w.origin (rounds + 1)) post := by
  rw [awaitReadyFrom]
  cases h with
  | @ready set hread hready =>
    refine .call (x := .ok set) (by rw [Timeline.answer, hread]) ?_
    simp only [WorkloadSet.allReady_iff.2 hready, if_true]
    exact .done hpost
  | @unread e hread =>
    refine .call (x := .error e) (by rw [Timeline.answer, hread]) ?_
    exact .done hpost
  | @spent set hread hready hlate =>
    refine .call (x := .ok set) (by rw [Timeline.answer, hread]) ?_
    simp only [WorkloadSet.allReady_eq_false hready, Bool.false_eq_true, if_false]
    refine .call (x := w.clock millis) rfl ?_
    rw [if_pos ((w.le_elapsed_iff hbudget horigin).2 hlate)]
    exact .done hpost

/-- A round with a read that misses a ready set. -/
theorem reaches_of_missed (hinterval : s.pollInterval.nanos = d * nanosPerMilli)
    (hbudget : s.timeout.nanos = t * nanosPerMilli)
    (horigin : w.origin.nanos + s.timeout.nanos < UInt64.size * nanosPerSecond)
    (h : Missed w id t millis)
    (hrest : Reaches w.answer ⟨millis + d, reads ++ [(millis, id)]⟩
      (awaitReadyFrom s id w.origin rounds) post) :
    Reaches w.answer ⟨millis, reads⟩ (awaitReadyFrom s id w.origin (rounds + 1)) post := by
  obtain ⟨hearly, set, hread, hready⟩ := h
  have hleft : ¬ s.timeout ≤ w.clock millis - w.origin := by
    rw [w.le_elapsed_iff hbudget horigin]
    exact Nat.not_le.2 hearly
  rw [awaitReadyFrom]
  refine .call (x := .ok set) (by rw [Timeline.answer, hread]) ?_
  simp only [WorkloadSet.allReady_eq_false hready, Bool.false_eq_true, if_false]
  refine .call (x := w.clock millis) rfl ?_
  rw [if_neg hleft]
  refine .call (x := false) (by rw [Timeline.answer, TimeSpan.ceilMillis_eq hinterval]) ?_
  exact hrest

/-! ## All instants -/

/-- From a multiple of the interval on, the gate reads at each one up to the first end. -/
theorem reaches_first_gateEnd {k n : Nat} (hinterval : s.pollInterval.nanos = d * nanosPerMilli)
    (hbudget : s.timeout.nanos = t * nanosPerMilli)
    (horigin : w.origin.nanos + s.timeout.nanos < UInt64.size * nanosPerSecond)
    (hmissed : ∀ j < n, Missed w id t ((k + j) * d))
    (hend : GateEnd w id t ((k + n) * d) result) (hrounds : n < rounds) :
    Reaches w.answer ⟨k * d, reads⟩ (awaitReadyFrom s id w.origin rounds) fun r m =>
      r = result ∧
        m = ⟨(k + n) * d, reads ++ (List.range' k (n + 1)).map fun j => (j * d, id)⟩ := by
  induction n generalizing k reads rounds with
  | zero =>
    obtain ⟨rounds, rfl⟩ := Nat.exists_eq_add_one_of_ne_zero (Nat.ne_zero_of_lt hrounds)
    exact reaches_of_gateEnd hbudget horigin hend ⟨rfl, rfl⟩
  | succ n ih =>
    obtain ⟨rounds, rfl⟩ := Nat.exists_eq_add_one_of_ne_zero (Nat.ne_zero_of_lt hrounds)
    -- The first instant is missed, and the end is one step nearer from the next one.
    refine reaches_of_missed hinterval hbudget horigin (hmissed 0 (Nat.succ_pos n)) ?_
    rw [← Nat.succ_mul]
    have hshift (j : Nat) : k + (j + 1) = k + 1 + j := by omega
    have hlater : ∀ j < n, Missed w id t ((k + 1 + j) * d) := by
      intro j hj
      rw [← hshift]
      exact hmissed (j + 1) (Nat.succ_lt_succ hj)
    rw [hshift] at hend ⊢
    refine (ih hlater hend (Nat.lt_of_succ_lt_succ hrounds)).mono ?_
    rintro r m ⟨rfl, rfl⟩
    refine ⟨rfl, ?_⟩
    rw [List.append_assoc, List.range'_succ, List.map_cons]
    rfl

/-- Up to the first multiple of the interval past the budget there is a first end. -/
theorem exists_first_gateEnd (w : Timeline) (id : WorkloadId) {d t n : Nat} (hlate : t ≤ n * d) :
    ∃ k ≤ n, (∀ j < k, Missed w id t (j * d)) ∧ ∃ result, GateEnd w id t (k * d) result := by
  have hlast : ∃ result, GateEnd w id t (n * d) result := by
    refine (missed_or_gateEnd w id t (n * d)).resolve_left ?_
    rintro ⟨hearly, -⟩
    exact Nat.not_le.2 hearly hlate
  have hend : ∃ k, ∃ result, GateEnd w id t (k * d) result := ⟨n, hlast⟩
  classical
  refine ⟨Nat.find hend, Nat.find_min' hend hlast, ?_, Nat.find_spec hend⟩
  intro j hj
  exact (missed_or_gateEnd w id t (j * d)).resolve_right (Nat.find_min hend hj)

end

/-- **When a set is awaited.** For every history of a store in which reading takes no time and nobody
says stop, and for every interval of `d` and every budget of `t` milliseconds: the gate reads the
set at the instants `0`, `d`, `2 d` and so on, up to the first one at which it is ready, or cannot be
read, or is not ready with the budget spent. That is the result, and there are at most as many reads
as intervals in the budget, a started one counted, and one more. The clock has to show the end of the
budget; if it starts at zero, it can do so for any budget. -/
theorem awaitReady_reads_until_first_end (w : Timeline) (id : WorkloadId) {s : ReadinessSettings}
    {d t rounds : Nat} (hd : 0 < d) (hinterval : s.pollInterval.nanos = d * nanosPerMilli)
    (hbudget : s.timeout.nanos = t * nanosPerMilli)
    (horigin : w.origin.nanos + s.timeout.nanos < UInt64.size * nanosPerSecond)
    (hrounds : (t + d - 1) / d < rounds) :
    Reaches w.answer ⟨0, []⟩ (awaitReady rounds s id) fun result m =>
      ∃ k ≤ (t + d - 1) / d,
        m = ⟨k * d, (List.range (k + 1)).map fun j => (j * d, id)⟩ ∧
        (∀ j < k, Missed w id t (j * d)) ∧ GateEnd w id t (k * d) result := by
  -- The quotient is rounded up, so this multiple of the interval is past the budget.
  have hlate : t ≤ (t + d - 1) / d * d := by
    have hrest := Nat.mod_lt (t + d - 1) hd
    have hsplit := Nat.div_add_mod' (t + d - 1) d
    omega
  obtain ⟨k, hk, hmissed, result, hend⟩ := exists_first_gateEnd w id hlate
  refine .call (x := w.origin) (by rw [Timeline.answer, w.clock_zero]) ?_
  have hgate : Reaches w.answer ⟨0 * d, []⟩ (awaitReadyFrom s id w.origin rounds) _ :=
    reaches_first_gateEnd hinterval hbudget horigin
      (fun j hj => by rw [Nat.zero_add]; exact hmissed j hj) (by rwa [Nat.zero_add])
      (Nat.lt_of_le_of_lt hk hrounds)
  rw [Nat.zero_mul] at hgate
  refine hgate.mono ?_
  rintro r m ⟨rfl, rfl⟩
  refine ⟨k, hk, ?_, hmissed, hend⟩
  rw [Nat.zero_add, List.range_eq_range']
  rfl

/-! ## A late replica -/

/-- Failure, or nothing, in reply to anything. -/
def Request.refusal : (r : Request) → r.Reply
  | .get _ => .error default
  | .update _ => .error default
  | .transform _ => .error default
  | .verify _ _ => .error default
  | .check _ _ => none
  | .awaitReady => .error default
  | .probeHealth _ _ => .error default
  | .stopping => false
  | .sleep _ => false
  | .now => .zero
  | .draw _ _ => none
  | .fetch _ _ => none

/-- A set whose only replica is ready or not. -/
def WorkloadSet.single (id : WorkloadId) (ready : Bool) : WorkloadSet :=
  { WorkloadSet.ofSpec id 1 (.ofImage "v1") with status := ⟨0, [⟨0, "old", ready, none⟩]⟩ }

/-- The replica is ready from some millisecond on, and the clock has been running for a while. -/
def Timeline.late (millis : Nat) : Timeline :=
  ⟨fun now id => .ok (.single id (decide (millis ≤ now))), .ofSecs 7, Request.refusal⟩

/-- A replica that is ready after two and a half seconds is found so after three, with a read every
second. -/
theorem awaitReady_reads_until_ready :
    let s : ReadinessSettings := ⟨.ofSecs 1, .ofSecs 10⟩
    let id : WorkloadId := ⟨"db", "a"⟩
    0 < 1000 ∧ s.pollInterval.nanos = 1000 * nanosPerMilli ∧
      s.timeout.nanos = 10000 * nanosPerMilli ∧
      (Timeline.late 2500).origin.nanos + s.timeout.nanos < UInt64.size * nanosPerSecond ∧
      (10000 + 1000 - 1) / 1000 < 20 ∧
      (awaitReady 20 s id).run (Timeline.late 2500).answer ⟨0, []⟩ =
        (.ok (.ok ()), ⟨3000, [(0, id), (1000, id), (2000, id), (3000, id)]⟩) := by
  intro s id
  have hinterval : s.pollInterval.nanos = 1000 * nanosPerMilli := by decide
  have hbudget : s.timeout.nanos = 10000 * nanosPerMilli := by decide
  have horigin : (Timeline.late 2500).origin.nanos + s.timeout.nanos <
    UInt64.size * nanosPerSecond := by decide
  refine ⟨by decide, hinterval, hbudget, horigin, by decide, ?_⟩
  obtain ⟨result, m, hrun, k, -, rfl, hmissed, hend⟩ :=
    awaitReady_reads_until_first_end (Timeline.late 2500) id (by decide) hinterval hbudget horigin
      (show (10000 + 1000 - 1) / 1000 < 20 by decide)
  have hready : (WorkloadSet.single id true).Ready := WorkloadSet.allReady_iff.1 rfl
  have hunready : ¬ (WorkloadSet.single id false).Ready := mt WorkloadSet.allReady_iff.2 nofun
  -- The set is ready at the fourth read, and not at any before it.
  have hk : k ≤ 3 := by
    by_contra hlater
    obtain ⟨-, set, hread, hmiss⟩ := hmissed 3 (Nat.not_le.1 hlater)
    cases hread
    exact hmiss hready
  cases hend with
  | @ready set hread h =>
    cases hread
    have hlate : 2500 ≤ k * 1000 := by
      by_contra hearly
      rw [decide_eq_false hearly] at h
      exact hunready h
    obtain rfl : k = 3 := by omega
    exact hrun
  | unread hread => cases hread
  | spent _ _ hlate => omega

end PartitionedRollout
