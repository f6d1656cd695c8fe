/-
# PartitionedRollout.Proofs.Rollout.Attempts -- the calls of an update with retries

`Attempts` lists every way in which an update can go, call by call, and what it then returns.
`run_updateWithin_iff` shows that these are the runs of the loop, no more and no less, so that
statements about conflicts are inductions over attempts.
-/

import PartitionedRollout.Proofs.Rollout.Run
import PartitionedRollout.Rollout.ConflictRetry

namespace PartitionedRollout

open Program

/-- The calls of an update and what it returns, for the retries that are left and the candidate that
is sent next. -/
inductive Attempts (id : WorkloadId) (partition : UInt32) (interval : TimeSpan)
    (change : WorkloadSet → WorkloadSet) :
    Nat → WorkloadSet → List Exchange → Except RolloutError WorkloadSet → Prop where
  /-- The candidate is stored. -/
  | persist {n : Nat} {candidate stored : WorkloadSet} :
      Attempts id partition interval change n candidate [⟨.update candidate, .ok stored⟩]
        (.ok stored)
  /-- It is refused for good. -/
  | reject {n : Nat} {candidate : WorkloadSet} {e : StoreError} (h : n = 0 ∨ e.isConflict = false) :
      Attempts id partition interval change n candidate [⟨.update candidate, .error e⟩]
        (.error (.ofStore id e))
  /-- The wait after a conflict is cut short. -/
  | rouse {n : Nat} {candidate : WorkloadSet} {e : StoreError} (h : e.isConflict = true) :
      Attempts id partition interval change (n + 1) candidate
        [⟨.update candidate, .error e⟩, ⟨.sleep interval, true⟩] (.error (.cancelled partition))
  /-- The latest version cannot be read. -/
  | lose {n : Nat} {candidate : WorkloadSet} {e cause : StoreError} (h : e.isConflict = true) :
      Attempts id partition interval change (n + 1) candidate
        [⟨.update candidate, .error e⟩, ⟨.sleep interval, false⟩, ⟨.get id, .error cause⟩]
        (.error (.ofStore id cause))
  /-- The next candidate is made from the latest version. -/
  | retry {n : Nat} {candidate latest : WorkloadSet} {e : StoreError} {es : List Exchange}
      {r : Except RolloutError WorkloadSet} (h : e.isConflict = true)
      (rest : Attempts id partition interval change n ((change latest).withPartition partition)
        es r) :
      Attempts id partition interval change (n + 1) candidate
        (⟨.update candidate, .error e⟩ :: ⟨.sleep interval, false⟩ :: ⟨.get id, .ok latest⟩ :: es) r

variable {id : WorkloadId} {partition : UInt32} {interval : TimeSpan}
  {change : WorkloadSet → WorkloadSet} {n : Nat} {candidate : WorkloadSet} {es : List Exchange}

theorem attempts_of_run {e : Ending (Except RolloutError WorkloadSet)}
    (h : Run (updateWithin id partition interval change n candidate) es e) :
    ∃ r, e = .ok r ∧ Attempts id partition interval change n candidate es r := by
  induction n generalizing candidate es with
  | zero =>
    rw [updateWithin, run_call_bind_iff] at h
    obtain ⟨reply, rest, rfl, h⟩ := h
    cases reply with
    | ok stored =>
      obtain ⟨rfl, rfl⟩ := run_done_iff.1 h
      exact ⟨_, rfl, .persist⟩
    | error cause =>
      obtain ⟨rfl, rfl⟩ := run_done_iff.1 h
      exact ⟨_, rfl, .reject (.inl rfl)⟩
  | succ n ih =>
    rw [updateWithin, run_call_bind_iff] at h
    obtain ⟨reply, rest, rfl, h⟩ := h
    cases reply with
    | ok stored =>
      obtain ⟨rfl, rfl⟩ := run_done_iff.1 h
      exact ⟨_, rfl, .persist⟩
    | error cause =>
      cases hc : cause.isConflict with
      | false =>
        simp only [hc, Bool.not_false, if_true] at h
        obtain ⟨rfl, rfl⟩ := run_done_iff.1 h
        exact ⟨_, rfl, .reject (.inr hc)⟩
      | true =>
        simp only [hc, Bool.not_true, Bool.false_eq_true, if_false] at h
        rw [run_call_bind_iff] at h
        obtain ⟨stopped, rest, rfl, h⟩ := h
        cases stopped with
        | true =>
          obtain ⟨rfl, rfl⟩ := run_done_iff.1 h
          exact ⟨_, rfl, .rouse hc⟩
        | false =>
          simp only [Bool.false_eq_true, if_false] at h
          rw [run_call_bind_iff] at h
          obtain ⟨reply, rest, rfl, h⟩ := h
          cases reply with
          | error cause =>
            obtain ⟨rfl, rfl⟩ := run_done_iff.1 h
            exact ⟨_, rfl, .lose hc⟩
          | ok latest =>
            obtain ⟨r, rfl, hrest⟩ := ih h
            exact ⟨r, rfl, .retry hc hrest⟩

theorem run_of_attempts {r : Except RolloutError WorkloadSet}
    (h : Attempts id partition interval change n candidate es r) :
    Run (updateWithin id partition interval change n candidate) es (.ok r) := by
  induction h with
  | @persist n =>
    -- The loop looks at the retries first, whatever the reply is going to be.
    cases n <;> rw [updateWithin, run_call_bind_iff] <;> exact ⟨_, _, rfl, .done _⟩
  | @reject n _ e h =>
    cases n with
    | zero =>
      rw [updateWithin, run_call_bind_iff]
      exact ⟨_, _, rfl, .done _⟩
    | succ n =>
      have hc : e.isConflict = false := h.resolve_left (Nat.succ_ne_zero n)
      rw [updateWithin, run_call_bind_iff]
      refine ⟨_, _, rfl, ?_⟩
      simp only [hc, Bool.not_false, if_true]
      exact .done _
  | rouse h =>
    rw [updateWithin, run_call_bind_iff]
    refine ⟨_, _, rfl, ?_⟩
    simp only [h, Bool.not_true, Bool.false_eq_true, if_false]
    rw [run_call_bind_iff]
    exact ⟨_, _, rfl, .done _⟩
  | lose h =>
    rw [updateWithin, run_call_bind_iff]
    refine ⟨_, _, rfl, ?_⟩
    simp only [h, Bool.not_true, Bool.false_eq_true, if_false]
    rw [run_call_bind_iff]
    refine ⟨_, _, rfl, ?_⟩
    simp only [Bool.false_eq_true, if_false]
    rw [run_call_bind_iff]
    exact ⟨_, _, rfl, .done _⟩
  | retry h _ ih =>
    rw [updateWithin, run_call_bind_iff]
    refine ⟨_, _, rfl, ?_⟩
    simp only [h, Bool.not_true, Bool.false_eq_true, if_false]
    rw [run_call_bind_iff]
    refine ⟨_, _, rfl, ?_⟩
    simp only [Bool.false_eq_true, if_false]
    rw [run_call_bind_iff]
    exact ⟨_, _, rfl, ih⟩

/-- The runs of the loop are its attempts. -/
theorem run_updateWithin_iff {e : Ending (Except RolloutError WorkloadSet)} :
    Run (updateWithin id partition interval change n candidate) es e ↔
      ∃ r, e = .ok r ∧ Attempts id partition interval change n candidate es r := by
  constructor
  · exact attempts_of_run
  · rintro ⟨r, rfl, h⟩
    exact run_of_attempts h

end PartitionedRollout
