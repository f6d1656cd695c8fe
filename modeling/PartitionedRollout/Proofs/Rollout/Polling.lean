/-
# PartitionedRollout.Proofs.Rollout.Polling -- what a poll does, round by round

`PollRounds` lists every way in which the rounds of a poll can go, call by call, and how the poll
then ends; `pollRounds_of_run` shows that it goes in no other way. The clock, the signal, the draws
and the checks reply as they like, so a check may take any time, and so may anything else.

What a poll promises is read off by induction over the rounds. Some of it is about single calls and
what stands before and after them in the run: `Everywhere` carries that through a row of calls.
-/

import PartitionedRollout.Proofs.Rollout.WindDown
import PartitionedRollout.Rollout.Polling

namespace PartitionedRollout

open Program

/-! ## Checks -/

/-- The reply to a check. -/
def Program.Exchange.checked? : Exchange → Option (Option (Except Failure Unit))
  | ⟨.check _ _, reply⟩ => some reply
  | _ => none

/-- The replies to the checks in a row of calls, in order. -/
def checks (es : List Exchange) : List (Option (Except Failure Unit)) :=
  es.filterMap Exchange.checked?

/-- The replies of checks that failed like this. -/
def misses (failures : List Failure) : List (Option (Except Failure Unit)) :=
  failures.map fun failure => some (.error failure)

@[simp]
theorem checks_append (es es' : List Exchange) : checks (es ++ es') = checks es ++ checks es' :=
  List.filterMap_append

@[simp]
theorem length_misses (failures : List Failure) : (misses failures).length = failures.length :=
  List.length_map _

theorem misses_concat (failures : List Failure) (last : Failure) :
    misses (failures ++ [last]) = misses failures ++ [some (.error last)] :=
  List.map_append

theorem not_mem_misses (failures : List Failure) : some (.ok ()) ∉ misses failures := by
  simp [misses]

/-! ## Waits -/

/-- Nothing but draws. -/
def OnlyDraws (es : List Exchange) : Prop :=
  ∀ x ∈ es, ∃ d f, x.request = .draw d f

theorem OnlyDraws.checks_eq_nil {es : List Exchange} (h : OnlyDraws es) : checks es = [] := by
  refine List.filterMap_eq_nil_iff.2 ?_
  intro x hx
  obtain ⟨r, reply⟩ := x
  obtain ⟨d, f, rfl⟩ := h _ hx
  rfl

/-- The calls that determine the wait for an interval, and the wait: a draw, or none. -/
inductive Spaced (b : Backoff) (interval : TimeSpan) : List Exchange → TimeSpan → Prop where
  /-- There is nothing to draw, and the wait is the interval. -/
  | plain (h : interval.isZero = true ∨
      b.randomizationFactor.isNaN = false ∧ b.randomizationFactor.isPositive = false) :
      Spaced b interval [] interval
  /-- A wait is drawn, and the maximum bounds it. -/
  | drawn {d : TimeSpan} (hzero : interval.isZero = false)
      (hpositive : b.randomizationFactor.isPositive = true) :
      Spaced b interval [⟨.draw interval b.randomizationFactor, some d⟩] (min d b.maxInterval)

namespace Backoff

variable {b : Backoff} {interval wait : TimeSpan} {ws : List Exchange}

/-- The interval after so many failed checks. -/
def interval? (b : Backoff) : Nat → Option TimeSpan
  | 0 => some b.firstInterval
  | k + 1 => (b.interval? k).bind b.grow?

theorem min_le_maxInterval (d : TimeSpan) : min d b.maxInterval ≤ b.maxInterval := by
  rw [TimeSpan.le_def, TimeSpan.nanos_min]
  exact Nat.min_le_right _ _

theorem grow?_le {next : TimeSpan} (h : b.grow? interval = some next) : next ≤ b.maxInterval := by
  obtain ⟨d, -, rfl⟩ := Option.map_eq_some_iff.1 h
  exact min_le_maxInterval d

theorem run_wait {e : Ending TimeSpan} (h : Run (b.wait interval) ws e) :
    (∃ wait, e = .ok wait ∧ Spaced b interval ws wait) ∨
      e = .error .overflow ∧ OnlyDraws ws := by
  unfold wait at h
  split at h
  next hzero =>
    obtain ⟨rfl, rfl⟩ := run_done_iff.1 h
    exact .inl ⟨_, rfl, .plain (.inl hzero)⟩
  next hzero =>
    split at h
    next =>
      obtain ⟨rfl, rfl⟩ := run_halt_iff.1 h
      exact .inr ⟨rfl, by simp [OnlyDraws]⟩
    next hnumber =>
      split at h
      next hpositive =>
        replace h := run_call_bind_iff.1 h
        obtain ⟨reply, rest, rfl, h⟩ := h
        cases reply with
        | none =>
          obtain ⟨rfl, rfl⟩ := run_halt_iff.1 h
          exact .inr ⟨rfl, by simp [OnlyDraws]⟩
        | some d =>
          obtain ⟨rfl, rfl⟩ := run_done_iff.1 h
          exact .inl ⟨_, rfl, .drawn (by simpa using hzero) hpositive⟩
      next hpositive =>
        obtain ⟨rfl, rfl⟩ := run_done_iff.1 h
        exact .inl ⟨_, rfl, .plain (.inr ⟨by simpa using hnumber, by simpa using hpositive⟩)⟩

end Backoff

namespace Spaced

variable {b : Backoff} {interval wait : TimeSpan} {ws : List Exchange}

/-- No wait is longer than the maximum. -/
theorem le (h : Spaced b interval ws wait) (hinterval : interval ≤ b.maxInterval) :
    wait ≤ b.maxInterval := by
  cases h with
  | plain => exact hinterval
  | drawn => exact b.min_le_maxInterval _

theorem onlyDraws (h : Spaced b interval ws wait) : OnlyDraws ws := by
  cases h <;> simp [OnlyDraws]

end Spaced

/-! ## Rounds -/

/-- The calls of a round up to a check that failed, the clock after it and what determines the next
wait. -/
def missed (p : UInt32) (w : WorkloadSet) (last : Failure) (t : TimeSpan) (ws : List Exchange) :
    List Exchange :=
  [⟨.stopping, false⟩, ⟨.check p w, some (.error last)⟩, ⟨.now, t⟩] ++ ws

/-- The rounds of a poll that was begun at `start`, with the rounds that are left, the current
interval and the number of checks so far, and how it ends. -/
inductive PollRounds (b : Backoff) (p : UInt32) (w : WorkloadSet) (start : TimeSpan) :
    Nat → TimeSpan → UInt32 → List Exchange → Ending (Except PollError UInt32) → Prop where
  /-- No rounds are left. -/
  | exhausted {interval : TimeSpan} {n : UInt32} :
      PollRounds b p w start 0 interval n [] (.error .exhausted)
  /-- The signal is up before the check. -/
  | interrupted {rounds : Nat} {interval : TimeSpan} {n : UInt32} :
      PollRounds b p w start (rounds + 1) interval n [⟨.stopping, true⟩]
        (.ok (.error (.cancelled n)))
  /-- It goes up during the check. -/
  | cut {rounds : Nat} {interval : TimeSpan} {n : UInt32} :
      PollRounds b p w start (rounds + 1) interval n [⟨.stopping, false⟩, ⟨.check p w, none⟩]
        (.ok (.error (.cancelled (n + 1))))
  /-- The check succeeds. -/
  | hit {rounds : Nat} {interval : TimeSpan} {n : UInt32} :
      PollRounds b p w start (rounds + 1) interval n
        [⟨.stopping, false⟩, ⟨.check p w, some (.ok ())⟩] (.ok (.ok (n + 1)))
  /-- It fails, and no wait can be determined. -/
  | undrawn {rounds : Nat} {interval t : TimeSpan} {n : UInt32} {last : Failure}
      {ws : List Exchange} (hwait : Run (b.wait interval) ws (.error .overflow))
      (hdraws : OnlyDraws ws) :
      PollRounds b p w start (rounds + 1) interval n (missed p w last t ws) (.error .overflow)
  /-- It fails, and the end of the wait is out of range. -/
  | overlong {rounds : Nat} {interval t wait : TimeSpan} {n : UInt32} {last : Failure}
      {ws : List Exchange} (hwait : Spaced b interval ws wait)
      (hsum : (t - start).add? wait = none) :
      PollRounds b p w start (rounds + 1) interval n (missed p w last t ws) (.error .overflow)
  /-- It fails, and the wait would end beyond the budget. -/
  | expired {rounds : Nat} {interval t wait : TimeSpan} {n : UInt32} {last : Failure}
      {ws : List Exchange} (hwait : Spaced b interval ws wait)
      (hlate : b.maxElapsed.nanos < (t - start).nanos + wait.nanos) :
      PollRounds b p w start (rounds + 1) interval n (missed p w last t ws)
        (.ok (.error (.timedOut (n + 1) (t - start) last)))
  /-- It fails, and the signal ends the wait. -/
  | woken {rounds : Nat} {interval t wait : TimeSpan} {n : UInt32} {last : Failure}
      {ws : List Exchange} (hwait : Spaced b interval ws wait)
      (hfits : (t - start).nanos + wait.nanos ≤ b.maxElapsed.nanos) :
      PollRounds b p w start (rounds + 1) interval n (missed p w last t ws ++ [⟨.sleep wait, true⟩])
        (.ok (.error (.cancelled (n + 1))))
  /-- It fails, and the interval grows out of range after the wait. -/
  | outgrown {rounds : Nat} {interval t wait : TimeSpan} {n : UInt32} {last : Failure}
      {ws : List Exchange} (hwait : Spaced b interval ws wait)
      (hfits : (t - start).nanos + wait.nanos ≤ b.maxElapsed.nanos)
      (hgrow : b.grow? interval = none) :
      PollRounds b p w start (rounds + 1) interval n
        (missed p w last t ws ++ [⟨.sleep wait, false⟩]) (.error .overflow)
  /-- It fails, and after the wait comes another round. -/
  | again {rounds : Nat} {interval t wait next : TimeSpan} {n : UInt32} {last : Failure}
      {ws es : List Exchange} {e : Ending (Except PollError UInt32)}
      (hwait : Spaced b interval ws wait)
      (hfits : (t - start).nanos + wait.nanos ≤ b.maxElapsed.nanos)
      (hgrow : b.grow? interval = some next)
      (rest : PollRounds b p w start rounds next (n + 1) es e) :
      PollRounds b p w start (rounds + 1) interval n
        (missed p w last t ws ++ ⟨.sleep wait, false⟩ :: es) e

section

variable {b : Backoff} {p : UInt32} {w : WorkloadSet} {start interval : TimeSpan} {rounds : Nat}
  {n : UInt32} {es : List Exchange} {e : Ending (Except PollError UInt32)}

/-- With a wait determined, a round gives up, or it waits and leaves the rest to the next one. -/
theorem pollRounds_of_waited {t wait : TimeSpan} {last : Failure} {ws : List Exchange}
    (hwait : Spaced b interval ws wait)
    (later : ∀ {next : TimeSpan} {es : List Exchange},
      Run (pollFrom b (.call (.check p w)) start rounds next (n + 1)) es e →
        PollRounds b p w start rounds next (n + 1) es e)
    (h : Run (do
      let reach ← .ofOption ((t - start).add? wait)
      if b.maxElapsed < reach then
        return .error (.timedOut (n + 1) (t - start) last)
      if ← .call (.sleep wait) then
        return .error (.cancelled (n + 1))
      let next ← .ofOption (b.grow? interval)
      pollFrom b (.call (.check p w)) start rounds next (n + 1)) es e) :
    PollRounds b p w start (rounds + 1) interval n (missed p w last t ws ++ es) e := by
  cases hsum : (t - start).add? wait with
  | none =>
    rw [hsum] at h
    obtain ⟨rfl, rfl⟩ := run_halt_iff.1 h
    rw [List.append_nil]
    exact .overlong hwait hsum
  | some reach =>
    have hreach : reach.nanos = (t - start).nanos + wait.nanos :=
      TimeSpan.ofNanos?_eq_some_iff.1 hsum
    rw [hsum] at h
    simp only [ofOption, done_bind] at h
    split at h
    next hlate =>
      obtain ⟨rfl, rfl⟩ := run_done_iff.1 h
      rw [TimeSpan.lt_def, hreach] at hlate
      rw [List.append_nil]
      exact .expired hwait hlate
    next hfits =>
      rw [TimeSpan.lt_def, hreach, Nat.not_lt] at hfits
      replace h := run_call_bind_iff.1 h
      obtain ⟨stopped, es, rfl, h⟩ := h
      cases stopped with
      | true =>
        obtain ⟨rfl, rfl⟩ := run_done_iff.1 h
        exact .woken hwait hfits
      | false =>
        replace h : Run (ofOption (b.grow? interval) >>= fun next =>
          pollFrom b (.call (.check p w)) start rounds next (n + 1)) es e := h
        cases hgrow : b.grow? interval with
        | none =>
          rw [hgrow] at h
          obtain ⟨rfl, rfl⟩ := run_halt_iff.1 h
          exact .outgrown hwait hfits hgrow
        | some next =>
          rw [hgrow] at h
          exact .again hwait hfits hgrow (later h)

theorem pollRounds_of_run
    (h : Run (pollFrom b (.call (.check p w)) start rounds interval n) es e) :
    PollRounds b p w start rounds interval n es e := by
  induction rounds generalizing interval n es with
  | zero =>
    obtain ⟨rfl, rfl⟩ := run_halt_iff.1 h
    exact .exhausted
  | succ rounds ih =>
    rw [pollFrom, run_call_bind_iff] at h
    obtain ⟨stopped, es, rfl, h⟩ := h
    cases stopped with
    | true =>
      obtain ⟨rfl, rfl⟩ := run_done_iff.1 h
      exact .interrupted
    | false =>
      simp only [Bool.false_eq_true, if_false] at h
      replace h := run_call_bind_iff.1 h
      obtain ⟨reply, es, rfl, h⟩ := h
      rcases reply with _ | last | _
      case none =>
        obtain ⟨rfl, rfl⟩ := run_done_iff.1 h
        exact .cut
      case some.ok =>
        obtain ⟨rfl, rfl⟩ := run_done_iff.1 h
        exact .hit
      case some.error =>
        replace h := run_call_bind_iff.1 h
        obtain ⟨t, es, rfl, h⟩ := h
        replace h := run_bind_iff.1 h
        rcases h with ⟨wait, ws, es, rfl, hwait, h⟩ | ⟨halt, rfl, hwait⟩
        · rcases Backoff.run_wait hwait with ⟨_, heq, hwait⟩ | ⟨⟨⟩, -⟩
          obtain rfl := Except.ok.inj heq
          exact pollRounds_of_waited hwait ih h
        · rcases Backoff.run_wait hwait with ⟨_, ⟨⟩, -⟩ | ⟨heq, hdraws⟩
          obtain rfl := Except.error.inj heq
          exact .undrawn hwait hdraws

end

/-! ## Before a round -/

theorem checks_missed {p : UInt32} {w : WorkloadSet} {last : Failure} {t : TimeSpan}
    {ws : List Exchange} (h : OnlyDraws ws) :
    checks (missed p w last t ws) = [some (.error last)] := by
  unfold missed
  rw [checks_append, h.checks_eq_nil]
  rfl

/-- What is known of the calls before a round. -/
structure BeforeRound (b : Backoff) (failures : List Failure) (interval : TimeSpan) (n : UInt32)
    (before : List Exchange) : Prop where
  /-- All checks failed. -/
  checks : PartitionedRollout.checks before = misses failures
  /-- They were counted. -/
  count : n.toNat = failures.length
  /-- The interval has grown with each of them. -/
  interval : b.interval? failures.length = some interval
  /-- It is the first round, or the last call was a wait that was not cut short. -/
  rested : before = [] ∨ ∃ front d, before = front ++ [⟨.sleep d, false⟩]

namespace BeforeRound

variable {b : Backoff} {p : UInt32} {w : WorkloadSet} {failures : List Failure}
  {interval next wait t : TimeSpan} {n : UInt32} {before ws : List Exchange} {last : Failure}

theorem first (b : Backoff) : BeforeRound b [] b.firstInterval 0 [] :=
  ⟨rfl, rfl, rfl, .inl rfl⟩

/-- No interval is longer than the maximum. -/
theorem interval_le (h : BeforeRound b failures interval n before) : interval ≤ b.maxInterval := by
  have hinterval := h.interval
  cases hfailures : failures.length with
  | zero =>
    rw [hfailures] at hinterval
    obtain rfl := Option.some.inj hinterval
    exact b.min_le_maxInterval _
  | succ k =>
    rw [hfailures] at hinterval
    obtain ⟨d, -, hd⟩ := Option.bind_eq_some_iff.1 hinterval
    exact Backoff.grow?_le hd

/-- The number of checks does not wrap while it can be counted. -/
theorem count_succ (h : BeforeRound b failures interval n before)
    (hsize : failures.length + 1 < UInt32.size) : (n + 1).toNat = failures.length + 1 := by
  rw [UInt32.toNat_add, h.count, UInt32.toNat_one]
  exact Nat.mod_eq_of_lt hsize

/-- A round adds its checks. -/
theorem checks_append (h : BeforeRound b failures interval n before) (es : List Exchange) :
    PartitionedRollout.checks (before ++ es) =
      misses failures ++ PartitionedRollout.checks es := by
  rw [PartitionedRollout.checks_append, h.checks]

/-- A check that failed is one of them. -/
theorem checks_missed (h : BeforeRound b failures interval n before) (hws : OnlyDraws ws) :
    PartitionedRollout.checks (before ++ missed p w last t ws) = misses (failures ++ [last]) := by
  rw [h.checks_append, PartitionedRollout.checks_missed hws, misses_concat]

/-- A wait is none. -/
theorem checks_slept (h : BeforeRound b failures interval n before) (hws : OnlyDraws ws)
    {d : TimeSpan} {cut : Bool} :
    PartitionedRollout.checks (before ++ (missed p w last t ws ++ [⟨.sleep d, cut⟩])) =
      misses (failures ++ [last]) := by
  rw [← List.append_assoc, PartitionedRollout.checks_append, h.checks_missed hws]
  exact List.append_nil _

/-- A failed check and the wait after it lead to the next round. -/
theorem again (h : BeforeRound b failures interval n before)
    (hsize : failures.length + 1 < UInt32.size) (hwait : Spaced b interval ws wait)
    (hgrow : b.grow? interval = some next) :
    BeforeRound b (failures ++ [last]) next (n + 1)
      (before ++ missed p w last t ws ++ [⟨.sleep wait, false⟩]) := by
  refine ⟨?_, ?_, ?_, .inr ⟨_, _, rfl⟩⟩
  · rw [List.append_assoc, h.checks_slept hwait.onlyDraws]
  · rw [h.count_succ hsize, List.length_append, List.length_singleton]
  · rw [List.length_append, List.length_singleton, Backoff.interval?, h.interval]
    exact hgrow

/-- What has been counted so far can be counted. -/
theorem size_of_slept (h : BeforeRound b failures interval n before) (hws : OnlyDraws ws)
    {es : List Exchange}
    (hsize : (PartitionedRollout.checks
      (before ++ missed p w last t ws ++ [⟨.sleep wait, false⟩] ++ es)).length < UInt32.size) :
    failures.length + 1 < UInt32.size := by
  rw [PartitionedRollout.checks_append, List.append_assoc before, h.checks_slept hws,
    List.length_append, length_misses, List.length_append] at hsize
  exact Nat.lt_of_le_of_lt (Nat.le_add_right _ _) hsize

end BeforeRound

/-! ## How a poll ends -/

/-- How a poll of so many rounds ends, given the calls after its first look at the clock. -/
inductive PollEnd (b : Backoff) (p : UInt32) (w : WorkloadSet) (start : TimeSpan) (rounds : Nat)
    (es : List Exchange) : Ending (Except PollError UInt32) → Prop where
  /-- The last check succeeded, and those before it failed. -/
  | succeeded {failures : List Failure} {n : UInt32}
      (hchecks : checks es = misses failures ++ [some (.ok ())])
      (hcount : n.toNat = failures.length + 1) : PollEnd b p w start rounds es (.ok (.ok n))
  /-- All checks failed, and the wait after the last one would have ended beyond the budget. -/
  | timedOut {failures : List Failure} {n : UInt32} {last : Failure} {t interval wait : TimeSpan}
      {pre ws : List Exchange} (hchecks : checks es = misses (failures ++ [last]))
      (hcount : n.toNat = failures.length + 1) (hcalls : es = pre ++ missed p w last t ws)
      (hinterval : b.interval? failures.length = some interval) (hwait : Spaced b interval ws wait)
      (hlate : b.maxElapsed.nanos < (t - start).nanos + wait.nanos) :
      PollEnd b p w start rounds es (.ok (.error (.timedOut n (t - start) last)))
  /-- The signal was noticed, or it cut a check short. -/
  | cancelled {failures : List Failure} {n : UInt32} {rest : List (Option (Except Failure Unit))}
      (hchecks : checks es = misses failures ++ rest) (hrest : rest = [] ∨ rest = [none])
      (hcount : n.toNat = (checks es).length) (hnoticed : rest = [] → ∃ x ∈ es, x.Noticed) :
      PollEnd b p w start rounds es (.ok (.error (.cancelled n)))
  /-- All checks failed, and a length of time outgrew its range. -/
  | overflow {failures : List Failure} (hchecks : checks es = misses failures) :
      PollEnd b p w start rounds es (.error .overflow)
  /-- All checks failed, and the rounds were used up. -/
  | exhausted {failures : List Failure} (hchecks : checks es = misses failures)
      (hcount : failures.length = rounds) : PollEnd b p w start rounds es (.error .exhausted)

section

variable {b : Backoff} {p : UInt32} {w : WorkloadSet} {start interval : TimeSpan}
  {rounds total : Nat} {n : UInt32} {before es : List Exchange}
  {e : Ending (Except PollError UInt32)} {failures : List Failure}

/-- One round after the other, the poll comes to one of these ends. -/
theorem PollRounds.pollEnd (h : PollRounds b p w start rounds interval n es e)
    (hbefore : BeforeRound b failures interval n before) (htotal : failures.length + rounds = total)
    (hsize : (checks (before ++ es)).length < UInt32.size) :
    PollEnd b p w start total (before ++ es) e := by
  induction h generalizing before failures with
  | exhausted =>
    have hchecks : checks (before ++ []) = misses failures := by
      rw [List.append_nil, hbefore.checks]
    exact .exhausted hchecks htotal
  | interrupted =>
    have hchecks := hbefore.checks_append [⟨.stopping, true⟩]
    refine .cancelled hchecks (.inl rfl) ?_ fun _ => ⟨⟨.stopping, true⟩, by simp, rfl⟩
    rw [hchecks, hbefore.count, List.length_append, length_misses]
    rfl
  | cut =>
    have hchecks := hbefore.checks_append [⟨.stopping, false⟩, ⟨.check p w, none⟩]
    have hlength := congrArg List.length hchecks
    rw [List.length_append, length_misses] at hlength
    refine .cancelled hchecks (.inr rfl) ?_ (by simp [checks, Exchange.checked?])
    rw [hlength] at hsize ⊢
    exact hbefore.count_succ hsize
  | hit =>
    have hchecks := hbefore.checks_append [⟨.stopping, false⟩, ⟨.check p w, some (.ok ())⟩]
    rw [hchecks, List.length_append, length_misses] at hsize
    exact .succeeded hchecks (hbefore.count_succ hsize)
  | undrawn _ hdraws => exact .overflow (hbefore.checks_missed hdraws)
  | overlong hwait => exact .overflow (hbefore.checks_missed hwait.onlyDraws)
  | outgrown hwait => exact .overflow (hbefore.checks_slept hwait.onlyDraws)
  | @expired _ _ t _ _ last _ hwait hlate =>
    have hchecks : checks (before ++ missed p w last t _) = _ :=
      hbefore.checks_missed hwait.onlyDraws
    rw [hchecks, length_misses, List.length_append] at hsize
    exact .timedOut hchecks (hbefore.count_succ hsize) rfl hbefore.interval hwait hlate
  | @woken _ _ t wait _ last _ hwait =>
    have hchecks : checks (before ++ (missed p w last t _ ++ [⟨.sleep wait, true⟩])) = _ :=
      hbefore.checks_slept hwait.onlyDraws
    rw [hchecks, length_misses, List.length_append] at hsize
    refine .cancelled (hchecks.trans (List.append_nil _).symm) (.inl rfl) ?_ ?_
    · rw [hchecks, length_misses, List.length_append]
      exact hbefore.count_succ hsize
    · exact fun _ => ⟨⟨.sleep wait, true⟩, by simp, rfl⟩
  | @again _ _ t wait _ _ last ws es _ hwait _ hgrow _ ih =>
    rw [show before ++ (missed p w last t ws ++ ⟨.sleep wait, false⟩ :: es) =
      before ++ missed p w last t ws ++ [⟨.sleep wait, false⟩] ++ es by simp] at hsize ⊢
    have hlength := hbefore.size_of_slept hwait.onlyDraws hsize
    refine ih (hbefore.again hlength hwait hgrow) ?_ hsize
    rw [← htotal, List.length_append, List.length_singleton]
    omega

end

/-! ## Single calls -/

/-- At every call of a row something holds of the calls before it, of itself and of those after
it. -/
def Everywhere (P : List Exchange → Exchange → List Exchange → Prop) :
    List Exchange → List Exchange → Prop
  | _, [] => True
  | before, x :: after => P before x after ∧ Everywhere P (before ++ [x]) after

theorem Everywhere.split {P : List Exchange → Exchange → List Exchange → Prop}
    {before pre post : List Exchange} {x : Exchange}
    (h : Everywhere P before (pre ++ x :: post)) : P (before ++ pre) x post := by
  induction pre generalizing before with
  | nil =>
    rw [List.append_nil]
    exact h.1
  | cons y pre ih =>
    have hrest := ih h.2
    rwa [List.append_assoc] at hrest

/-- What holds of a wait, given the calls before it and after it. -/
structure Paced (b : Backoff) (start : TimeSpan) (e : Ending (Except PollError UInt32))
    (before : List Exchange) (d : TimeSpan) (cut : Bool) (after : List Exchange) : Prop where
  /-- The maximum bounds it. -/
  capped : d ≤ b.maxInterval
  /-- By the latest reading of the clock, it ends within the budget. -/
  within : ∃ front t ws, before = front ++ ⟨.now, t⟩ :: ws ∧ OnlyDraws ws ∧
    (t - start).nanos + d.nanos ≤ b.maxElapsed.nanos
  /-- If the signal goes up meanwhile and stays up, the poll ends as cancelled, with the number of
  checks so far, unless the wait was not cut short and the poll has no result. -/
  interrupted : cut = true ∨ Told after →
    (∃ n, e = .ok (.error (.cancelled n)) ∧ n.toNat = (checks before).length) ∨
      cut = false ∧ ∃ halt, e = .error halt

/-- What holds of a call of a poll, given the calls before it and after it. -/
def PollCall (b : Backoff) (start : TimeSpan) (e : Ending (Except PollError UInt32))
    (before : List Exchange) : Exchange → List Exchange → Prop
  | ⟨.check _ _, _⟩, _ => before = [⟨.stopping, false⟩] ∨
      ∃ front d, before = front ++ [⟨.sleep d, false⟩, ⟨.stopping, false⟩]
  | ⟨.sleep d, cut⟩, after => Paced b start e before d cut after
  | _, _ => True

section

variable {b : Backoff} {p : UInt32} {w : WorkloadSet} {start interval : TimeSpan}
  {rounds : Nat} {n : UInt32} {before es ws : List Exchange}
  {e : Ending (Except PollError UInt32)} {failures : List Failure}

theorem OnlyDraws.everywhere (h : OnlyDraws ws)
    (hes : Everywhere (PollCall b start e) (before ++ ws) es) :
    Everywhere (PollCall b start e) before (ws ++ es) := by
  induction ws generalizing before with
  | nil => rwa [List.append_nil] at hes
  | cons x ws ih =>
    obtain ⟨hx, hws⟩ := List.forall_mem_cons.1 h
    obtain ⟨r, reply⟩ := x
    obtain ⟨d, f, rfl⟩ := hx
    refine ⟨trivial, ih hws ?_⟩
    rwa [List.append_assoc]

/-- A check is made right after the first look at the signal, or after the look that follows a
wait. -/
theorem BeforeRound.pollCall_check (h : BeforeRound b failures interval n before)
    {reply : Option (Except Failure Unit)} {after : List Exchange} :
    PollCall b start e (before ++ [⟨.stopping, false⟩]) ⟨.check p w, reply⟩ after := by
  rcases h.rested with rfl | ⟨front, d, rfl⟩
  · exact .inl rfl
  · exact .inr ⟨front, d, by simp⟩

theorem BeforeRound.everywhere_missed (h : BeforeRound b failures interval n before)
    {last : Failure} {t : TimeSpan} (hws : OnlyDraws ws)
    (hes : Everywhere (PollCall b start e) (before ++ missed p w last t ws) es) :
    Everywhere (PollCall b start e) before (missed p w last t ws ++ es) := by
  refine ⟨trivial, h.pollCall_check, trivial, hws.everywhere ?_⟩
  simpa [missed] using hes

/-- With the signal up, nothing but a look at it follows. -/
theorem PollRounds.told (h : PollRounds b p w start rounds interval n es e) (htold : Told es) :
    e = .ok (.error (.cancelled n)) ∨ e = .error .exhausted := by
  cases h with
  | exhausted => exact .inr rfl
  | interrupted => exact .inl rfl
  | _ =>
    -- All other rounds begin with a look that does not notice it.
    have hnoticed : false = true := htold ⟨.stopping, false⟩ (by simp [missed]) rfl
    cases hnoticed

theorem BeforeRound.paced (h : BeforeRound b failures interval n before) {last : Failure}
    {t wait : TimeSpan} {cut : Bool} {after : List Exchange} (hwait : Spaced b interval ws wait)
    (hfits : (t - start).nanos + wait.nanos ≤ b.maxElapsed.nanos)
    (hsize : failures.length + 1 < UInt32.size)
    (hends : cut = true ∨ Told after →
      e = .ok (.error (.cancelled (n + 1))) ∨ cut = false ∧ ∃ halt, e = .error halt) :
    Paced b start e (before ++ missed p w last t ws) wait cut after := by
  refine ⟨hwait.le h.interval_le, ?_, ?_⟩
  · exact ⟨before ++ [⟨.stopping, false⟩, ⟨.check p w, some (.error last)⟩], t, ws,
      by simp [missed], hwait.onlyDraws, hfits⟩
  · intro hnoticed
    refine (hends hnoticed).imp_left fun he => ⟨n + 1, he, ?_⟩
    rw [h.count_succ hsize, h.checks_missed hwait.onlyDraws, length_misses, List.length_append]
    rfl

theorem PollRounds.everywhere (h : PollRounds b p w start rounds interval n es e)
    (hbefore : BeforeRound b failures interval n before)
    (hsize : (checks (before ++ es)).length < UInt32.size) :
    Everywhere (PollCall b start e) before es := by
  induction h generalizing before failures with
  | exhausted => exact trivial
  | interrupted => exact ⟨trivial, trivial⟩
  | cut => exact ⟨trivial, hbefore.pollCall_check, trivial⟩
  | hit => exact ⟨trivial, hbefore.pollCall_check, trivial⟩
  | undrawn _ hdraws =>
    rw [← List.append_nil (missed ..)]
    exact hbefore.everywhere_missed hdraws trivial
  | overlong hwait =>
    rw [← List.append_nil (missed ..)]
    exact hbefore.everywhere_missed hwait.onlyDraws trivial
  | expired hwait =>
    rw [← List.append_nil (missed ..)]
    exact hbefore.everywhere_missed hwait.onlyDraws trivial
  | woken hwait hfits =>
    rw [hbefore.checks_slept hwait.onlyDraws, length_misses, List.length_append] at hsize
    refine hbefore.everywhere_missed hwait.onlyDraws ⟨hbefore.paced hwait hfits hsize ?_, trivial⟩
    exact fun _ => .inl rfl
  | outgrown hwait hfits =>
    rw [hbefore.checks_slept hwait.onlyDraws, length_misses, List.length_append] at hsize
    refine hbefore.everywhere_missed hwait.onlyDraws ⟨hbefore.paced hwait hfits hsize ?_, trivial⟩
    exact fun _ => .inr ⟨rfl, _, rfl⟩
  | @again _ _ t wait _ _ last ws es _ hwait hfits hgrow hrest ih =>
    rw [show before ++ (missed p w last t ws ++ ⟨.sleep wait, false⟩ :: es) =
      before ++ missed p w last t ws ++ [⟨.sleep wait, false⟩] ++ es by simp] at hsize
    have hlength := hbefore.size_of_slept hwait.onlyDraws hsize
    refine hbefore.everywhere_missed hwait.onlyDraws
      ⟨hbefore.paced hwait hfits hlength ?_, ih (hbefore.again hlength hwait hgrow) hsize⟩
    rintro (hcut | htold)
    · cases hcut
    · exact (hrest.told htold).imp_right fun he => ⟨rfl, _, he⟩

end

/-! ## The contract -/

/-- What a poll promises, given the calls after its first look at the clock. -/
structure PollContract (b : Backoff) (p : UInt32) (w : WorkloadSet) (start : TimeSpan)
    (rounds : Nat) (es : List Exchange) (e : Ending (Except PollError UInt32)) : Prop where
  /-- With the signal up, it makes no check and ends as cancelled. Otherwise it checks at once. -/
  opening : (es = [⟨.stopping, true⟩] ∧ e = .ok (.error (.cancelled 0))) ∨
    ∃ reply rest, es = ⟨.stopping, false⟩ :: ⟨.check p w, reply⟩ :: rest
  /-- Every other check comes after a wait that was not cut short. -/
  again : ∀ pre q v reply post, es = pre ++ ⟨.check q v, reply⟩ :: post →
    pre = [⟨.stopping, false⟩] ∨ ∃ front d, pre = front ++ [⟨.sleep d, false⟩, ⟨.stopping, false⟩]
  /-- It succeeds with the first check that succeeds, and with its number. -/
  succeeds : ∀ n, e = .ok (.ok n) ↔ ∃ failures,
    checks es = misses failures ++ [some (.ok ())] ∧ n.toNat = failures.length + 1
  /-- It gives up after checks that all failed, as many as it says. It tells the failure of the last
  one, and how long after the beginning that was, and the wait that it has determined for the
  interval then would have ended beyond the budget. -/
  gives_up : ∀ n elapsed last, e = .ok (.error (.timedOut n elapsed last)) →
    ∃ failures t interval wait pre ws, checks es = misses (failures ++ [last]) ∧
      n.toNat = failures.length + 1 ∧ es = pre ++ missed p w last t ws ∧ elapsed = t - start ∧
      b.interval? failures.length = some interval ∧ Spaced b interval ws wait ∧
      b.maxElapsed.nanos < elapsed.nanos + wait.nanos
  /-- Its waits are not longer than the maximum, end within the budget, and can be cut short. -/
  sleeps : ∀ pre d cut post, es = pre ++ ⟨.sleep d, cut⟩ :: post → Paced b start e pre d cut post
  /-- It ends as cancelled only if the signal was noticed or cut a check short, and then with the
  number of checks. -/
  cancelled : ∀ n, e = .ok (.error (.cancelled n)) →
    n.toNat = (checks es).length ∧ ((∃ x ∈ es, x.Noticed) ∨ none ∈ checks es)
  /-- It has no result only if a length of time outgrew its range, or if all rounds were used. -/
  halts : ∀ h, e = .error h → h = .overflow ∨ h = .exhausted ∧ (checks es).length = rounds

namespace PollEnd

variable {b : Backoff} {p : UInt32} {w : WorkloadSet} {start : TimeSpan} {rounds : Nat}
  {es : List Exchange} {e : Ending (Except PollError UInt32)}

theorem succeeds_iff (h : PollEnd b p w start rounds es e) {n : UInt32} :
    e = .ok (.ok n) ↔ ∃ failures, checks es = misses failures ++ [some (.ok ())] ∧
      n.toNat = failures.length + 1 := by
  -- In all other cases, no check succeeded.
  have hnone {failures : List Failure} {rest : List (Option (Except Failure Unit))}
      (hchecks : checks es = misses failures ++ rest) (hrest : some (.ok ()) ∉ rest) :
      ¬ ∃ failures, checks es = misses failures ++ [some (.ok ())] ∧
        n.toNat = failures.length + 1 := by
    rintro ⟨failures', hchecks', -⟩
    have hmem : some (.ok ()) ∈ checks es := by simp [hchecks']
    rw [hchecks] at hmem
    rcases List.mem_append.1 hmem with hmem | hmem
    · exact not_mem_misses failures hmem
    · exact hrest hmem
  cases h with
  | @succeeded failures m hchecks hcount =>
    constructor
    · intro he
      obtain rfl := Except.ok.inj (Except.ok.inj he)
      exact ⟨failures, hchecks, hcount⟩
    · rintro ⟨failures', hchecks', hn⟩
      have hlength := congrArg List.length (hchecks.symm.trans hchecks')
      simp only [List.length_append, length_misses] at hlength
      obtain rfl : m = n := UInt32.toNat.inj (by omega)
      rfl
  | timedOut hchecks =>
    exact iff_of_false (by simp) (hnone (hchecks.trans (List.append_nil _).symm) (by simp))
  | cancelled hchecks hrest =>
    refine iff_of_false (by simp) (hnone hchecks ?_)
    rcases hrest with rfl | rfl <;> simp
  | overflow hchecks =>
    exact iff_of_false (by simp) (hnone (hchecks.trans (List.append_nil _).symm) (by simp))
  | exhausted hchecks =>
    exact iff_of_false (by simp) (hnone (hchecks.trans (List.append_nil _).symm) (by simp))

end PollEnd

section

variable {b : Backoff} {p : UInt32} {w : WorkloadSet} {start : TimeSpan} {rounds : Nat}
  {es : List Exchange} {e : Ending (Except PollError UInt32)}

theorem PollRounds.opening {interval : TimeSpan} {n : UInt32} (hrounds : 0 < rounds)
    (h : PollRounds b p w start rounds interval n es e) :
    (es = [⟨.stopping, true⟩] ∧ e = .ok (.error (.cancelled n))) ∨
      ∃ reply rest, es = ⟨.stopping, false⟩ :: ⟨.check p w, reply⟩ :: rest := by
  cases h with
  | exhausted => exact absurd hrounds (Nat.lt_irrefl 0)
  | interrupted => exact .inl ⟨rfl, rfl⟩
  | _ => exact .inr ⟨_, _, rfl⟩

theorem PollRounds.contract (hrounds : 0 < rounds)
    (h : PollRounds b p w start rounds b.firstInterval 0 es e)
    (hsize : (checks es).length < UInt32.size) : PollContract b p w start rounds es e := by
  have hend : PollEnd b p w start rounds es e :=
    h.pollEnd (.first b) (Nat.zero_add rounds) hsize
  have hcalls : Everywhere (PollCall b start e) [] es := h.everywhere (.first b) hsize
  constructor
  case opening => exact h.opening hrounds
  case again =>
    rintro pre q v reply post rfl
    exact hcalls.split
  case succeeds => exact fun n => hend.succeeds_iff
  case gives_up =>
    rintro n elapsed last rfl
    cases hend with
    | timedOut hchecks hcount hcalls hinterval hwait hlate =>
      exact ⟨_, _, _, _, _, _, hchecks, hcount, hcalls, rfl, hinterval, hwait, hlate⟩
  case sleeps =>
    rintro pre d cut post rfl
    exact hcalls.split
  case cancelled =>
    rintro n rfl
    cases hend with
    | cancelled hchecks hrest hcount hnoticed =>
      refine ⟨hcount, ?_⟩
      rcases hrest with rfl | rfl
      · exact .inl (hnoticed rfl)
      · exact .inr (by simp [hchecks])
  case halts =>
    rintro halt rfl
    cases hend with
    | overflow => exact .inl rfl
    | exhausted hchecks hcount => exact .inr ⟨rfl, by rw [hchecks, length_misses, hcount]⟩

/-- **The contract of a poll.** Whatever the clock, the signal, the draws and the checks answer, and
however much time passes between them, a poll whose checks can be counted in 32 bits keeps its
promises. -/
theorem run_poll_contract (hrounds : 0 < rounds) (h : Run (poll rounds b (.call (.check p w))) es e)
    (hsize : (checks es).length < UInt32.size) :
    ∃ start rest, es = ⟨.now, start⟩ :: rest ∧ PollContract b p w start rounds rest e := by
  replace h := run_call_bind_iff.1 h
  obtain ⟨start, rest, rfl, h⟩ := h
  exact ⟨start, rest, rfl, (pollRounds_of_run h).contract hrounds hsize⟩

end

namespace ShortPoll

/-- Half a second at first, with random draws, for a second. -/
def backoff : Backoff :=
  { Backoff.standard with maxElapsed := .ofSecs 1 }

/-- The set whose replica is polled. -/
def desired : WorkloadSet :=
  .ofSpec ⟨"db", "a"⟩ 1 (.ofImage "v2")

/-- Two checks that take a while and fail, with a wait between them, and a draw that is too long. -/
def calls : List Exchange :=
  [⟨.stopping, false⟩, ⟨.check 0 desired, some (.error (.plain "not updated"))⟩,
    ⟨.now, .ofMillis 100⟩, ⟨.draw (.ofMillis 500) .half, some (.ofMillis 300)⟩,
    ⟨.sleep (.ofMillis 300), false⟩,
    ⟨.stopping, false⟩, ⟨.check 0 desired, some (.error (.plain "not ready"))⟩,
    ⟨.now, .ofMillis 450⟩, ⟨.draw (.ofMillis 750) .half, some (.ofMillis 600)⟩]

theorem firstInterval : backoff.firstInterval = .ofMillis 500 := by
  decide +kernel

theorem grow? : backoff.grow? (.ofMillis 500) = some (.ofMillis 750) := by
  decide +kernel

theorem run_calls :
    Run (poll 3 backoff (.call (.check 0 desired))) (⟨.now, .zero⟩ :: calls)
      (.ok (.error (.timedOut 2 (.ofMillis 450) (.plain "not ready")))) := by
  rw [poll, firstInterval]
  refine .ask _ <| .ask _ <| .ask _ <| .ask _ <| .ask _ <| .ask _ ?_
  simp only [grow?]
  exact .ask _ <| .ask _ <| .ask _ <| .ask _ <| .done _

end ShortPoll

/-- This poll gives up after two checks, since the third one would come too late. -/
theorem run_poll_contract_short :
    Run (poll 3 ShortPoll.backoff (.call (.check 0 ShortPoll.desired)))
        (⟨.now, .zero⟩ :: ShortPoll.calls)
        (.ok (.error (.timedOut 2 (.ofMillis 450) (.plain "not ready")))) ∧
      PollContract ShortPoll.backoff 0 ShortPoll.desired .zero 3 ShortPoll.calls
        (.ok (.error (.timedOut 2 (.ofMillis 450) (.plain "not ready")))) := by
  obtain ⟨start, rest, hes, hcontract⟩ :=
    run_poll_contract (by decide) ShortPoll.run_calls (by decide)
  cases hes
  exact ⟨ShortPoll.run_calls, hcontract⟩

end PartitionedRollout
